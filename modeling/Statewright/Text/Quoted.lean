import Statewright.Text.UnicodeRanges
import Statewright.Text.Basic

/-!
Quoted text. Single quotes enclose it, unless it holds a single quote and no double one. The enclosing quote,
the backslash and every character without a visible form are escaped: three controls by a letter, the others by
as few hexadecimal digits as two, four or eight.
-/
set_option autoImplicit false

namespace Statewright.Text

def isPrintable (c : Char) : Bool :=
  let n := c.toNat
  if n < 128 then 32 ≤ n && n < 127 else !inRanges unprintable n

def hexDigits (n : Nat) : Text := Nat.toDigits 16 n

def padded (width : Nat) (digits : Text) : Text :=
  List.replicate (width - digits.length) '0' ++ digits

namespace Quoted

def quoteFor (text : Text) : Char :=
  if text.contains '\'' && !text.contains '"' then '"' else '\''

def escape (quote c : Char) : Text :=
  if c = quote || c = '\\' then ['\\', c]
  else if c = '\n' then ['\\', 'n']
  else if c = '\r' then ['\\', 'r']
  else if c = '\t' then ['\\', 't']
  else if isPrintable c then [c]
  else if c.toNat < 0x100 then '\\' :: 'x' :: padded 2 (hexDigits c.toNat)
  else if c.toNat < 0x10000 then '\\' :: 'u' :: padded 4 (hexDigits c.toNat)
  else '\\' :: 'U' :: padded 8 (hexDigits c.toNat)

end Quoted

def quoted (text : Text) : Text :=
  let quote := Quoted.quoteFor text
  quote :: text.flatMap (Quoted.escape quote) ++ [quote]

end Statewright.Text
