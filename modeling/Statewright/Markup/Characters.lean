import Statewright.Text.Basic

/-!
Characters of markup: which may occur at all, which begin and continue names, and which are white space.
-/
set_option autoImplicit false

namespace Statewright.Markup

def isAllowed (c : Char) : Bool :=
  let n := c.toNat
  n = 9 || n = 10 || n = 13 || (0x20 ≤ n && n ≤ 0xd7ff) || (0xe000 ≤ n && n ≤ 0xfffd) || 0x10000 ≤ n

def isSpace (c : Char) : Bool := c = ' ' || c = '\t' || c = '\n' || c = '\r'

def startsName (c : Char) : Bool :=
  let n := c.toNat
  c.isAlpha || c = '_' || c = ':' || (0xc0 ≤ n && n ≤ 0xd6) || (0xd8 ≤ n && n ≤ 0xf6) || (0xf8 ≤ n && n ≤ 0x2ff) ||
    (0x370 ≤ n && n ≤ 0x37d) || (0x37f ≤ n && n ≤ 0x1fff) || (0x200c ≤ n && n ≤ 0x200d) ||
    (0x2070 ≤ n && n ≤ 0x218f) || (0x2c00 ≤ n && n ≤ 0x2fef) || (0x3001 ≤ n && n ≤ 0xd7ff) ||
    (0xf900 ≤ n && n ≤ 0xfdcf) || (0xfdf0 ≤ n && n ≤ 0xfffd) || (0x10000 ≤ n && n ≤ 0xeffff)

def continuesName (c : Char) : Bool :=
  let n := c.toNat
  startsName c || c.isDigit || c = '-' || c = '.' || n = 0xb7 || (0x300 ≤ n && n ≤ 0x36f) || (0x203f ≤ n && n ≤ 0x2040)

def bytesOf (c : Char) : List UInt8 := String.utf8EncodeChar c

end Statewright.Markup
