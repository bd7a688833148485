import Statewright.Text.Basic

/-!
White space. A character is blank when it separates words in the wide sense: the ASCII controls from tab to
carriage return, the four information separators, the space, the next-line control, and every Unicode space,
line or paragraph separator. A text is blank when it holds nothing else.
-/
set_option autoImplicit false

namespace Statewright.Text

def isBlank (c : Char) : Bool :=
  let n := c.toNat
  (9 ≤ n && n ≤ 13) || (28 ≤ n && n ≤ 32) || n = 0x85 || n = 0xa0 || n = 0x1680 ||
    (0x2000 ≤ n && n ≤ 0x200a) || n = 0x2028 || n = 0x2029 || n = 0x202f || n = 0x205f || n = 0x3000

def blank (text : Text) : Bool := text.all isBlank

def dropEndWhile (p : Char → Bool) (text : Text) : Text := (text.reverse.dropWhile p).reverse

def strip (text : Text) : Text := dropEndWhile isBlank (text.dropWhile isBlank)

end Statewright.Text
