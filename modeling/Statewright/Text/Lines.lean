import Statewright.Text.Basic

/-!
Lines in the wide sense. A line ends at a line feed, a carriage return or the pair of them, at a vertical tab
or form feed, at a file, group or record separator, at the next-line control, and at the Unicode line and
paragraph separators. The end of the text also ends a line, unless that line would be empty.
-/
set_option autoImplicit false

namespace Statewright.Text

def endsLine (c : Char) : Bool :=
  let n := c.toNat
  (10 ≤ n && n ≤ 13) || (28 ≤ n && n ≤ 30) || n = 0x85 || n = 0x2028 || n = 0x2029

def pushFront (c : Char) : List Text → List Text
  | [] => [[c]]
  | line :: rest => (c :: line) :: rest

def lines : Text → List Text
  | [] => []
  | '\r' :: '\n' :: rest => [] :: lines rest
  | c :: rest => if endsLine c then [] :: lines rest else pushFront c (lines rest)

def unlines (all : List Text) : Text := join ['\n'] all

end Statewright.Text
