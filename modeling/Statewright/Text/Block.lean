import Statewright.Text.Blank
import Statewright.Text.Lines

/-!
Blocks of code inside a document. A block may be indented to match what surrounds it: `extract` drops the
blank lines at both ends and the indentation that all other lines share, and `indent` puts a block back at a
given depth, with `pass` standing for an empty one.
-/
set_option autoImplicit false

namespace Statewright.Text.Block

def isMargin (c : Char) : Bool := c = ' ' || c = '\t'

def margin (line : Text) : Text := line.takeWhile isMargin

def commonStart : Text → Text → Text
  | a :: as, b :: bs => if a = b then a :: commonStart as bs else []
  | _, _ => []

def sharedMargin (block : List Text) : Text :=
  match (block.filter fun line => !line.all isMargin).map margin with
  | [] => []
  | first :: rest => rest.foldl commonStart first

def dedent (block : List Text) : List Text :=
  let shared := sharedMargin block
  block.map fun line => if line.all isMargin then [] else line.drop shared.length

def dropBlankEnds (block : List Text) : List Text :=
  ((block.dropWhile blank).reverse.dropWhile blank).reverse

def extract (text : Text) : Text := unlines (dedent (dropBlankEnds (lines text)))

def indent (width : Nat) (text : Text) : Text :=
  if blank text then spaces width ++ "pass"
  else unlines ((lines text).map fun line => if blank line then [] else spaces width ++ line)

end Statewright.Text.Block
