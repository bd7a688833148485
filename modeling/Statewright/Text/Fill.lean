import Statewright.Text.Basic

/-!
Filling: words set line by line, each line as full as the width allows. A word that is wider than the line
stands alone on one.
-/
set_option autoImplicit false

namespace Statewright.Text

def fillFrom (width : Nat) : Text → List Text → List Text
  | line, [] => [line]
  | line, word :: rest =>
    if line.length + 1 + word.length ≤ width then fillFrom width (line ++ ' ' :: word) rest
    else line :: fillFrom width word rest

def fill (width : Nat) (text : Text) : List Text :=
  match (splitAt ' ' text).filter (!·.isEmpty) with
  | [] => []
  | word :: rest => fillFrom width word rest

end Statewright.Text
