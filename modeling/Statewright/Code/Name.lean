import Statewright.Code.Token
import Statewright.Text.Identifier

/-!
Names in code: identifiers that are no reserved words, and paths of such names joined by dots.
-/
set_option autoImplicit false

namespace Statewright.Code

def isName (text : Text) : Bool := Text.isIdentifier text && (keyword? text).isNone

def isPath (text : Text) : Bool := (Text.splitAt '.' text).all isName

end Statewright.Code
