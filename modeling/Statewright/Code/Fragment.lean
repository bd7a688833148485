import Statewright.Code.Statement
import Statewright.Text.Block

/-!
Fragments of code as a specification carries them. A body is read inside a function, so that it may return; a
parameter list inside the heading of one.
-/
set_option autoImplicit false

namespace Statewright.Code

def bodyInFunction (isAsync : Bool) (body : Text) : Text :=
  (if isAsync then ("async def _body():\n" : Text) else "def _body():\n") ++
    Text.unlines ((Text.lines body).map (("    " : Text) ++ ·)) ++ ['\n']

def readBody (isAsync : Bool) (body : Text) : Reading (List Stmt) := readStatements (bodyInFunction isAsync body)

def firstParams : List Stmt → Params
  | .define _ params _ :: _ => params
  | _ => ⟨[], [], none, [], none⟩

def firstBody : List Stmt → List Stmt
  | .define _ _ body :: _ => body
  | _ => []

def readBlock (width : Nat) (body : Text) : Reading (List Stmt) :=
  (readStatements ("def _body():\n" ++ Text.Block.indent width body ++ ['\n'])).map firstBody

-- The heading of a function around a list of parameters, after what stands before them.
def heading (before params : Text) : Text := "def _f(" ++ before ++ params ++ "): pass"

-- A list that stands alone is read as deep as one that follows the object.
def readHeading (before params : Text) : Reading Params :=
  (readStatementsIn (levels (tokensOfLines (heading "self, " params))) (heading before params)).map firstParams

def readMethodParams (params : Text) : Reading Params :=
  (if params.isEmpty then readHeading "self" params else readHeading "self, " params).map (·.dropFirst)

def readParams (params : Text) : Reading Params := readHeading [] params

namespace Params

def forwarding (params : Params) : List Text :=
  (params.positionalOnly ++ params.positional).map (·.name) ++
    params.rest.toList.map (fun param => '*' :: param.name) ++
    params.keywordOnly.map (fun param => param.name ++ '=' :: param.name) ++
    params.keywords.toList.map (fun param => '*' :: '*' :: param.name)

end Params

def forwardingText (params : Text) : Reading Text :=
  if Text.blank params then .ok [] else (readParams params).map fun read => Text.join ", " read.forwarding

end Statewright.Code
