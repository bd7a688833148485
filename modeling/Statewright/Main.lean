import Statewright.Command.Generate

/-!
The command on the files and streams of the system it runs on.
-/
set_option autoImplicit false

namespace Statewright.Command

def obstacleOf : IO.Error → Obstacle
  | .noFileOrDirectory _ number meaning => .other number.toNat meaning.toList
  | .inappropriateType _ number meaning => .other number.toNat meaning.toList
  | .alreadyExists _ number meaning => .other number.toNat meaning.toList
  | .permissionDenied _ number meaning => .other number.toNat meaning.toList
  | other => .other 0 other.toString.toList

def saveFile (directory : Path) (name text : Text) : IO (Except Obstruction Unit) := do
  let file := directory.child name
  try
    IO.FS.createDirAll (String.ofList directory.text)
    IO.FS.writeFile (String.ofList file.text) (String.ofList text)
    return .ok ()
  catch error => return .error ⟨obstacleOf error, file.text⟩

def systemHost : Host IO where
  hasPath path := do
    try
      let _ ← IO.FS.Handle.mk (String.ofList path.text) .read
      return true
    catch _ => return false
  readFile name := do
    try return some (← IO.FS.readFile (String.ofList name)).toList
    catch _ => return none
  save := saveFile
  print text := do (← IO.getStdout).putStr (String.ofList text)
  complain text := do (← IO.getStderr).putStr (String.ofList text)

def escapeLine (trouble : Trouble) : Text := (trouble.fileMessage?.getD "unexpected failure") ++ ['\n']

end Statewright.Command

open Statewright.Command in
def main (words : List String) : IO UInt32 := do
  match ← generate systemHost (words.map (·.toList)) with
  | .code code => return code.toUInt32
  | .escaped trouble => do
    systemHost.complain (escapeLine trouble)
    return 1
