import Statewright.Text.Basic

/-!
Paths in a tree of files. Empty parts and single dots do not count, so a path has one text however it was spelled.
-/
set_option autoImplicit false

namespace Statewright.Command

structure Path where
  isAbsolute : Bool
  parts : List Text
deriving DecidableEq

namespace Path

def current : Text := ['.']

def parent : Text := ['.', '.']

def ofText (text : Text) : Path :=
  { isAbsolute := text.head? == some '/'
    parts := (Text.splitAt '/' text).filter fun part => !part.isEmpty && part != current }

def text (path : Path) : Text :=
  let joined := Text.join ['/'] path.parts
  if path.isAbsolute then '/' :: joined else if path.parts.isEmpty then current else joined

def child (path : Path) (name : Text) : Path := { path with parts := path.parts ++ [name] }

def name (path : Path) : Text := (path.parts.getLast?).getD []

def stemOf (name : Text) : Text :=
  let reversed := name.reverse
  let ending := reversed.takeWhile (· != '.')
  let stem := (reversed.drop (ending.length + 1)).reverse
  if ending.isEmpty || stem.isEmpty then name else stem

def stem (path : Path) : Text := stemOf path.name

end Path

end Statewright.Command
