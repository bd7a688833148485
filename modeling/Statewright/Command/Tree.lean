import Statewright.Command.Path
import Statewright.Text.Quoted

/-!
Trees of files. A place is where a path leads to, step by step from the top; each step but the last leads to a
directory.
-/
set_option autoImplicit false

namespace Statewright.Command

abbrev Place := List Text

structure Tree where
  files : List (Place × Text) := []
  directories : List Place := []

inductive Obstacle where
  | missing
  | present
  | notDirectory
  | isDirectory
  | other (number : Nat) (meaning : Text)
deriving DecidableEq

namespace Obstacle

def number : Obstacle → Nat
  | missing => 2
  | present => 17
  | notDirectory => 20
  | isDirectory => 21
  | other number _ => number

def meaning : Obstacle → Text
  | missing => "No such file or directory"
  | present => "File exists"
  | notDirectory => "Not a directory"
  | isDirectory => "Is a directory"
  | other _ meaning => meaning

end Obstacle

structure Obstruction where
  obstacle : Obstacle
  path : Text
deriving DecidableEq

namespace Obstruction

def message (obstruction : Obstruction) : Text :=
  "[Errno " ++ Text.numeral obstruction.obstacle.number ++ "] " ++ obstruction.obstacle.meaning ++ ": " ++
    Text.quoted obstruction.path

end Obstruction

namespace Tree

def file? (tree : Tree) (place : Place) : Option Text := (tree.files.find? (·.1 == place)).map (·.2)

def isDirectory (tree : Tree) (place : Place) : Bool :=
  place.all (· == Path.parent) || place == [['/']] || tree.directories.contains place ||
    tree.files.any fun (file, _) => place.isPrefixOf file && place != file

def contains (tree : Tree) (place : Place) : Bool := tree.isDirectory place || (tree.file? place).isSome

def enter (place : Place) (part : Text) : Place :=
  if part != Path.parent then place ++ [part]
  else if place.all (· == Path.parent) then place ++ [part]
  else place.dropLast

def walkFrom (tree : Tree) : Place → List Text → Except Obstacle Place
  | place, [] => .ok place
  | place, part :: rest =>
    if tree.isDirectory place then tree.walkFrom (enter place part) rest
    else if (tree.file? place).isSome then .error .notDirectory
    else .error .missing

def walk (tree : Tree) (path : Path) : Except Obstacle Place :=
  tree.walkFrom (if path.isAbsolute then [['/']] else []) path.parts

def hasPath (tree : Tree) (path : Path) : Bool :=
  match tree.walk path with
  | .ok place => tree.contains place
  | .error _ => false

def read? (tree : Tree) (path : Path) : Option Text :=
  match tree.walk path with
  | .ok place => tree.file? place
  | .error _ => none

def makeDirectory (tree : Tree) (path : Path) : Except Obstacle Tree :=
  match tree.walk path with
  | .error obstacle => .error obstacle
  | .ok place =>
    if tree.isDirectory place then .ok tree
    else if (tree.file? place).isSome then .error .present
    else .ok { tree with directories := place :: tree.directories }

-- Makes a directory and those that it stands in. The parts are given last part first; the tree is what was made, also
-- where making stops.
def makeDirectories (isAbsolute : Bool) (tree : Tree) : (reversed : List Text) → Except Obstruction Unit × Tree
  | [] => (.ok (), tree)
  | part :: above =>
    let path : Path := ⟨isAbsolute, (part :: above).reverse⟩
    match tree.makeDirectory path with
    | .ok made => (.ok (), made)
    | .error .missing =>
      match makeDirectories isAbsolute tree above with
      | (.error obstruction, made) => (.error obstruction, made)
      | (.ok (), made) => match made.makeDirectory path with
        | .ok made => (.ok (), made)
        | .error obstacle => (.error ⟨obstacle, path.text⟩, made)
    | .error obstacle => (.error ⟨obstacle, path.text⟩, tree)

def write (tree : Tree) (path : Path) (text : Text) : Except Obstacle Tree :=
  match tree.walk path with
  | .error obstacle => .error obstacle
  | .ok place =>
    if tree.isDirectory place then .error .isDirectory
    else match place.getLast?, tree.isDirectory place.dropLast with
      | some _, true => .ok { tree with files := (place, text) :: tree.files.filter (·.1 != place) }
      | _, _ => .error .missing

def save (tree : Tree) (directory : Path) (name text : Text) : Except Obstruction Unit × Tree :=
  match makeDirectories directory.isAbsolute tree directory.parts.reverse with
  | (.error obstruction, made) => (.error obstruction, made)
  | (.ok (), made) =>
    let path := directory.child name
    match made.write path text with
    | .ok written => (.ok (), written)
    | .error obstacle => (.error ⟨obstacle, path.text⟩, made)

end Tree

end Statewright.Command
