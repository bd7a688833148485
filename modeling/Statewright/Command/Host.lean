import Statewright.Command.Tree

/-!
What a command does to its surroundings: it looks for files, reads and saves them, and writes to two streams. `Desk` is
a tree of files with both streams kept as text.
-/
set_option autoImplicit false

namespace Statewright.Command

structure Host (m : Type → Type) where
  hasPath : Path → m Bool
  readFile : (name : Text) → m (Option Text)
  save : (directory : Path) → (name text : Text) → m (Except Obstruction Unit)
  print : Text → m Unit
  complain : Text → m Unit

structure Desk where
  tree : Tree
  output : Text := []
  complaints : Text := []

namespace Desk

-- A name that ends in a slash, or in a dot by itself, is no file's.
def readFile (desk : Desk) (name : Text) : Option Text :=
  let last := ((Text.splitAt '/' name).getLast?).getD []
  if last.isEmpty || last == Path.current then none else desk.tree.read? (Path.ofText name)

def host : Host (StateM Desk) where
  hasPath path := do return (← get).tree.hasPath path
  readFile name := do return (← get).readFile name
  save directory name text := do
    let desk ← get
    let (outcome, tree) := desk.tree.save directory name text
    set { desk with tree }
    return outcome
  print text := modify fun desk => { desk with output := desk.output ++ text }
  complain text := modify fun desk => { desk with complaints := desk.complaints ++ text }

end Desk

end Statewright.Command
