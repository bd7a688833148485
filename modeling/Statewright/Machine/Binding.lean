import Statewright.Text.Basic

/-!
Binding of arguments to parameters. Arguments are given by position or by name; a parameter that gets none takes its
default, and nothing is bound when one has neither, when an argument has no place, or when a place or a name is taken
twice. Inside a class a private name is another one, and its parameter is called by that.
-/
set_option autoImplicit false

namespace Statewright.Machine

structure Slot (α : Type) where
  name : Text
  default : Option α

-- A private name begins with two underscores and does not end with two.
def isPrivate (name : Text) : Bool := (Text.fixed "__").isPrefixOf name && !(Text.fixed "__").isSuffixOf name

-- What a name is inside a class; outside of all classes the name of the class is empty.
def nameWithin (owner name : Text) : Text :=
  let bare := owner.dropWhile (· == '_')
  if isPrivate name && !bare.isEmpty then '_' :: bare ++ name else name

-- The heading of a function, inside a class or not. The parameters in front are filled by the call itself and take no
-- argument.
structure Formals (α : Type) where
  owner : Text := []
  front : List Text := []
  positionalOnly : List (Slot α) := []
  positional : List (Slot α) := []
  rest : Option Text := none
  keywordOnly : List (Slot α) := []
  keywords : Option Text := none

inductive Bound (α : Type) where
  | one (value : α)
  | rest (values : List α)
  | keywords (entries : List (Text × α))

structure Arguments (α : Type) where
  positional : List α := []
  named : List (Text × α) := []

variable {α : Type}

def Arguments.isEmpty (arguments : Arguments α) : Bool := arguments.positional.isEmpty && arguments.named.isEmpty

def named? (entries : List (Text × α)) (name : Text) : Option α := (entries.find? (·.1 == name)).map (·.2)

def fillSlots (owner : Text) (named : List (Text × α)) : List (Slot α) → Option (List (Text × Bound α))
  | [] => some []
  | slot :: rest =>
    match (named? named (nameWithin owner slot.name)).or slot.default with
    | some value => (fillSlots owner named rest).map ((slot.name, .one value) :: ·)
    | none => none

def fillPositions (slots : List (Slot α)) (values : List α) : List (Text × Bound α) :=
  (slots.zip values).map fun (slot, value) => (slot.name, .one value)

namespace Formals

def headed (owner : Text) (front : List Text) (formals : Formals α) : Formals α := { formals with owner, front }

def key (formals : Formals α) (slot : Slot α) : Text := nameWithin formals.owner slot.name

-- The parameters in front can be named like others, unless a slash makes them positional only with those it follows.
def frontNames (formals : Formals α) : List Text := if formals.positionalOnly.isEmpty then formals.front else []

def openNames (formals : Formals α) : List Text :=
  formals.frontNames ++ (formals.positional ++ formals.keywordOnly).map formals.key

def bind (formals : Formals α) (arguments : Arguments α) : Option (List (Text × Bound α)) := do
  let slots := formals.positionalOnly ++ formals.positional
  let filled := arguments.positional.length
  let left := arguments.positional.drop slots.length
  let (known, unknown) := arguments.named.partition fun (name, _) => formals.openNames.contains name
  if ¬ (arguments.named.map (·.1)).Nodup then none
  if !left.isEmpty && formals.rest.isNone then none
  if !unknown.isEmpty && formals.keywords.isNone then none
  let taken := formals.frontNames ++
    (formals.positional.take (filled - formals.positionalOnly.length)).map formals.key
  if known.any fun (name, _) => taken.contains name then none
  let early ← fillSlots [] [] (formals.positionalOnly.drop filled)
  let late ← fillSlots formals.owner known (formals.positional.drop (filled - formals.positionalOnly.length))
  let byName ← fillSlots formals.owner known formals.keywordOnly
  let rest := formals.rest.toList.map fun name => (name, .rest left)
  let keywords := formals.keywords.toList.map fun name => (name, .keywords unknown)
  return fillPositions slots arguments.positional ++ early ++ late ++ rest ++ byName ++ keywords

-- The arguments that hand bound parameters on: those that a position may fill by position, the others by name. The
-- name of an argument is the same inside every class.
def forward (formals : Formals α) (bindings : List (Text × Bound α)) : Arguments α :=
  let byPosition := (formals.positionalOnly ++ formals.positional).map (·.name)
  { positional := bindings.flatMap fun (name, bound) => match bound with
      | .one value => if byPosition.contains name then [value] else []
      | .rest values => values
      | .keywords _ => []
    named := bindings.flatMap fun (name, bound) => match bound with
      | .one value => if byPosition.contains name then [] else [(name, value)]
      | .rest _ => []
      | .keywords entries => entries }

end Formals

end Statewright.Machine
