import Statewright.Code.Statement
import Statewright.Emission.Classes
import Statewright.Machine.Body

/-!
Classes of data as the lines of their fields define them. A line gives a field its name and, behind an equals sign, a
value that all objects share or a factory that makes one for each of them. A class cannot be defined if a type
names nothing, if its objects would share a value that can change, or if a field without a default follows one that has
one.
-/
set_option autoImplicit false

namespace Statewright.Machine

-- What the code of field lines comes to: the value of a default, what a call of that value makes, and whether there is
-- what a type names.
structure Meaning where
  value : Code.Expr → Value
  made : Code.Expr → Value
  types : Code.Expr → Bool

def literal : Code.Expr → Value
  | .constant value => constant value
  | .negative (.constant value) => match (constant value).negative with
    | .ok value => value
    | .error _ => .none_
  | _ => .none_

def emptyOf : Code.Expr → Value
  | .name id =>
    if id == "list" then .list []
    else if id == "dict" then .record []
    else if id == "str" then .text []
    else if id == "int" then .number 0
    else if id == "tuple" then .tuple []
    else .none_
  | _ => .none_

def Meaning.plain : Meaning := ⟨literal, emptyOf, fun _ => true⟩

-- A list, a dictionary or an object of a class of data can change, and has no hash.
def Value.isHashable : Value → Bool
  | .list _ => false
  | .record _ => false
  | .object _ _ => false
  | _ => true

def fieldFunction : Text := "field"

def factoryKey : Text := "default_factory"

def factory? : Code.Expr → Option Code.Expr
  | .call (.name function) [.named key factory] =>
    if function == fieldFunction && key == factoryKey then some factory else none
  | _ => none

section
variable (meaning : Meaning)

-- The default that a line gives, or nothing if the class cannot be defined with it. `hidden` says that the function
-- `field` can no longer be called by its name.
def default? (hidden : Bool) : Option Code.Expr → Option (Option Value)
  | none => some none
  | some code => match factory? code with
    | some factory => if hidden then none else some (some (meaning.made factory))
    | none => if (meaning.value code).isHashable then some (some (meaning.value code)) else none

def slotsOf (owner : Text) : Bool → List Field → Option (List (Slot Value))
  | _, [] => some []
  | hidden, field :: rest =>
    match Code.readDeclaration (Emission.fieldLine field) with
    | .error _ => none
    | .ok declared =>
      if meaning.types declared.hint then do
        let default ← default? meaning hidden declared.value
        let slots ← slotsOf owner (hidden || declared.name == fieldFunction && default.isSome) rest
        return ⟨nameWithin owner declared.name, default⟩ :: slots
      else none

-- Two lines may give one field, as a private name and the name that it has inside the class do. The field stands where
-- the first of them is and has the default that was given last.
def merged : List (Slot Value) → List (Slot Value)
  | [] => []
  | slot :: rest =>
    let later := (merged rest).find? (·.name == slot.name)
    ⟨slot.name, (later.bind (·.default)).or slot.default⟩ :: (merged rest).filter (·.name != slot.name)

def inOrder (slots : List (Slot Value)) : Bool := (slots.dropWhile (·.default.isNone)).all (·.default.isSome)

def classOf? (name : Text) (isAbstract : Bool) (fields : List Field) : Option DataClass := do
  let slots := merged (← slotsOf meaning name false fields)
  if inOrder slots then some { name, slots, isAbstract } else none

end

end Statewright.Machine
