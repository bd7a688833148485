import Statewright.Machine.Stage

/-!
What the classes of a running module offer by name, and whether a trait stands for itself.
-/
set_option autoImplicit false

namespace Statewright.Machine

def commonMembers : List Text :=
  ["__init__", "__repr__", "__eq__", "__ne__", "__hash__", "__class__", "__doc__", "__module__", "__name__",
   "__new__", "__str__", "__dict__", "__init_subclass__", "__subclasshook__", "__reduce__", "__sizeof__",
   "__dir__", "__format__", "__getattribute__", "__setattr__", "__delattr__", "__lt__", "__le__", "__gt__",
   "__ge__"].map Text.fixed

def typedMembers : List Text :=
  ["new", "context", "state", "into_context", "into_state", "into_parts", "STATE_TYPE", "_check_alive", "_consume",
   "_state", "_context", "_consumed", "__slots__", "__class_getitem__", "__parameters__", "__orig_bases__"].map
    Text.fixed

def reactiveMembers : List Text :=
  ["state", "context", "interrupted_step", "recover", "into_parts", "into_state", "into_context", "handle_event",
   "_state", "_context", "_step", "__slots__"].map Text.fixed

def enumerationMembers : List Text :=
  ["VARIANTS", "of", "variant", "value", "_value", "__slots__"].map Text.fixed

def objectMembers : List Text :=
  ["__dataclass_fields__", "__dataclass_params__", "__match_args__", "__annotations__"].map Text.fixed

def fieldMembers (fields : List Field) : List Text := (fields.filter (·.default.isSome)).map (·.name)

namespace Stage

def methodNames (stage : Stage) (side : Side) : List Text := (stage.spec.traitMethods side).map (·.name)

def objectMembers? (stage : Stage) (name : Text) : Option (List Text) :=
  match stage.spec.state? name with
  | some state => some (fieldMembers state.fields ++ stage.methodNames .state)
  | none => match stage.eventDriven? with
    | none => none
    | some _ => (stage.spec.events.find? (·.name == name)).map fun event =>
      fieldMembers event.fields ++ stage.methodNames .event

def typedMembers? (stage : Stage) (name : Text) : Option (List Text) :=
  if name == stage.spec.name then some typedMembers
  else (stage.spec.states.find? fun state => stage.spec.name ++ state.name == name).map fun state =>
    typedMembers ++ state.transitions.map (·.trigger)

def sideMembers? (stage : Stage) (name : Text) : Option (List Text) :=
  if stage.spec.traitName? .state == some name then some (stage.methodNames .state)
  else if stage.spec.traitName? .event == some name then some (stage.methodNames .event)
  else none

def enumerationMembers? (stage : Stage) (parts : Emission.EventDriven.Parts) (name : Text) : Option (List Text) :=
  if name == parts.stateName then some (enumerationMembers ++ stage.methodNames .state)
  else if name == parts.eventName then some (enumerationMembers ++ stage.methodNames .event)
  else if name == stage.spec.name then some reactiveMembers
  else none

def members? (stage : Stage) (name : Text) : Except Fault (List Text) :=
  let machines := match stage.eventDriven? with
    | none => stage.typedMembers? name
    | some parts => stage.enumerationMembers? parts name
  let objects := (stage.objectMembers? name).map (objectMembers ++ ·)
  match (machines.or objects).or (stage.sideMembers? name) with
  | some members => .ok (commonMembers ++ members)
  | none => .error .noAttribute

def standAlone (stage : Stage) (name : Text) : Except Fault Value :=
  let methods : Side → Option (List Resolved) := fun side =>
    if stage.spec.traitName? side == some name then some (stage.spec.traitMethods side) else none
  match (methods .state).or (methods .event) with
  | none => .error .noAttribute
  | some methods => if methods.any (·.isAbstract) then .error .mismatch else .ok (.object name [])

end Stage

end Statewright.Machine
