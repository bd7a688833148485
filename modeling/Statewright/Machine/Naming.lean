import Statewright.Machine.Value
import Statewright.Spec.Events
import Statewright.Spec.Traits
import Statewright.Validation.Names

/-!
What names stand for while the code of a module runs. Every class of a module hides what the language itself calls by its
name, and within a routine a variable hides both.
-/
set_option autoImplicit false

namespace Statewright

open Validation

namespace Spec

-- The machine, and what is made for it: a class for each state, or the two enumerations.
def machineClasses (spec : Spec) : List Text :=
  spec.name :: match spec.kind with
    | .deterministic => spec.states.map fun state => machineClass spec state.name
    | .eventDriven => (spec.stateEnum.toList ++ spec.eventEnum.toList).map (·.name)

def valueClasses (spec : Spec) : List Text :=
  (spec.traitName? .state).toList ++ spec.states.map (·.name) ++ match spec.kind with
    | .deterministic => []
    | .eventDriven => (spec.traitName? .event).toList ++ spec.events.map (·.name)

def moduleClasses (spec : Spec) : List Text := spec.machineClasses ++ spec.valueClasses

-- Whether a class of the module has a name of the language itself.
def hides (spec : Spec) (name : Text) : Bool := spec.moduleClasses.contains name

end Spec

namespace Machine

-- What a variable of a routine holds at one of its lines: nothing yet, a value of the program, or a thing of the module
-- that is no such value, as the machine itself is.
inductive Held where
  | nothing
  | value (value : Value)
  | thing

abbrev Variables := List (Text × Held)

def Variables.held? (locals : Variables) (name : Text) : Option Held := (locals.find? (·.1 == name)).map (·.2)

end Machine

end Statewright
