import Statewright.Validation.Deterministic
import Statewright.Validation.EventDriven
import Statewright.Validation.Traits

/-!
The verdict on a specification. Names come first, then what the kind of machine asks for, then traits, and the code
texts last; the first violation is reported.
-/
set_option autoImplicit false

namespace Statewright

open Validation

def Spec.validate (spec : Spec) : Check Unit := do
  checkNames spec
  match spec.kind with
  | .deterministic => checkDeterministic spec
  | .eventDriven => checkEventDriven spec
  checkTraits spec
  checkFragments spec

def Spec.isValid (spec : Spec) : Bool :=
  match spec.validate with
  | .ok () => true
  | .error _ => false

end Statewright
