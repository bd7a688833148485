import Statewright.Validation.Violation
import Statewright.Spec.Traits
import Statewright.Code.Name

/-!
Names. Every class that a generated module defines takes a name of its own there, and none of those that the
module imports or keeps for itself.
-/
set_option autoImplicit false

namespace Statewright.Validation

open Code (isName isPath)

def moduleNames : List Text :=
  ["abc", "dataclass", "field", "Any", "Generic", "Optional", "Tuple", "Type", "TypeVar", "Union",
   "ConsumedMachineError", "StateTagError", "UNHANDLED", "DispatchInterruptedError", "DispatchOutcome",
   "DispatchStep", "EntryKind", "VariantError", "catch_all", "explicit", "freeze_table", "_S",
   "_MACHINE_CLASSES", "_TRANSITIONS", "_STATE_VARIANTS", "_EVENT_VARIANTS"].map Text.fixed

abbrev Claims := List (Text × Role)

def reservedClaims : Claims := moduleNames.map fun name => (name, .reserved)

def claim (claims : Claims) (name : Text) (role : Role) (line : Nat) : Check Claims := do
  ensure (isName name) (.invalidName role) name line
  match claims.lookup name with
  | some other => violate (.clash role other) name line
  | none => return (name, role) :: claims

def checkFieldNames (owner : Text) (fields : List Field) : Check Unit :=
  fields.forM fun (field : Field) =>
    ensure (isName field.name) .invalidField (owner ++ '.' :: field.name) field.line

def claimState (claims : Claims) (state : State) : Check Claims := do
  ensure (claims.lookup state.name != some .state) .duplicateState state.name state.line
  let claims ← claim claims state.name .state state.line
  checkFieldNames state.name state.fields
  return claims

def machineClass (spec : Spec) (state : Text) : Text := spec.name ++ state

def claimMachineClass (spec : Spec) (claims : Claims) (state : State) : Check Claims :=
  claim claims (machineClass spec state.name) (.machineClass state.name) state.line

def checkEventNames : (seen : List Text) → List Event → Check Unit
  | _, [] => return ()
  | seen, event :: rest => do
    ensure (!seen.contains event.name) .duplicateEvent event.name event.line
    checkFieldNames event.name event.fields
    checkEventNames (event.name :: seen) rest

def claimTrait (spec : Spec) (claims : Claims) (side : Side) (role : Role) : Check Claims :=
  claim claims ((spec.traitName? side).getD [])  role (((spec.declaredTrait side).map (·.line)).getD spec.line)

def claimEnumeration (claims : Claims) (enumeration : Option Enumeration) (role : Role) : Check Claims :=
  match enumeration with
  | some enumeration => claim claims enumeration.name role enumeration.line
  | none => .error .noEnumeration

def checkNames (spec : Spec) : Check Unit := do
  ensure (isName spec.name) (.invalidName .machine) spec.name spec.line
  ensure (isPath spec.context) .invalidContext spec.context spec.line
  ensure (!spec.states.isEmpty) .noStates spec.name spec.line
  let claims ← claim reservedClaims spec.name .machine spec.line
  let claims ← spec.states.foldlM claimState claims
  match spec.kind with
  | .deterministic => do
    let claims ← if spec.stateTrait.isSome then claimTrait spec claims .state .stateTrait else pure claims
    let _ ← spec.states.foldlM (claimMachineClass spec) claims
  | .eventDriven => do
    let claims ← claimTrait spec claims .state .stateTrait
    let claims ← claimTrait spec claims .event .eventTrait
    let claims ← claimEnumeration claims spec.stateEnum .stateEnum
    let _ ← claimEnumeration claims spec.eventEnum .eventEnum
    checkEventNames [] spec.declaredEvents

end Statewright.Validation
