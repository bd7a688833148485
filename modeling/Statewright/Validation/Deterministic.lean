import Statewright.Validation.Names
import Statewright.Validation.Fragments

/-!
Deterministic machines. Each state's methods have names of their own that the machine does not use itself; a
destination is a declared state, made from its defaults where the method has no body.
-/
set_option autoImplicit false

namespace Statewright.Validation

def machineNames : List Text :=
  ["new", "context", "state", "into_context", "into_state", "into_parts", "STATE_TYPE"].map Text.fixed

def bodyArguments : List Text := ["context", "state"].map Text.fixed

def isReservedMethod (name : Text) : Bool := machineNames.contains name || name.head? = some '_'

def checkDestination (spec : Spec) (transition : Transition) (element : Text) : Check Unit :=
  match transition.target with
  | none => .ok ()
  | some target =>
    match spec.state? target with
    | none => violate (.unknownDestination target) element transition.line
    | some state =>
      ensure (!Text.blank transition.body || state.isDefaultConstructible) (.destinationNeedsValues target) element
        transition.line

def checkMethodParams (transition : Transition) (element : Text) : Check Unit :=
  if transition.params.isEmpty then .ok ()
  else do
    let params ← params transition.params element transition.line
    match bodyArguments.find? params.names.contains with
    | some name => violate (.reservedParam name) element transition.line
    | none => return ()

def checkMethods (spec : Spec) (state : State) : (seen : List Text) → List Transition → Check Unit
  | _, [] => .ok ()
  | seen, transition :: rest => do
    let element := state.name ++ '.' :: transition.trigger
    ensure (Code.isName transition.trigger) .invalidMethod element transition.line
    ensure (!seen.contains transition.trigger) .duplicateMethod element transition.line
    ensure (!isReservedMethod transition.trigger) .reservedMethod element transition.line
    checkDestination spec transition element
    checkMethodParams transition element
    checkMethods spec state (transition.trigger :: seen) rest

def checkDeterministic (spec : Spec) : Check Unit :=
  spec.states.forM fun (state : State) => checkMethods spec state [] state.transitions

end Statewright.Validation
