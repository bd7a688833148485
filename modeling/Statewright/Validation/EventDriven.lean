import Statewright.Validation.Names
import Statewright.Spec.Events

/-!
Event-driven machines. No state reacts twice to one event, targets are declared states that can be made from
their defaults, and events have names that no other class of the module has.
-/
set_option autoImplicit false

namespace Statewright.Validation

def otherClassNames (spec : Spec) : List Text :=
  spec.name :: (spec.stateEnum.toList ++ spec.eventEnum.toList).map (·.name) ++
    (spec.traitName? .state).toList ++ (spec.traitName? .event).toList ++ moduleNames

def eventClashes (spec : Spec) (name : Text) : Bool :=
  spec.states.any (·.name == name) || (otherClassNames spec).contains name

def checkReference (spec : Spec) (transition : Transition) : Check Unit :=
  if spec.declaredEvents.any (·.name == transition.trigger) then .ok ()
  else do
    ensure (Code.isName transition.trigger) .invalidEvent transition.trigger transition.line
    ensure (!eventClashes spec transition.trigger) .eventClash transition.trigger transition.line

def pairElement (state trigger : Text) : Text := state ++ " on " ++ trigger

def checkTarget (spec : Spec) (transition : Transition) (element : Text) : Check Unit :=
  match transition.target with
  | none => .ok ()
  | some target =>
    match spec.state? target with
    | none => violate (.unknownTarget target) element transition.line
    | some state => ensure state.isDefaultConstructible (.targetNeedsValues target) element transition.line


def checkReactions (spec : Spec) : (seen : List (Text × Text)) → List (Text × Transition) → Check Unit
  | _, [] => .ok ()
  | seen, (state, transition) :: rest => do
    let element := pairElement state transition.trigger
    checkReference spec transition
    ensure (!seen.contains (state, transition.trigger)) .repeatedPair element transition.line
    checkTarget spec transition element
    checkReactions spec ((state, transition.trigger) :: seen) rest

def checkEventDriven (spec : Spec) : Check Unit := do
  checkReactions spec [] spec.ownedTransitions
  spec.declaredEvents.forM fun (event : Event) =>
    ensure (!eventClashes spec event.name) .eventClash event.name event.line
  match spec.catchAlls with
  | _ :: second :: _ => violate .severalCatchAlls "_" second.line
  | _ => ensure (!spec.events.isEmpty) .noEvents spec.name spec.line

end Statewright.Validation
