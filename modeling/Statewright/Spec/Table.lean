import Statewright.Spec.Events
import Statewright.Text.Quoted
import Statewright.Validation.Violation

/-!
Transition tables of event-driven machines: what each state does on each event. A pair without a transition of
its own falls to the catch-all body where there is one, and is unhandled otherwise.
-/
set_option autoImplicit false

namespace Statewright

def handlerName (state event : Text) : Text := "_handle__" ++ state ++ "__" ++ event

def catchAllHandler : Text := "_handle__unhandled_event"

inductive Resolution where
  | explicit (transition : Transition)
  | catchAll
  | unhandled
deriving DecidableEq

namespace Resolution

def label : Resolution → Text
  | explicit _ => "explicit"
  | catchAll => "catch_all"
  | unhandled => "unhandled"

def isExplicit : Resolution → Bool
  | explicit _ => true
  | _ => false

end Resolution

structure Entry where
  state : Text
  event : Text
  resolution : Resolution
deriving DecidableEq

namespace Entry

def handler? (entry : Entry) : Option Text :=
  match entry.resolution with
  | .explicit _ => some (handlerName entry.state entry.event)
  | .catchAll => some catchAllHandler
  | .unhandled => none

def transition? (entry : Entry) : Option Transition :=
  match entry.resolution with
  | .explicit transition => some transition
  | _ => none

end Entry

-- A table with its rows in document order. The states and events are listed as they occur; a pair has one entry,
-- however often its state is listed.
structure Table where
  states : List Text
  events : List Text
  entries : List Entry
deriving DecidableEq

namespace Table

def lookup? (table : Table) (state event : Text) : Option Entry :=
  table.entries.find? fun entry => entry.state == state && entry.event == event

def explicitEntries (table : Table) : List Entry := table.entries.filter (·.resolution.isExplicit)

def hasCatchAll (table : Table) : Bool := table.entries.any (·.resolution == .catchAll)

end Table

inductive TableFault where
  | deterministic (machine : Text)
  | repeated (state : Text) (transition : Transition)
deriving DecidableEq

namespace TableFault

def message : TableFault → Text
  | deterministic machine => "machine '" ++ machine ++ "' is deterministic and has no transition table"
  | repeated _ _ => Breach.text .repeatedPair

end TableFault

namespace Spec

-- The first transition whose pair an earlier one has already.
def repeatedPair? : (seen : List (Text × Text)) → List (Text × Transition) → Option (Text × Transition)
  | _, [] => none
  | seen, (state, transition) :: rest =>
    if seen.contains (state, transition.trigger) then some (state, transition)
    else repeatedPair? ((state, transition.trigger) :: seen) rest

def resolution (spec : Spec) (state event : Text) : Resolution :=
  match spec.ownedTransitions.find? fun (owner, transition) => owner == state && transition.trigger == event with
  | some (_, transition) => .explicit transition
  | none => if spec.catchAll?.isSome then .catchAll else .unhandled

def table (spec : Spec) : Except TableFault Table :=
  if !spec.isEventDriven then .error (.deterministic spec.name)
  else match repeatedPair? [] spec.ownedTransitions with
    | some (state, transition) => .error (.repeated state transition)
    | none =>
      let states := spec.states.map (·.name)
      let events := spec.events.map (·.name)
      let entries := (firstsBy id [] states).flatMap fun state =>
        events.map fun event => ⟨state, event, spec.resolution state event⟩
      .ok ⟨states, events, entries⟩

end Spec

def missingPair (state event : Text) : Text := "(" ++ Text.quoted state ++ ", " ++ Text.quoted event ++ ")"

end Statewright
