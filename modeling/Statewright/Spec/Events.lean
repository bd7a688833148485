import Statewright.Spec.Basic

/-!
The events of a machine: those that its transitions refer to, in order of first reference, then the declared
ones that no transition refers to. The first declaration of a name stands for it; a name without one is an
event without fields, on the line of its first reference.
-/
set_option autoImplicit false

namespace Statewright

def firstsBy {α : Type} (name : α → Text) : List Text → List α → List α
  | _, [] => []
  | seen, item :: rest =>
    if seen.contains (name item) then firstsBy name seen rest
    else item :: firstsBy name (name item :: seen) rest

namespace Spec

def declared? (spec : Spec) (name : Text) : Option Event := spec.declaredEvents.find? (·.name == name)

def referred (spec : Spec) (transition : Transition) : Event :=
  (spec.declared? transition.trigger).getD { name := transition.trigger, inline := true, line := transition.line }

def events (spec : Spec) : List Event :=
  firstsBy (·.name) [] (spec.transitions.map spec.referred ++ spec.declaredEvents)

def ownedTransitions (spec : Spec) : List (Text × Transition) :=
  spec.states.flatMap fun state => state.transitions.map fun transition => (state.name, transition)

end Spec

end Statewright
