import Statewright.Spec.Events
import Statewright.Spec.Traits

/-!
Changes to a specification in memory. What is added comes last, and nothing is checked; a change to something that is
not there gives nothing.
-/
set_option autoImplicit false

namespace Statewright

def changeFirst? {α : Type} (p : α → Bool) (change : α → α) : List α → Option (List α)
  | [] => none
  | item :: rest => if p item then some (change item :: rest) else (changeFirst? p change rest).map (item :: ·)

def place? (index : Int) (length : Nat) : Option Nat :=
  let place := if index < 0 then index + length else index
  if 0 ≤ place && place < length then some place.toNat else none

namespace Spec

def addState (spec : Spec) (name : Text) : Spec := { spec with states := spec.states ++ [{ name }] }

def removeState? (spec : Spec) (index : Int) : Option Spec :=
  (place? index spec.states.length).map fun place => { spec with states := spec.states.eraseIdx place }

def addEvent (spec : Spec) (name : Text) : Spec :=
  { spec with declaredEvents := spec.declaredEvents ++ [{ name }] }

def addCatchAll (spec : Spec) (body : Text) : Spec := { spec with catchAlls := spec.catchAlls ++ [{ body }] }

def clearCatchAlls (spec : Spec) : Spec := { spec with catchAlls := [] }

def changeState? (spec : Spec) (name : Text) (change : State → State) : Option Spec :=
  (changeFirst? (·.name == name) change spec.states).map fun states => { spec with states }

def changeEvent? (spec : Spec) (name : Text) (change : Event → Event) : Option Spec :=
  (changeFirst? (·.name == name) change spec.declaredEvents).map fun declaredEvents => { spec with declaredEvents }

def changeTrait? (spec : Spec) (side : Side) (change : Trait → Trait) : Option Spec :=
  match side with
  | .state => spec.stateTrait.map fun declared => { spec with stateTrait := some (change declared) }
  | .event => spec.eventTrait.map fun declared => { spec with eventTrait := some (change declared) }

def addTransition? (spec : Spec) (state : Text) (transition : Transition) : Option Spec :=
  spec.changeState? state fun owner => { owner with transitions := owner.transitions ++ [transition] }

def addField? (spec : Spec) (side : Side) (owner : Text) (field : Field) : Option Spec :=
  match side with
  | .state => spec.changeState? owner fun state => { state with fields := state.fields ++ [field] }
  | .event => spec.changeEvent? owner fun event => { event with fields := event.fields ++ [field] }

def addImpl? (spec : Spec) (side : Side) (owner : Text) (impl : Method) : Option Spec :=
  match side with
  | .state => spec.changeState? owner fun state => { state with impls := state.impls ++ [impl] }
  | .event => spec.changeEvent? owner fun event => { event with impls := event.impls ++ [impl] }

def addTraitMethod? (spec : Spec) (side : Side) (method : Method) : Option Spec :=
  spec.changeTrait? side fun declared => { declared with methods := declared.methods ++ [method] }

def impls? (spec : Spec) (side : Side) (owner : Text) : Option (List Method) :=
  match side with
  | .state => (spec.state? owner).map (·.impls)
  | .event => (spec.declared? owner).map (·.impls)

end Spec

end Statewright
