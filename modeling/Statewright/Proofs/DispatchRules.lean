import Statewright.Machine.Dispatch
import Statewright.Proofs.Methods
import Statewright.Proofs.Runs
import Statewright.Proofs.Tables

/-!
The rules of a dispatch. `Reached` says how far a dispatch has come, in which state the machine is then and what its
context holds; `Dispatched` says how it ends. A machine that is not asynchronous dispatches by these rules and by no
others, whatever its hooks and bodies do.
-/
set_option autoImplicit false

namespace Statewright.Machine

open Emission.EventDriven (Parts)

-- What stands for an object of an enumeration: an object of a member class, or a value of the enumeration itself.
inductive Denotes (members : List Text) (enumeration : Text) : Value → Variant → Prop where
  | bare (type : Text) (fields : List (Text × Value)) (member : type ∈ members) :
      Denotes members enumeration (.object type fields) ⟨type, fields⟩
  | wrapped (type : Text) (fields : List (Text × Value)) :
      Denotes members enumeration (.variant enumeration type fields) ⟨type, fields⟩

def DenotesState (parts : Parts) : Value → Variant → Prop :=
  Denotes (parts.spec.states.map (·.name)) parts.stateName

def DenotesEvent (parts : Parts) : Value → Variant → Prop :=
  Denotes (parts.spec.events.map (·.name)) parts.eventName

-- The variables of the routines of a machine.
def routineVariables : List Text := ["self", "state", "context", "event", "entry", "target"].map Text.fixed

-- The routines ask the enumerations by their names, and the enumerations ask by names of the language what they are
-- given. Nothing in the module hides one of these names.
structure Resolvable (parts : Parts) : Prop where
  language : ∀ name ∈ ["type", "isinstance", "property", "classmethod"].map Text.fixed, parts.spec.hides name = false
  state : parts.stateName ∉ routineVariables
  event : parts.eventName ∉ routineVariables

-- What the routines themselves make of a value: the event that is dispatched, and the state that a transition returns.
def Taken (parts : Parts) (value : Value) (event : Variant) : Prop :=
  Reactor.convert parts .event (Reactor.dispatchVariables value) value = .ok event

def Landed (parts : Parts) (state event : Variant) (target : Value) (next : Variant) : Prop :=
  Reactor.convert parts .state (Reactor.transferVariables parts state event target) target = .ok next

-- An enumeration wraps objects of its members only, so a value of it is one of those.
def GenuineEvent (parts : Parts) (value : Value) : Prop :=
  ∀ type fields, value = .variant parts.eventName type fields → type ∈ parts.spec.events.map (·.name)

section Rules

variable {γ : Type} (parts : Parts) (conduct : Conduct γ) (context : Nat) (event : Variant)

-- The call that a step makes while the machine is in a state. Hooks are methods of the enumerations, which hand them on
-- to the wrapped objects.
def stepCall (state : Variant) : Step → Routine γ Value
  | .preTransition => conduct.delegate parts.eventName event "pre_transition" { positional := [.context context] }
  | .shouldExit =>
    conduct.delegate parts.stateName state "should_exit"
      { positional := [.context context, event.wrapped parts.eventName] }
  | .onExit => conduct.delegate parts.stateName state "on_exit" { positional := [.context context] }
  | .transition => match parts.spec.resolution state.type event.type with
    | .explicit _ => conduct.handler state.type event.type state.bare context event.bare
    | .catchAll => conduct.catchAll (state.wrapped parts.stateName) context (event.wrapped parts.eventName)
    | .unhandled => pure .none_
  | .onEnter => conduct.delegate parts.stateName state "on_enter" { positional := [.context context] }
  | .postTransition => conduct.delegate parts.eventName event "post_transition" { positional := [.context context] }

-- A dispatch that began in the state `old` with `start` in its context has come to a step.
inductive Reached (old : Variant) (start : γ) : Step → Variant → γ → Prop where
  | opened : Reached old start .preTransition old start
  | prepared (state : Variant) (contents after : γ) (answer : Value)
      (before : Reached old start .preTransition state contents)
      (call : Gives (stepCall parts conduct context event state .preTransition) contents (.ok answer) after) :
      Reached old start .shouldExit state after
  | willing (state : Variant) (contents after : γ) (answer : Value)
      (before : Reached old start .shouldExit state contents)
      (call : Gives (stepCall parts conduct context event state .shouldExit) contents (.ok answer) after)
      (accepted : conduct.accepts after answer = true)
      (handled : parts.spec.resolution state.type event.type ≠ .unhandled) :
      Reached old start .onExit state after
  | left (state : Variant) (contents after : γ) (answer : Value)
      (before : Reached old start .onExit state contents)
      (call : Gives (stepCall parts conduct context event state .onExit) contents (.ok answer) after) :
      Reached old start .transition state after
  | moved (state next : Variant) (contents after : γ) (target : Value)
      (before : Reached old start .transition state contents)
      (call : Gives (stepCall parts conduct context event state .transition) contents (.ok target) after)
      (converted : DenotesState parts target next) :
      Reached old start .onEnter next after
  | entered (state : Variant) (contents after : γ) (answer : Value)
      (before : Reached old start .onEnter state contents)
      (call : Gives (stepCall parts conduct context event state .onEnter) contents (.ok answer) after) :
      Reached old start .postTransition state after

end Rules

section Endings

variable {γ : Type} (parts : Parts) (conduct : Conduct γ) (machine : Reactor) (start : γ)

-- How the dispatch of a value ends, and what has become of the machine and its context.
inductive Dispatched (value : Value) : Except Fault Outcome → Place γ → Prop where
  | foreign (strange : ∀ event, ¬ DenotesEvent parts value event) :
      Dispatched value (.error (.noVariant (value.typeName fun _ => parts.name) "event" parts.name)) (machine, start)
  | refused (event : Variant) (contents after : γ) (answer : Value)
      (known : DenotesEvent parts value event)
      (before : Reached parts conduct machine.context event machine.state start .shouldExit machine.state contents)
      (call : Gives (stepCall parts conduct machine.context event machine.state .shouldExit) contents
        (.ok answer) after)
      (refusal : conduct.accepts after answer = false) :
      Dispatched value (.ok .refused) ({ machine with step := none }, after)
  | unhandled (event : Variant) (contents after : γ) (answer : Value)
      (known : DenotesEvent parts value event)
      (before : Reached parts conduct machine.context event machine.state start .shouldExit machine.state contents)
      (call : Gives (stepCall parts conduct machine.context event machine.state .shouldExit) contents
        (.ok answer) after)
      (accepted : conduct.accepts after answer = true)
      (missing : parts.spec.resolution machine.state.type event.type = .unhandled) :
      Dispatched value (.ok .unhandled) ({ machine with step := none }, after)
  | raised (event state : Variant) (step : Step) (contents after : γ) (fault : Fault)
      (known : DenotesEvent parts value event)
      (before : Reached parts conduct machine.context event machine.state start step state contents)
      (call : Gives (stepCall parts conduct machine.context event state step) contents (.error fault) after) :
      Dispatched value (.error fault) ({ machine with state, step := some step }, after)
  | misled (event : Variant) (contents after : γ) (target : Value)
      (known : DenotesEvent parts value event)
      (before : Reached parts conduct machine.context event machine.state start .transition machine.state contents)
      (call : Gives (stepCall parts conduct machine.context event machine.state .transition) contents
        (.ok target) after)
      (strange : ∀ next, ¬ DenotesState parts target next) :
      Dispatched value (.error (.noVariant (target.typeName fun _ => parts.name) "state" parts.name))
        ({ machine with step := some .transition }, after)
  | transitioned (event state : Variant) (contents after : γ) (answer : Value)
      (known : DenotesEvent parts value event)
      (before : Reached parts conduct machine.context event machine.state start .postTransition state contents)
      (call : Gives (stepCall parts conduct machine.context event state .postTransition) contents (.ok answer) after) :
      Dispatched value (.ok .transitioned) ({ machine with state, step := none }, after)

end Endings

-- The state is the old one up to the transition; a step raises it only when it has been converted.
theorem reached_state {γ : Type} (parts : Parts) (conduct : Conduct γ) (context : Nat) (event old state : Variant)
    (start contents : γ) (step : Step) (early : step.number ≤ Step.transition.number)
    (reached : Reached parts conduct context event old start step state contents) : state = old := by
  induction reached with
  | opened => rfl
  | prepared state contents after answer before call ih => exact ih (by decide)
  | willing state contents after answer before call accepted handled ih => exact ih (by decide)
  | left state contents after answer before call ih => exact ih (by decide)
  | moved => exact absurd early (by decide)
  | entered => exact absurd early (by decide)

theorem registry_of_ok_iff (registry : Registry) (value : Value) (variant : Variant) :
    registry.of value = .ok variant ↔ Denotes registry.members registry.name value variant := by
  constructor
  · intro converted
    unfold Registry.of at converted
    split at converted
    · rename_i enumeration type fields
      by_cases own : (enumeration == registry.name) = true
      · rw [if_pos own] at converted
        cases converted
        rw [beq_iff_eq.mp own]
        exact .wrapped type fields
      · rw [if_neg own] at converted
        cases converted
    · rename_i type fields
      by_cases member : registry.members.contains type = true
      · rw [if_pos member] at converted
        cases converted
        exact .bare type fields (by simpa using member)
      · rw [if_neg member] at converted
        cases converted
    · cases converted
  · intro denoted
    cases denoted with
    | bare type fields member => simp [Registry.of, member]
    | wrapped type fields => simp [Registry.of]

theorem registry_of_foreign (registry : Registry) (value : Value)
    (strange : ∀ variant, ¬ Denotes registry.members registry.name value variant) :
    registry.of value =
      .error (.noVariant (value.typeName fun _ => registry.machine) registry.noun registry.machine) := by
  unfold Registry.of
  split
  · rename_i enumeration type fields
    refine if_neg ?_
    intro own
    rw [beq_iff_eq.mp own] at strange
    exact strange _ (.wrapped type fields)
  · rename_i type fields
    refine if_neg ?_
    intro member
    exact strange _ (.bare type fields (by simpa using member))
  · rfl

section Conversion

variable (parts : Parts) (resolvable : Resolvable parts)

include resolvable

theorem convert_eq (side : Side) (locals : Variables) (own : locals.map (·.1) ⊆ routineVariables)
    (value : Value) : Reactor.convert parts side locals value = (Registry.ofParts parts side).of value := by
  have apart : (Registry.ofParts parts side).name ∉ routineVariables := by
    cases side with
    | state => exact resolvable.state
    | event => exact resolvable.event
  have unheld : locals.held? (Registry.ofParts parts side).name = none := by
    refine Option.map_eq_none_iff.mpr (List.find?_eq_none.mpr ?_)
    intro entry member same
    exact apart (own (List.mem_map.mpr ⟨entry, member, beq_iff_eq.mp same⟩))
  have types := resolvable.language "type" (by decide)
  have instances := resolvable.language "isinstance" (by decide)
  simp only [Reactor.convert, unheld, Registry.open?, types, instances]
  rfl

theorem convert_event (value : Value) :
    Reactor.convert parts .event (Reactor.dispatchVariables value) value = (Registry.ofParts parts .event).of value :=
  convert_eq parts resolvable .event _ (by simp [Reactor.dispatchVariables, routineVariables]) value

theorem convert_target (state event : Variant) (target : Value) :
    Reactor.convert parts .state (Reactor.transferVariables parts state event target) target =
      (Registry.ofParts parts .state).of target :=
  convert_eq parts resolvable .state _ (by simp [Reactor.transferVariables, routineVariables]) target

theorem convert_start (value : Value) :
    Reactor.convert parts .state (Reactor.startVariables value) value = (Registry.ofParts parts .state).of value :=
  convert_eq parts resolvable .state _ (by simp [Reactor.startVariables, routineVariables]) value

theorem taken_iff (value : Value) (event : Variant) : Taken parts value event ↔ DenotesEvent parts value event := by
  rw [Taken, convert_event parts resolvable]
  exact registry_of_ok_iff (Registry.ofParts parts .event) value event

theorem landed_iff (state event : Variant) (target : Value) (next : Variant) :
    Landed parts state event target next ↔ DenotesState parts target next := by
  rw [Landed, convert_target parts resolvable]
  exact registry_of_ok_iff (Registry.ofParts parts .state) target next

end Conversion

end Statewright.Machine
