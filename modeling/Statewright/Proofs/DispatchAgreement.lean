import Statewright.Proofs.DispatchCases
import Statewright.Proofs.DispatchRules

/-!
The dispatch routine follows the rules. `remainder` is what is left of the routine once a step is marked; each rule
takes one remainder to the next, and together they leave no other way for a dispatch to end.
-/
set_option autoImplicit false

namespace Statewright.Machine

open Emission.EventDriven (Parts)
open Reactor Routine

section Remainders

variable {γ : Type} (parts : Parts) (conduct : Conduct γ) (context : Nat) (event : Variant)

def entryOf (state : Variant) : Entry := ⟨state.type, event.type, parts.spec.resolution state.type event.type⟩

-- The routine from the mark of a step on.
def fromStep (state : Variant) : Step → Routine (Place γ) Outcome
  | .preTransition => react parts conduct state event context
  | .shouldExit => ask parts conduct state event context
  | .onExit => move parts conduct (entryOf parts event state) state event context
  | .transition => transfer parts conduct (entryOf parts event state) state event context
  | .onEnter => enter parts conduct state event context
  | .postTransition => conclude parts conduct event context

-- What follows the call of a step.
def following (state : Variant) : Step → Value → Routine (Place γ) Outcome
  | .preTransition, _ => fromStep parts conduct context event state .shouldExit
  | .shouldExit, answer => choose parts conduct state event context answer
  | .onExit, _ => fromStep parts conduct context event state .transition
  | .transition, target => do
    let next ← ofExcept (convert parts .state (transferVariables parts state event target) target)
    fromStep parts conduct context event next .onEnter
  | .onEnter, _ => fromStep parts conduct context event state .postTransition
  | .postTransition, _ => do
    mark none
    return .transitioned

def remainder (state : Variant) (step : Step) : Routine (Place γ) Outcome :=
  inContext (stepCall parts conduct context event state step) >>= following parts conduct context event state step

end Remainders

variable {γ : Type}

theorem gives_in_context (routine : Routine γ Value) (machine : Reactor) (contents after : γ)
    (outcome : Except Fault Value) (call : Gives routine contents outcome after) :
    Gives (inContext routine) (machine, contents) outcome (machine, after) := by
  have whole := Run.settle_within (fun place : Place γ => place.2) (fun contents place => (place.1, contents))
    (fun _ _ => rfl) (fun _ _ _ => rfl) (routine contents) (machine, contents)
  rw [show (routine contents).settle = (outcome, after) from call] at whole
  exact whole

/-! The calls that a dispatch makes. -/

def sideOf (name : Text) : Side := if (Hook.ofSide .state).any (·.name == name) then .state else .event

-- The code of a specification as its machine hears it: an asynchronous method that is not awaited has not run, and an
-- ordinary one that is awaited fails once it has.
def heard (parts : Parts) (conduct : Conduct γ) : Conduct γ :=
  { conduct with
    method := fun type name self arguments =>
      called (((parts.methods (sideOf name)).find? (·.name == name)).any (·.isAsync)) (parts.awaits name)
        (conduct.method type name self arguments) }

theorem call_hook_heard (parts : Parts) (conduct : Conduct γ) (side : Side) (hook : Hook)
    (owned : hook ∈ Hook.ofSide side) (self : Variant) (arguments : List Value) :
    callHook parts conduct side hook self arguments =
      inContext ((heard parts conduct).delegate (Registry.ofParts parts side).name self hook.name
        { positional := arguments }) := by
  have own : sideOf hook.name = side := by
    revert hook
    cases side <;> decide
  simp only [callHook, heard, isAsync, Conduct.delegate, own]

theorem heard_synchronous (parts : Parts) (valid : ValidParts parts) (sync : parts.spec.isAsync = false)
    (conduct : Conduct γ) : heard parts conduct = conduct := by
  have quiet := methods_synchronous parts.spec valid.accepted valid.kind sync
  have ordinary : ∀ side name, ((parts.methods side).find? (·.name == name)).any (·.isAsync) = false := by
    intro side name
    cases found : (parts.methods side).find? (·.name == name) with
    | none => rfl
    | some method => exact quiet side method (List.mem_of_find?_eq_some found)
  have unawaited : ∀ name, parts.awaits name = false := by
    intro name
    unfold Parts.awaits Parts.methods
    cases found : ((parts.spec.traitMethods .state ++ parts.spec.traitMethods .event).reverse).find?
        (·.name == name) with
    | none => rfl
    | some method =>
        have member := List.mem_append.mp (List.mem_reverse.mp (List.mem_of_find?_eq_some found))
        exact member.elim (quiet .state method) (quiet .event method)
  unfold heard
  simp only [ordinary, unawaited]
  rfl

-- A step marks the machine, makes its call, and goes on from what it hears.
theorem from_step_heard (parts : Parts) (conduct : Conduct γ) (context : Nat) (event state : Variant) (step : Step)
    (machine : Reactor) (contents : γ) (held : step = .onEnter ∨ machine.state = state) :
    fromStep parts conduct context event state step (machine, contents) =
      (inContext (stepCall parts (heard parts conduct) context event state step) >>=
        following parts conduct context event state step) ({ machine with state, step := some step }, contents) := by
  have calls := call_hook_heard parts conduct
  cases step with
  | onEnter =>
      rw [fromStep, enter, calls .state .onEnter (by decide)]
      rfl
  | preTransition =>
      obtain rfl : machine.state = state := held.resolve_left (by decide)
      rw [fromStep, react, calls .event .preTransition (by decide)]
      rfl
  | shouldExit =>
      obtain rfl : machine.state = state := held.resolve_left (by decide)
      rw [fromStep, ask, calls .state .shouldExit (by decide)]
      rfl
  | onExit =>
      obtain rfl : machine.state = state := held.resolve_left (by decide)
      rw [fromStep, move, calls .state .onExit (by decide)]
      rfl
  | transition =>
      obtain rfl : machine.state = state := held.resolve_left (by decide)
      unfold fromStep transfer stepCall callHandler entryOf
      cases found : parts.spec.resolution machine.state.type event.type with
      | explicit transition => rfl
      | catchAll => rfl
      | unhandled => rfl
  | postTransition =>
      obtain rfl : machine.state = state := held.resolve_left (by decide)
      rw [fromStep, conclude, calls .event .postTransition (by decide)]
      rfl

theorem from_step_marks (parts : Parts) (valid : ValidParts parts) (sync : parts.spec.isAsync = false)
    (conduct : Conduct γ) (context : Nat) (event state : Variant) (step : Step) (machine : Reactor) (contents : γ)
    (held : step = .onEnter ∨ machine.state = state) :
    fromStep parts conduct context event state step (machine, contents) =
      remainder parts conduct context event state step ({ machine with state, step := some step }, contents) := by
  have marked := from_step_heard parts conduct context event state step machine contents held
  rw [heard_synchronous parts valid sync conduct] at marked
  exact marked

theorem remainder_answered (parts : Parts) (conduct : Conduct γ) (context : Nat) (event state : Variant) (step : Step)
    (machine : Reactor) (contents after : γ) (answer : Value)
    (call : Gives (stepCall parts conduct context event state step) contents (.ok answer) after) :
    (remainder parts conduct context event state step (machine, contents)).settle =
      (following parts conduct context event state step answer (machine, after)).settle :=
  gives_next _ _ _ _ _ (gives_in_context _ machine contents after _ call)

theorem remainder_raised (parts : Parts) (conduct : Conduct γ) (context : Nat) (event state : Variant) (step : Step)
    (machine : Reactor) (contents after : γ) (fault : Fault)
    (call : Gives (stepCall parts conduct context event state step) contents (.error fault) after) :
    (remainder parts conduct context event state step (machine, contents)).settle =
      (.error fault, (machine, after)) :=
  gives_fault _ _ _ _ _ (gives_in_context _ machine contents after _ call)

-- A dispatch that has reached a step ends as what remains from there.
theorem reached_remainder (parts : Parts) (valid : ValidParts parts) (sync : parts.spec.isAsync = false)
    (resolvable : Resolvable parts) (conduct : Conduct γ) (machine : Reactor) (start contents : γ)
    (event state : Variant) (step : Step)
    (declared : machine.state.type ∈ parts.spec.states.map (·.name))
    (known : event.type ∈ parts.spec.events.map (·.name))
    (reached : Reached parts conduct machine.context event machine.state start step state contents) :
    (react parts conduct machine.state event machine.context (machine, start)).settle =
      (remainder parts conduct machine.context event state step
        ({ machine with state, step := some step }, contents)).settle := by
  have marks := from_step_marks parts valid sync conduct machine.context event
  induction reached with
  | opened => exact congrArg Run.settle (marks machine.state .preTransition machine start (.inr rfl))
  | prepared state contents after answer before call ih =>
      rw [ih, remainder_answered _ _ _ _ _ _ _ _ _ _ call]
      exact congrArg Run.settle (marks state .shouldExit _ after (.inr rfl))
  | willing state contents after answer before call accepted handled ih =>
      obtain rfl : state = machine.state := reached_state _ _ _ _ _ _ _ _ _ (by decide) before
      have found := valid_parts_lookup parts valid machine.state.type event.type declared known
      rw [ih, remainder_answered _ _ _ _ _ _ _ _ _ _ call]
      have chosen := choose_moves parts conduct machine.state event machine.context answer
        { machine with step := some .shouldExit } after _ found accepted handled
      exact congrArg Run.settle (chosen.trans (marks machine.state .onExit _ after (.inr rfl)))
  | left state contents after answer before call ih =>
      rw [ih, remainder_answered _ _ _ _ _ _ _ _ _ _ call]
      exact congrArg Run.settle (marks state .transition _ after (.inr rfl))
  | moved state next contents after target before call converted ih =>
      have landed : convert parts .state (transferVariables parts state event target) target = .ok next :=
        (landed_iff parts resolvable state event target next).mpr converted
      rw [ih, remainder_answered _ _ _ _ _ _ _ _ _ _ call]
      simp only [following, landed]
      exact congrArg Run.settle (marks next .onEnter _ after (.inl rfl))
  | entered state contents after answer before call ih =>
      rw [ih, remainder_answered _ _ _ _ _ _ _ _ _ _ call]
      exact congrArg Run.settle (marks state .postTransition _ after (.inr rfl))

theorem dispatch_taken (parts : Parts) (conduct : Conduct γ) (machine : Reactor) (start : γ) (value : Value)
    (event : Variant) (idle : machine.step = none) (taken : Taken parts value event) :
    dispatch parts conduct value (machine, start) =
      react parts conduct machine.state event machine.context (machine, start) := by
  have converted : convert parts .event (dispatchVariables value) value = .ok event := taken
  rw [dispatch_idle parts conduct value machine start idle, converted]
  rfl

theorem known_is_event (parts : Parts) (value : Value) (event : Variant) (genuine : GenuineEvent parts value)
    (known : DenotesEvent parts value event) : event.type ∈ parts.spec.events.map (·.name) := by
  cases known with
  | bare type fields member => exact member
  | wrapped type fields => exact genuine type fields rfl

theorem dispatched_settles (parts : Parts) (valid : ValidParts parts) (sync : parts.spec.isAsync = false)
    (resolvable : Resolvable parts) (conduct : Conduct γ) (machine : Reactor) (start : γ) (value : Value)
    (idle : machine.step = none)
    (declared : machine.state.type ∈ parts.spec.states.map (·.name)) (genuine : GenuineEvent parts value)
    (outcome : Except Fault Outcome) (place : Place γ)
    (dispatched : Dispatched parts conduct machine start value outcome place) :
    (dispatch parts conduct value (machine, start)).settle = (outcome, place) := by
  -- A known event takes the dispatch to what remains of it at a step it has reached.
  have remains : ∀ event state step contents, DenotesEvent parts value event →
      Reached parts conduct machine.context event machine.state start step state contents →
      (dispatch parts conduct value (machine, start)).settle =
        (remainder parts conduct machine.context event state step
          ({ machine with state, step := some step }, contents)).settle := by
    intro event state step contents known reached
    have taken := (taken_iff parts resolvable value event).mpr known
    rw [dispatch_taken parts conduct machine start value event idle taken]
    exact reached_remainder parts valid sync resolvable conduct machine start contents event state step declared
      (known_is_event parts value event genuine known) reached
  cases dispatched with
  | foreign strange =>
      have rejected := registry_of_foreign (Registry.ofParts parts .event) value strange
      rw [dispatch_idle parts conduct value machine start idle, convert_event parts resolvable value, rejected]
      rfl
  | refused event contents after answer known before call refusal =>
      rw [remains event machine.state .shouldExit contents known before, remainder_answered _ _ _ _ _ _ _ _ _ _ call]
      exact congrArg Run.settle
        (choose_refuses parts conduct machine.state event machine.context answer _ after refusal)
  | unhandled event contents after answer known before call accepted missing =>
      have found := valid_parts_lookup parts valid machine.state.type event.type declared
        (known_is_event parts value event genuine known)
      have chosen := choose_unhandled parts conduct machine.state event machine.context answer
        { machine with step := some .shouldExit } after _ found accepted missing
      rw [remains event machine.state .shouldExit contents known before, remainder_answered _ _ _ _ _ _ _ _ _ _ call]
      exact congrArg Run.settle chosen
  | raised event state step contents after fault known before call =>
      rw [remains event state step contents known before]
      exact remainder_raised parts conduct machine.context event state step _ contents after fault call
  | misled event contents after target known before call strange =>
      have rejected := registry_of_foreign (Registry.ofParts parts .state) target strange
      rw [remains event machine.state .transition contents known before, remainder_answered _ _ _ _ _ _ _ _ _ _ call]
      simp only [following, convert_target parts resolvable, rejected]
      rfl
  | transitioned event state contents after answer known before call =>
      rw [remains event state .postTransition contents known before, remainder_answered _ _ _ _ _ _ _ _ _ _ call]
      rfl

section Totality

variable (parts : Parts) (conduct : Conduct γ) (machine : Reactor) (start : γ) (value : Value) (event : Variant)

def Ends : Prop := ∃ outcome place, Dispatched parts conduct machine start value outcome place

-- The call of a step that is reached gives something; if it is a fault, the dispatch ends there.
theorem reached_ends (known : DenotesEvent parts value event) (state : Variant) (step : Step) (contents : γ)
    (reached : Reached parts conduct machine.context event machine.state start step state contents)
    (onward : ∀ answer after,
      Gives (stepCall parts conduct machine.context event state step) contents (.ok answer) after →
      Ends parts conduct machine start value) :
    Ends parts conduct machine start value := by
  obtain ⟨result, after, call⟩ := gives_total (stepCall parts conduct machine.context event state step) contents
  cases result with
  | error fault => exact ⟨_, _, .raised event state step contents after fault known reached call⟩
  | ok answer => exact onward answer after call

theorem entered_ends (known : DenotesEvent parts value event) (state : Variant) (contents : γ)
    (reached : Reached parts conduct machine.context event machine.state start .onEnter state contents) :
    Ends parts conduct machine start value := by
  apply reached_ends parts conduct machine start value event known state .onEnter contents reached
  intro answer after call
  have final := Reached.entered state contents after answer reached call
  apply reached_ends parts conduct machine start value event known state .postTransition after final
  intro reply last closing
  exact ⟨_, _, .transitioned event state after last reply known final closing⟩

theorem willing_ends (known : DenotesEvent parts value event) (contents : γ)
    (reached : Reached parts conduct machine.context event machine.state start .onExit machine.state contents) :
    Ends parts conduct machine start value := by
  apply reached_ends parts conduct machine start value event known machine.state .onExit contents reached
  intro answer after call
  have leaving := Reached.left machine.state contents after answer reached call
  apply reached_ends parts conduct machine start value event known machine.state .transition after leaving
  intro target last transition
  by_cases converted : ∃ next, DenotesState parts target next
  · obtain ⟨next, denoted⟩ := converted
    exact entered_ends parts conduct machine start value event known next last
      (.moved machine.state next after last target leaving transition denoted)
  · exact ⟨_, _, .misled event after last target known leaving transition (not_exists.mp converted)⟩

-- Every dispatch ends by one of the rules.
theorem dispatch_ends : Ends parts conduct machine start value := by
  by_cases denoted : ∃ event, DenotesEvent parts value event
  · obtain ⟨event, known⟩ := denoted
    apply reached_ends parts conduct machine start value event known machine.state .preTransition start .opened
    intro answer after call
    have asked := Reached.prepared machine.state start after answer .opened call
    apply reached_ends parts conduct machine start value event known machine.state .shouldExit after asked
    intro willing last reply
    by_cases accepted : conduct.accepts last willing = true
    · by_cases missing : parts.spec.resolution machine.state.type event.type = .unhandled
      · exact ⟨_, _, .unhandled event after last willing known asked reply accepted missing⟩
      · exact willing_ends parts conduct machine start value event known last
          (.willing machine.state after last willing asked reply accepted missing)
    · exact ⟨_, _, .refused event after last willing known asked reply (Bool.eq_false_iff.mpr accepted)⟩
  · exact ⟨_, _, .foreign (not_exists.mp denoted)⟩

end Totality

-- A mark up to the transition is left on a machine that still has its old state.
theorem dispatched_state (parts : Parts) (conduct : Conduct γ) (machine : Reactor) (start : γ) (value : Value)
    (outcome : Except Fault Outcome) (place : Place γ)
    (dispatched : Dispatched parts conduct machine start value outcome place) (step : Step)
    (marked : place.1.step = some step) (early : step.number ≤ Step.transition.number) :
    place.1.state = machine.state := by
  cases dispatched with
  | foreign strange => rfl
  | refused event contents after answer known before call refusal => rfl
  | unhandled event contents after answer known before call accepted missing => rfl
  | raised event state reached contents after fault known before call =>
      cases marked
      exact reached_state parts conduct machine.context event machine.state state start contents step early before
  | misled event contents after target known before call strange => rfl
  | transitioned event state contents after answer known before call => cases marked

-- A door that is pushed open.
def doorSpec : Spec :=
  { kind := .eventDriven, name := "Door", context := "list"
    stateEnum := some { name := "DoorState" }, eventEnum := some { name := "DoorEvent" }
    states :=
      [{ name := "Shut", transitions := [{ source := "Shut", trigger := "Push", target := some "Open" }] },
       { name := "Open" }] }

def doorParts : Parts := partsOf doorSpec { name := "DoorState" } { name := "DoorEvent" }

theorem door_valid : ValidParts doorParts := parts_of_valid doorSpec rfl rfl _ _ rfl rfl

theorem door_resolvable : Resolvable doorParts := ⟨by decide, by decide, by decide⟩

-- An enumeration of the events that is called like the variable for the event is hidden by it, and the machine cannot
-- even ask for the class of what it is given.
def deafSpec : Spec := { doorSpec with eventEnum := some { name := "event" } }

def deafParts : Parts := partsOf deafSpec { name := "DoorState" } { name := "event" }

end Statewright.Machine
