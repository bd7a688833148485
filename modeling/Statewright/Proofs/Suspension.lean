import Statewright.Proofs.DispatchCases

/-!
What a dispatch does to its machine between its pauses. While it waits others may change what the context holds, but
not the machine. At each pause the machine is marked, up to the transition it has the state it began in, and from one
pause to the next the state changes only if it was still that one.
-/
set_option autoImplicit false

namespace Statewright.Machine

open Emission.EventDriven (Parts)
open Reactor Routine

variable {γ α β : Type}

-- A run that leaves the machine as it is.
inductive Still (machine : Reactor) : Run (Place γ) α → Prop where
  | done (value : α) (contents : γ) : Still machine (.done value (machine, contents))
  | failed (fault : Fault) (contents : γ) : Still machine (.failed fault (machine, contents))
  | paused (contents : γ) (resume : Place γ → Run (Place γ) α)
      (onward : ∀ later, Still machine (resume (machine, later))) : Still machine (.paused (machine, contents) resume)

-- A state follows another in a dispatch if it is the same, or replaces the one in which the dispatch began.
def Succeeds (began seen : Variant) (machine : Reactor) : Prop := machine.state = seen ∨ seen = began

-- What a machine is like while a dispatch waits.
def Marked (began : Variant) (machine : Reactor) : Prop :=
  ∃ step, machine.step = some step ∧ (step.number ≤ Step.transition.number → machine.state = began)

-- A run of a dispatch, from a moment at which the machine was seen in some state.
inductive Follows (began : Variant) : Variant → Run (Place γ) α → Prop where
  | done (seen : Variant) (value : α) (machine : Reactor) (contents : γ) (succeeds : Succeeds began seen machine) :
      Follows began seen (.done value (machine, contents))
  | failed (seen : Variant) (fault : Fault) (machine : Reactor) (contents : γ)
      (succeeds : Succeeds began seen machine) : Follows began seen (.failed fault (machine, contents))
  | paused (seen : Variant) (machine : Reactor) (contents : γ) (resume : Place γ → Run (Place γ) α)
      (succeeds : Succeeds began seen machine) (marked : Marked began machine)
      (onward : ∀ later, Follows began machine.state (resume (machine, later))) :
      Follows began seen (.paused (machine, contents) resume)

theorem still_and_then (began seen : Variant) (machine : Reactor) (run : Run (Place γ) α)
    (next : α → Routine (Place γ) β) (still : Still machine run) (succeeds : Succeeds began seen machine)
    (marked : Marked began machine)
    (onward : ∀ value contents seen, Succeeds began seen machine →
      Follows began seen (next value (machine, contents))) :
    Follows began seen (run.andThen next) := by
  induction still generalizing seen with
  | done value contents => exact onward value contents seen succeeds
  | failed fault contents => exact .failed seen fault machine contents succeeds
  | paused contents resume _ ih =>
      refine .paused seen machine contents _ succeeds marked ?_
      intro later
      exact ih later machine.state (.inl rfl)

theorem still_in_context (routine : Routine γ α) (machine : Reactor) (contents : γ) :
    Still machine (inContext routine (machine, contents)) := by
  have general : ∀ (run : Run γ α) (outer : γ),
      Still machine (run.within (fun place : Place γ => place.2) (fun contents place => (place.1, contents))
        (machine, outer)) := by
    intro run
    induction run with
    | done value inner =>
        intro outer
        exact .done value inner
    | failed fault inner =>
        intro outer
        exact .failed fault inner
    | paused inner resume ih =>
        intro outer
        exact .paused inner _ fun later => ih later later
  exact general (routine contents) contents

theorem call_hook_still (parts : Parts) (conduct : Conduct γ) (side : Side) (hook : Hook) (self : Variant)
    (arguments : List Value) (machine : Reactor) (contents : γ) :
    Still machine (callHook parts conduct side hook self arguments (machine, contents)) :=
  still_in_context _ machine contents

theorem call_handler_still (parts : Parts) (conduct : Conduct γ) (entry : Entry) (state event : Variant) (context : Nat)
    (machine : Reactor) (contents : γ) :
    Still machine (callHandler parts conduct entry state event context (machine, contents)) := by
  unfold callHandler
  cases entry.resolution with
  | explicit transition => exact still_in_context _ machine contents
  | catchAll => exact still_in_context _ machine contents
  | unhandled => exact .done Value.none_ contents

-- One step of a dispatch: it is marked, a call leaves the machine as it is, and the dispatch goes on from there.
theorem step_follows (began seen : Variant) (machine : Reactor) (contents : γ) (step : Step)
    (call : Routine (Place γ) α) (next : α → Routine (Place γ) β)
    (still : ∀ machine contents, Still machine (call (machine, contents))) (succeeds : Succeeds began seen machine)
    (early : step.number ≤ Step.transition.number → machine.state = began)
    (onward : ∀ value contents seen, Succeeds began seen machine →
      Follows began seen (next value ({ machine with step := some step }, contents))) :
    Follows began seen ((mark (some step) >>= fun _ => call >>= next) (machine, contents)) :=
  still_and_then began seen { machine with step := some step } _ next (still _ contents) succeeds ⟨step, rfl, early⟩
    onward

theorem conclude_follows (parts : Parts) (conduct : Conduct γ) (event : Variant) (context : Nat)
    (began seen : Variant) (machine : Reactor) (contents : γ) (succeeds : Succeeds began seen machine) :
    Follows began seen (conclude parts conduct event context (machine, contents)) := by
  apply step_follows began seen machine contents .postTransition _ _ (call_hook_still parts conduct _ _ _ _) succeeds
  · intro early
    exact absurd early (by decide)
  · intro _ contents seen succeeds
    exact .done seen _ _ contents succeeds

-- The state that is seen before it is replaced is the one in which the dispatch began.
theorem enter_follows (parts : Parts) (conduct : Conduct γ) (state event : Variant) (context : Nat) (began : Variant)
    (machine : Reactor) (contents : γ) :
    Follows began began (enter parts conduct state event context (machine, contents)) := by
  apply step_follows began began { machine with state } contents .onEnter _ _ (call_hook_still parts conduct _ _ _ _)
    (.inr rfl)
  · intro early
    exact absurd early (by decide)
  · intro _ contents seen succeeds
    exact conclude_follows parts conduct event context began seen _ contents succeeds

theorem seen_began (began seen : Variant) (machine : Reactor) (held : machine.state = began)
    (succeeds : Succeeds began seen machine) : seen = began :=
  succeeds.elim (fun same => same.symm.trans held) id

theorem transfer_follows (parts : Parts) (conduct : Conduct γ) (entry : Entry) (state event : Variant) (context : Nat)
    (machine : Reactor) (contents : γ) (began : Variant) (held : machine.state = began) :
    Follows began began (transfer parts conduct entry state event context (machine, contents)) := by
  apply step_follows began began machine contents .transition _ _ (call_handler_still parts conduct _ _ _ _) (.inr rfl)
    fun _ => held
  intro target contents seen succeeds
  obtain rfl := seen_began began seen machine held succeeds
  cases converted : convert parts .state (transferVariables parts state event target) target with
  | error fault => exact .failed _ fault _ contents (.inr rfl)
  | ok next => exact enter_follows parts conduct next event context _ _ contents

theorem move_follows (parts : Parts) (conduct : Conduct γ) (entry : Entry) (state event : Variant) (context : Nat)
    (machine : Reactor) (contents : γ) (began : Variant) (held : machine.state = began) :
    Follows began began (move parts conduct entry state event context (machine, contents)) := by
  apply step_follows began began machine contents .onExit _ _ (call_hook_still parts conduct _ _ _ _) (.inr rfl)
    fun _ => held
  intro _ contents seen succeeds
  obtain rfl := seen_began began seen machine held succeeds
  exact transfer_follows parts conduct entry state event context _ contents _ held

theorem choose_follows (parts : Parts) (conduct : Conduct γ) (state event : Variant) (context : Nat) (willing : Value)
    (machine : Reactor) (contents : γ) (began : Variant) (held : machine.state = began) :
    Follows began began (choose parts conduct state event context willing (machine, contents)) := by
  cases accepted : conduct.accepts contents willing with
  | false =>
      rw [choose_refuses parts conduct state event context willing machine contents accepted]
      exact .done began Outcome.refused _ contents (.inr rfl)
  | true =>
      cases found : parts.table.lookup? state.type event.type with
      | none =>
          rw [choose_missing parts conduct state event context willing machine contents accepted found]
          exact .failed began .noEntry machine contents (.inr rfl)
      | some entry =>
          by_cases unhandled : entry.resolution = .unhandled
          · rw [choose_unhandled parts conduct state event context willing machine contents entry found accepted
              unhandled]
            exact .done began Outcome.unhandled _ contents (.inr rfl)
          · rw [choose_moves parts conduct state event context willing machine contents entry found accepted unhandled]
            exact move_follows parts conduct entry state event context machine contents began held

theorem ask_follows (parts : Parts) (conduct : Conduct γ) (state event : Variant) (context : Nat) (machine : Reactor)
    (contents : γ) (began : Variant) (held : machine.state = began) :
    Follows began began (ask parts conduct state event context (machine, contents)) := by
  apply step_follows began began machine contents .shouldExit _ _ (call_hook_still parts conduct _ _ _ _) (.inr rfl)
    fun _ => held
  intro willing contents seen succeeds
  obtain rfl := seen_began began seen machine held succeeds
  exact choose_follows parts conduct state event context willing _ contents _ held

theorem react_follows (parts : Parts) (conduct : Conduct γ) (state event : Variant) (context : Nat) (machine : Reactor)
    (contents : γ) (began : Variant) (held : machine.state = began) :
    Follows began began (react parts conduct state event context (machine, contents)) := by
  apply step_follows began began machine contents .preTransition _ _ (call_hook_still parts conduct _ _ _ _) (.inr rfl)
    fun _ => held
  intro _ contents seen succeeds
  obtain rfl := seen_began began seen machine held succeeds
  exact ask_follows parts conduct state event context _ contents _ held

theorem dispatch_follows (parts : Parts) (conduct : Conduct γ) (value : Value) (machine : Reactor) (contents : γ) :
    Follows machine.state machine.state (dispatch parts conduct value (machine, contents)) := by
  cases marked : machine.step with
  | some step =>
      rw [dispatch_marked parts conduct value machine contents step marked]
      exact .failed _ _ machine contents (.inl rfl)
  | none =>
      rw [dispatch_idle parts conduct value machine contents marked]
      cases convert parts .event (dispatchVariables value) value with
      | error fault => exact .failed _ fault machine contents (.inl rfl)
      | ok event => exact react_follows parts conduct machine.state event machine.context machine contents _ rfl

end Statewright.Machine
