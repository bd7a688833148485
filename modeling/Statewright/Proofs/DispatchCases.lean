import Statewright.Machine.Dispatch

/-!
The cases of a dispatch. A marked machine refuses it; an unmarked one reacts to the events that it knows. Once the state
has answered, its answer and the entry of the table decide how the dispatch goes on.
-/
set_option autoImplicit false

namespace Statewright.Machine

open Emission.EventDriven (Parts)
open Reactor Routine

variable {γ : Type}

theorem dispatch_marked (parts : Parts) (conduct : Conduct γ) (value : Value) (machine : Reactor) (contents : γ)
    (step : Step) (marked : machine.step = some step) :
    dispatch parts conduct value (machine, contents) = .failed (.interrupted step) (machine, contents) := by
  obtain ⟨state, context, held⟩ := machine
  obtain rfl : held = some step := marked
  rfl

theorem dispatch_idle (parts : Parts) (conduct : Conduct γ) (value : Value) (machine : Reactor) (contents : γ)
    (idle : machine.step = none) :
    dispatch parts conduct value (machine, contents) =
      (ofExcept (convert parts .event (dispatchVariables value) value) >>= fun event =>
        react parts conduct machine.state event machine.context) (machine, contents) := by
  obtain ⟨state, context, held⟩ := machine
  obtain rfl : held = none := idle
  rfl

section Choice

variable (parts : Parts) (conduct : Conduct γ) (state event : Variant) (context : Nat) (answer : Value)
  (machine : Reactor) (contents : γ)

theorem choose_refuses (refusal : conduct.accepts contents answer = false) :
    choose parts conduct state event context answer (machine, contents) =
      .done .refused ({ machine with step := none }, contents) := by
  change (if !conduct.accepts contents answer then _ else _ : Routine (Place γ) Outcome) (machine, contents) = _
  rw [refusal]
  rfl

theorem choose_missing (accepted : conduct.accepts contents answer = true)
    (missing : parts.table.lookup? state.type event.type = none) :
    choose parts conduct state event context answer (machine, contents) = .failed .noEntry (machine, contents) := by
  unfold choose
  rw [missing]
  change (if !conduct.accepts contents answer then _ else _ : Routine (Place γ) Outcome) (machine, contents) = _
  rw [accepted]
  rfl

variable (entry : Entry) (found : parts.table.lookup? state.type event.type = some entry)

include found

theorem choose_unhandled (accepted : conduct.accepts contents answer = true)
    (unhandled : entry.resolution = .unhandled) :
    choose parts conduct state event context answer (machine, contents) =
      .done .unhandled ({ machine with step := none }, contents) := by
  unfold choose
  rw [found]
  change (if !conduct.accepts contents answer then _ else _ : Routine (Place γ) Outcome) (machine, contents) = _
  rw [accepted]
  exact congrFun (if_pos (beq_iff_eq.mpr unhandled)) _

theorem choose_moves (accepted : conduct.accepts contents answer = true) (handled : entry.resolution ≠ .unhandled) :
    choose parts conduct state event context answer (machine, contents) =
      move parts conduct entry state event context (machine, contents) := by
  unfold choose
  rw [found]
  change (if !conduct.accepts contents answer then _ else _ : Routine (Place γ) Outcome) (machine, contents) = _
  rw [accepted]
  exact congrFun (if_neg fun same => handled (beq_iff_eq.mp same)) _

end Choice

end Statewright.Machine
