import Statewright.Proofs.Runs

/-!
Where runs pause while nobody else acts. `Lasts` counts the pauses of a run that comes to an end; `Waits` says that a
run pauses once more after some number of pauses. A run of two parts waits in the first, or in the second after all
pauses of the first.
-/
set_option autoImplicit false

namespace Statewright.Machine

namespace Run

variable {σ τ α β : Type}

inductive Lasts : Run σ α → Nat → Except Fault α → σ → Prop where
  | done (value : α) (world : σ) : Lasts (.done value world) 0 (.ok value) world
  | failed (fault : Fault) (world : σ) : Lasts (.failed fault world) 0 (.error fault) world
  | paused (world after : σ) (resume : σ → Run σ α) (pauses : Nat) (outcome : Except Fault α)
      (onward : Lasts (resume world) pauses outcome after) : Lasts (.paused world resume) (pauses + 1) outcome after

inductive Waits : Run σ α → Nat → σ → Prop where
  | here (world : σ) (resume : σ → Run σ α) : Waits (.paused world resume) 0 world
  | later (world after : σ) (resume : σ → Run σ α) (pauses : Nat) (onward : Waits (resume world) pauses after) :
      Waits (.paused world resume) (pauses + 1) after

theorem lasts_settles (run : Run σ α) (pauses : Nat) (outcome : Except Fault α) (after : σ)
    (lasts : Lasts run pauses outcome after) : run.settle = (outcome, after) := by
  induction lasts with
  | done value world => rfl
  | failed fault world => rfl
  | paused world after resume pauses outcome _ ih => exact ih

theorem waits_and_then (run : Run σ α) (next : α → Routine σ β) (pauses : Nat) (after : σ)
    (waits : Waits (run.andThen next) pauses after) :
    Waits run pauses after ∨ ∃ earlier later value world, Lasts run earlier (.ok value) world ∧
      Waits (next value world) later after ∧ pauses = earlier + later := by
  induction run generalizing pauses with
  | done value world => exact .inr ⟨0, pauses, value, world, .done value world, waits, (Nat.zero_add pauses).symm⟩
  | failed fault world => cases waits
  | paused world resume ih =>
      cases waits with
      | here => exact .inl (.here after resume)
      | later _ _ _ pauses onward =>
          rcases ih world pauses onward with first | ⟨earlier, later, value, middle, lasts, second, rfl⟩
          · exact .inl (.later world after resume pauses first)
          · have lasting : Lasts (.paused world resume) (earlier + 1) (.ok value) middle :=
              .paused world middle resume earlier _ lasts
            exact .inr ⟨earlier + 1, later, value, middle, lasting, second, by omega⟩

section Within

variable (part : τ → σ) (put : σ → τ → τ) (seen : ∀ inner outer, part (put inner outer) = inner)
  (last : ∀ first second outer, put second (put first outer) = put second outer)

include seen last

theorem lasts_within (run : Run σ α) (outer after : τ) (pauses : Nat) (outcome : Except Fault α)
    (lasts : Lasts (run.within part put outer) pauses outcome after) :
    ∃ inner, Lasts run pauses outcome inner ∧ after = put inner outer := by
  induction run generalizing outer pauses with
  | done value world =>
      cases lasts
      exact ⟨world, .done value world, rfl⟩
  | failed fault world =>
      cases lasts
      exact ⟨world, .failed fault world, rfl⟩
  | paused world resume ih =>
      cases lasts with
      | paused _ _ _ pauses _ onward =>
          change Lasts ((resume (part (put world outer))).within part put (put world outer)) pauses outcome after
            at onward
          rw [seen] at onward
          obtain ⟨inner, lasting, rfl⟩ := ih world (put world outer) pauses onward
          exact ⟨inner, .paused world inner resume pauses outcome lasting, last world inner outer⟩

theorem waits_within (run : Run σ α) (outer after : τ) (pauses : Nat)
    (waits : Waits (run.within part put outer) pauses after) :
    ∃ inner, Waits run pauses inner ∧ after = put inner outer := by
  induction run generalizing outer pauses with
  | done value world => cases waits
  | failed fault world => cases waits
  | paused world resume ih =>
      cases waits with
      | here => exact ⟨world, .here world resume, rfl⟩
      | later _ _ _ pauses onward =>
          change Waits ((resume (part (put world outer))).within part put (put world outer)) pauses after at onward
          rw [seen] at onward
          obtain ⟨inner, waiting, rfl⟩ := ih world (put world outer) pauses onward
          exact ⟨inner, .later world inner resume pauses waiting, last world inner outer⟩

end Within

end Run

end Statewright.Machine
