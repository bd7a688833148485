import Statewright.Machine.Run

/-!
What runs come to when nobody acts while they pause. One run after another settles as the first does and then, if that
gave a value, as the second; a run on a part of a world settles as it would on that part alone.
-/
set_option autoImplicit false

namespace Statewright.Machine

namespace Run

variable {σ τ α β : Type}

theorem settle_andThen (run : Run σ α) (next : α → Routine σ β) :
    (run.andThen next).settle = match run.settle with
      | (.ok value, world) => (next value world).settle
      | (.error fault, world) => (.error fault, world) := by
  induction run with
  | done value world => rfl
  | failed fault world => rfl
  | paused world resume ih => exact ih world

theorem settle_within (part : τ → σ) (put : σ → τ → τ) (seen : ∀ inner outer, part (put inner outer) = inner)
    (last : ∀ first second outer, put second (put first outer) = put second outer) (run : Run σ α) (outer : τ) :
    (run.within part put outer).settle = (run.settle.1, put run.settle.2 outer) := by
  induction run generalizing outer with
  | done value world => rfl
  | failed fault world => rfl
  | paused world resume ih =>
      simp only [within, settle, seen]
      rw [ih world (put world outer), last]

end Run

-- What a routine gives when it goes on through every pause, and the world that it leaves.
def Gives {σ α : Type} (routine : Routine σ α) (world : σ) (outcome : Except Fault α) (after : σ) : Prop :=
  (routine world).settle = (outcome, after)

variable {σ α β : Type}

theorem gives_total (routine : Routine σ α) (world : σ) : ∃ outcome after, Gives routine world outcome after :=
  ⟨_, _, rfl⟩

theorem gives_next (routine : Routine σ α) (next : α → Routine σ β) (world after : σ) (value : α)
    (first : Gives routine world (.ok value) after) :
    ((routine >>= next) world).settle = (next value after).settle := by
  change ((routine world).andThen next).settle = _
  rw [Run.settle_andThen, first]

theorem gives_fault (routine : Routine σ α) (next : α → Routine σ β) (world after : σ) (fault : Fault)
    (first : Gives routine world (.error fault) after) : Gives (routine >>= next) world (.error fault) after := by
  change ((routine world).andThen next).settle = _
  rw [Run.settle_andThen, first]

end Statewright.Machine
