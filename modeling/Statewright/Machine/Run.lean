import Statewright.Machine.Basic

/-!
Running code. A run is over when it has a value or a fault; until then it pauses, and goes on from what the world
has become in the meantime. A routine is a run that has not begun. Nothing is undone when a run fails: what it
changed before stays.
-/
set_option autoImplicit false

namespace Statewright.Machine

inductive Run (σ α : Type) where
  | done (value : α) (world : σ)
  | failed (fault : Fault) (world : σ)
  | paused (world : σ) (resume : σ → Run σ α)

def Routine (σ α : Type) : Type := σ → Run σ α

namespace Run

variable {σ τ α β : Type}

def world : Run σ α → σ
  | done _ world => world
  | failed _ world => world
  | paused world _ => world

def andThen : Run σ α → (α → Routine σ β) → Run σ β
  | done value world, next => next value world
  | failed fault world, _ => failed fault world
  | paused world resume, next => paused world fun later => (resume later).andThen next

def settle : Run σ α → Except Fault α × σ
  | done value world => (.ok value, world)
  | failed fault world => (.error fault, world)
  | paused world resume => (resume world).settle

-- A run on a part of a larger world, which may change as a whole while the run pauses.
def within (part : τ → σ) (put : σ → τ → τ) : Run σ α → Routine τ α
  | done value inner, outer => done value (put inner outer)
  | failed fault inner, outer => failed fault (put inner outer)
  | paused inner resume, outer => paused (put inner outer) fun later => (resume (part later)).within part put later

@[simp] theorem done_andThen (value : α) (world : σ) (next : α → Routine σ β) :
    (done value world).andThen next = next value world := rfl

@[simp] theorem failed_andThen (fault : Fault) (world : σ) (next : α → Routine σ β) :
    (failed fault world : Run σ α).andThen next = failed fault world := rfl

theorem andThen_done (run : Run σ α) : run.andThen done = run := by
  induction run with
  | done value world => rfl
  | failed fault world => rfl
  | paused world resume ih => simp [andThen, ih]

end Run

namespace Routine

variable {σ τ α : Type}

instance : Monad (Routine σ) where
  pure value := fun world => .done value world
  bind routine next := fun world => (routine world).andThen next

def fail (fault : Fault) : Routine σ α := fun world => .failed fault world

def pause : Routine σ Unit := fun world => .paused world fun later => .done () later

def current : Routine σ σ := fun world => .done world world

def change (f : σ → σ) : Routine σ Unit := fun world => .done () (f world)

def ofExcept : Except Fault α → Routine σ α
  | .ok value => pure value
  | .error fault => fail fault

def within (part : τ → σ) (put : σ → τ → τ) (routine : Routine σ α) : Routine τ α :=
  fun outer => (routine (part outer)).within part put outer

end Routine

end Statewright.Machine
