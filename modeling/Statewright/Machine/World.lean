import Statewright.Machine.Value

/-!
Machines of one kind and the contexts that they work on, each known by its number. A machine hands its context on to
the machine that follows it, so two machines may know the same context.
-/
set_option autoImplicit false

namespace Statewright.Machine

structure World (μ γ : Type) where
  machines : List μ := []
  contexts : List γ := []

namespace World

variable {μ γ : Type}

def addMachine (world : World μ γ) (machine : μ) : Nat × World μ γ :=
  (world.machines.length, { world with machines := world.machines ++ [machine] })

def addContext (world : World μ γ) (contents : γ) : Nat × World μ γ :=
  (world.contexts.length, { world with contexts := world.contexts ++ [contents] })

def setMachine (world : World μ γ) (id : Nat) (machine : μ) : World μ γ :=
  { world with machines := world.machines.set id machine }

def setContext (world : World μ γ) (id : Nat) (contents : γ) : World μ γ :=
  { world with contexts := world.contexts.set id contents }

end World

end Statewright.Machine
