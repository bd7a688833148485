import Statewright.Proofs.Calls

/-!
Calls that fail. Wherever a method fails, at its arguments, in its body, at the value for its target or at the machine
class, no machine has come into being and none has changed: the source goes on as if the call had only made the changes
to the context that its body made.
-/
set_option autoImplicit false

namespace Statewright.Machine

variable {γ : Type} {spec : Spec} {world : TypedWorld γ}

theorem ran_gives (conduct : Conduct γ) (call : LiveCall spec world) (owner method : Text)
    (reaches : Reaches spec call.source call.transition owner method) (bindings : List (Text × Bound Value))
    (outcome : Except Fault Value) (left : γ) (ran : Ran conduct call bindings outcome left) :
    Gives (conduct.body owner method call.value call.context ((call.formals conduct).forward bindings)) call.contents
      outcome left := by
  obtain ⟨other, name, _, _, stands, gives⟩ := ran
  obtain ⟨rfl, rfl⟩ := Callee.body.inj (stands.symm.trans reaches.body)
  exact gives

-- A failure leaves the context as it was, or as the body left it.
theorem failed_context (conduct : Conduct γ) (call : LiveCall spec world) (owner method : Text)
    (reaches : Reaches spec call.source call.transition owner method) (fault : Fault) (left : γ)
    (failed : Failed conduct call fault left) :
    left = call.contents ∨ ∃ bindings outcome, (call.formals conduct).bind call.arguments = some bindings ∧
      Gives (conduct.body owner method call.value call.context ((call.formals conduct).forward bindings)) call.contents
        outcome left := by
  have gives := ran_gives conduct call owner method reaches
  have bound := ran_bound conduct call
  cases failed with
  | unbound missing => exact .inl rfl
  | hidden bindings _ known taken => exact .inl rfl
  | raised bindings _ _ ran => exact .inr ⟨bindings, _, bound bindings _ left ran, gives bindings _ left ran⟩
  | unmade bindings target _ _ prepared =>
      obtain ⟨_, result, ran, _⟩ := prepared
      exact .inr ⟨bindings, _, bound bindings _ left ran, gives bindings _ left ran⟩
  | classHidden bindings target next _ _ prepared taken =>
      obtain ⟨_, result, ran, _⟩ := prepared
      exact .inr ⟨bindings, _, bound bindings _ left ran, gives bindings _ left ran⟩
  | misplaced bindings target next _ _ prepared seen foreign =>
      obtain ⟨_, result, ran, _⟩ := prepared
      exact .inr ⟨bindings, _, bound bindings _ left ran, gives bindings _ left ran⟩

theorem failed_call_iff (conduct : Conduct γ) (call : LiveCall spec world)
    (reaches : ∃ owner method, Reaches spec call.source call.transition owner method) (fault : Fault)
    (after : TypedWorld γ) :
    world.call spec conduct call.id call.transition.trigger call.arguments = (.error fault, after) ↔
      ∃ left, Failed conduct call fault left ∧ after = world.setContext call.context left := by
  rw [call_eq_iff conduct call reaches]
  constructor
  · intro called
    cases called with
    | failed _ left failed => exact ⟨left, failed, rfl⟩
  · rintro ⟨left, failed, rfl⟩
    exact .failed fault left failed

-- A kettle that takes its water and then fails to boil it.
def kettleBoil : Transition :=
  { source := "Cold", trigger := "boil", target := some "Hot", params := "water"
    body := "context.append(water)\nraise ValueError(\"dry\")" }

def kettleSpec : Spec :=
  { kind := .deterministic, name := "Kettle", context := "list"
    states := [{ name := "Cold", transitions := [kettleBoil] }, { name := "Hot" }] }

def kettleWorld : TypedWorld Contents :=
  { machines := [⟨"Cold", some (.object "Cold" [], 0)⟩], contexts := [[]] }

def kettleCall : LiveCall kettleSpec kettleWorld where
  id := 0
  source := ⟨"Cold", some (.object "Cold" [], 0)⟩
  value := .object "Cold" []
  context := 0
  contents := []
  transition := kettleBoil
  arguments := { positional := [.text "tap"] }
  present := rfl
  live := rfl
  kept := rfl
  offered := by decide

-- A switch whose name makes the machine class of the state `On` read like the body of `turnOn`.
def switchSpec : Spec :=
  { kind := .deterministic, name := "_body__Off__turn", context := "list"
    states :=
      [{ name := "On" },
       { name := "Off"
         transitions :=
           [{ source := "Off", trigger := "turnOn", body := "context.append(\"turned\")\nraise ValueError(\"no\")" },
            { source := "Off", trigger := "move", target := some "On", body := "context.append(\"moved\")" }] }] }

def switchWorld : TypedWorld Contents :=
  { machines := [⟨"Off", some (.object "Off" [], 0)⟩], contexts := [[]] }

end Statewright.Machine
