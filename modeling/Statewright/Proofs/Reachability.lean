import Statewright.Proofs.DispatchAgreement

/-!
What holds of a machine however far it has come. A machine begins in a declared state; it then dispatches values of any
kind, is recovered, and works on a context that others change. Its state stays a declared one, so the table has an entry
for each event that it knows, and a dispatch fails only for reasons that its caller can name.
-/
set_option autoImplicit false

namespace Statewright.Machine

open Emission.EventDriven (Parts)
open Reactor

-- What is done with a machine, one thing after the other.
inductive Command (γ : Type) where
  | dispatch (value : Value)
  | recover
  | touch (change : γ → γ)

-- An enumeration wraps objects of its members only, so a value of it is one of those.
def GenuineState (parts : Parts) (value : Value) : Prop :=
  ∀ type fields, value = .variant parts.stateName type fields → type ∈ parts.spec.states.map (·.name)

section Commands

variable {γ : Type} (parts : Parts) (conduct : Conduct γ)

def obey (place : Place γ) : Command γ → Place γ
  | .dispatch value => (dispatch parts conduct value place).settle.2
  | .recover => (place.1.recover.2, place.2)
  | .touch change => (place.1, change place.2)

def obeyed (place : Place γ) (commands : List (Command γ)) : Place γ := commands.foldl (obey parts conduct) place

-- No value of an enumeration in sight is forged: neither the one dispatched nor what the transition returns.
def Honest (place : Place γ) : Command γ → Prop
  | .dispatch value => GenuineEvent parts value ∧
      ∀ event contents target after, place.1.step = none → DenotesEvent parts value event →
        Reached parts conduct place.1.context event place.1.state place.2 .transition place.1.state contents →
        Gives (stepCall parts conduct place.1.context event place.1.state .transition) contents (.ok target) after →
        GenuineState parts target
  | .recover => True
  | .touch _ => True

def AllHonest : Place γ → List (Command γ) → Prop
  | _, [] => True
  | place, command :: rest => Honest parts conduct place command ∧ AllHonest (obey parts conduct place command) rest

-- Why a dispatch fails: the machine waits to be recovered, the value is no event, a hook or the transition raised, or
-- the transition returned what is no state.
inductive Accountable (place : Place γ) (value : Value) : Fault → Prop where
  | interrupted (step : Step) (marked : place.1.step = some step) : Accountable place value (.interrupted step)
  | foreign (strange : ∀ event, ¬ DenotesEvent parts value event) :
      Accountable place value (.noVariant (value.typeName fun _ => parts.name) "event" parts.name)
  | raised (event state : Variant) (step : Step) (contents after : γ) (fault : Fault)
      (known : DenotesEvent parts value event)
      (before : Reached parts conduct place.1.context event place.1.state place.2 step state contents)
      (call : Gives (stepCall parts conduct place.1.context event state step) contents (.error fault) after) :
      Accountable place value fault
  | misled (event : Variant) (contents after : γ) (target : Value) (known : DenotesEvent parts value event)
      (before : Reached parts conduct place.1.context event place.1.state place.2 .transition place.1.state contents)
      (call : Gives (stepCall parts conduct place.1.context event place.1.state .transition) contents (.ok target)
        after)
      (strange : ∀ next, ¬ DenotesState parts target next) :
      Accountable place value (.noVariant (target.typeName fun _ => parts.name) "state" parts.name)

end Commands

variable {γ : Type}

theorem genuine_is_state (parts : Parts) (value : Value) (state : Variant) (genuine : GenuineState parts value)
    (denoted : DenotesState parts value state) : state.type ∈ parts.spec.states.map (·.name) := by
  cases denoted with
  | bare type fields member => exact member
  | wrapped type fields => exact genuine type fields rfl

theorem reached_declared (parts : Parts) (conduct : Conduct γ) (place : Place γ) (value : Value) (event state : Variant)
    (step : Step) (contents : γ) (idle : place.1.step = none)
    (declared : place.1.state.type ∈ parts.spec.states.map (·.name))
    (honest : Honest parts conduct place (.dispatch value)) (known : DenotesEvent parts value event)
    (reached : Reached parts conduct place.1.context event place.1.state place.2 step state contents) :
    state.type ∈ parts.spec.states.map (·.name) := by
  induction reached with
  | opened => exact declared
  | prepared state contents after answer before call ih => exact ih
  | willing state contents after answer before call accepted handled ih => exact ih
  | left state contents after answer before call ih => exact ih
  | moved state next contents after target before call converted ih =>
      obtain rfl : state = place.1.state := reached_state _ _ _ _ _ _ _ _ _ (by decide) before
      have genuine := honest.2 event contents target after idle known before call
      exact genuine_is_state parts target next genuine converted
  | entered state contents after answer before call ih => exact ih

theorem dispatched_declared (parts : Parts) (conduct : Conduct γ) (place : Place γ) (value : Value)
    (outcome : Except Fault Outcome) (after : Place γ) (idle : place.1.step = none)
    (declared : place.1.state.type ∈ parts.spec.states.map (·.name))
    (honest : Honest parts conduct place (.dispatch value))
    (dispatched : Dispatched parts conduct place.1 place.2 value outcome after) :
    after.1.state.type ∈ parts.spec.states.map (·.name) := by
  cases dispatched with
  | foreign strange => exact declared
  | refused event contents after answer known before call refusal => exact declared
  | unhandled event contents after answer known before call accepted missing => exact declared
  | raised event state step contents after fault known before call =>
      exact reached_declared parts conduct place value event state step contents idle declared honest known before
  | misled event contents after target known before call strange => exact declared
  | transitioned event state contents after answer known before call =>
      exact reached_declared parts conduct place value event state _ contents idle declared honest known before

-- A dispatch that ends by the rules has unmarked the machine, or its fault has a reason.
theorem dispatched_accountable (parts : Parts) (conduct : Conduct γ) (place : Place γ) (value : Value)
    (outcome : Except Fault Outcome) (after : Place γ)
    (dispatched : Dispatched parts conduct place.1 place.2 value outcome after) :
    (∀ result, outcome = .ok result → after.1.step = none) ∧
      ∀ fault, outcome = .error fault → Accountable parts conduct place value fault := by
  cases dispatched with
  | foreign strange =>
      refine ⟨nofun, ?_⟩
      rintro fault ⟨⟩
      exact .foreign strange
  | refused event contents after answer known before call refusal => exact ⟨fun _ _ => rfl, nofun⟩
  | unhandled event contents after answer known before call accepted missing => exact ⟨fun _ _ => rfl, nofun⟩
  | raised event state step contents after fault known before call =>
      refine ⟨nofun, ?_⟩
      rintro fault ⟨⟩
      exact .raised event state step contents after fault known before call
  | misled event contents after target known before call strange =>
      refine ⟨nofun, ?_⟩
      rintro fault ⟨⟩
      exact .misled event contents after target known before call strange
  | transitioned event state contents after answer known before call => exact ⟨fun _ _ => rfl, nofun⟩

section Synchronous

variable (parts : Parts) (valid : ValidParts parts) (sync : parts.spec.isAsync = false) (resolvable : Resolvable parts)
  (conduct : Conduct γ)

include valid sync resolvable

theorem settled_dispatched (place : Place γ) (value : Value) (idle : place.1.step = none)
    (declared : place.1.state.type ∈ parts.spec.states.map (·.name)) (genuine : GenuineEvent parts value) :
    Dispatched parts conduct place.1 place.2 value (dispatch parts conduct value place).settle.1
      (dispatch parts conduct value place).settle.2 := by
  obtain ⟨outcome, after, dispatched⟩ := dispatch_ends parts conduct place.1 place.2 value
  have settled : (dispatch parts conduct value place).settle = (outcome, after) :=
    dispatched_settles parts valid sync resolvable conduct place.1 place.2 value idle declared genuine outcome after
      dispatched
  rw [settled]
  exact dispatched

theorem obey_declared (place : Place γ) (command : Command γ)
    (declared : place.1.state.type ∈ parts.spec.states.map (·.name)) (honest : Honest parts conduct place command) :
    (obey parts conduct place command).1.state.type ∈ parts.spec.states.map (·.name) := by
  cases command with
  | dispatch value =>
      cases marked : place.1.step with
      | some step =>
          have refused := dispatch_marked parts conduct value place.1 place.2 step marked
          change (dispatch parts conduct value (place.1, place.2)).settle.2.1.state.type ∈ _
          rw [refused]
          exact declared
      | none =>
          have dispatched := settled_dispatched parts valid sync resolvable conduct place value marked declared honest.1
          exact dispatched_declared parts conduct place value _ _ marked declared honest dispatched
  | recover => exact declared
  | touch change => exact declared

theorem obeyed_declared (place : Place γ) (commands : List (Command γ))
    (declared : place.1.state.type ∈ parts.spec.states.map (·.name))
    (honest : AllHonest parts conduct place commands) :
    (obeyed parts conduct place commands).1.state.type ∈ parts.spec.states.map (·.name) := by
  induction commands generalizing place with
  | nil => exact declared
  | cons command rest ih =>
      exact ih _ (obey_declared parts valid sync resolvable conduct place command declared honest.1) honest.2

theorem dispatch_accountable (place : Place γ) (value : Value)
    (declared : place.1.state.type ∈ parts.spec.states.map (·.name)) (genuine : GenuineEvent parts value) :
    (∀ outcome, (dispatch parts conduct value place).settle.1 = .ok outcome →
      (dispatch parts conduct value place).settle.2.1.step = none) ∧
    ∀ fault, (dispatch parts conduct value place).settle.1 = .error fault →
      Accountable parts conduct place value fault := by
  cases marked : place.1.step with
  | some step =>
      have refused : dispatch parts conduct value place = .failed (.interrupted step) place :=
        dispatch_marked parts conduct value place.1 place.2 step marked
      rw [refused]
      refine ⟨nofun, ?_⟩
      rintro fault ⟨⟩
      exact .interrupted step marked
  | none =>
      have dispatched := settled_dispatched parts valid sync resolvable conduct place value marked declared genuine
      exact dispatched_accountable parts conduct place value _ _ dispatched

end Synchronous

-- An enumeration of the states that is called like the variable for what a transition returns is hidden by it: the
-- transition has run, and the new state is never entered.
def jammedSpec : Spec := { doorSpec with stateEnum := some { name := "target" } }

def jammedParts : Parts := partsOf jammedSpec { name := "target" } { name := "DoorEvent" }

def jammedCall (state : Variant) (step : Step) : Routine Contents Value :=
  stepCall jammedParts (Program.ofSpec jammedSpec).conduct 0 ⟨"Push", []⟩ state step

-- Its calls all answer and leave the context alone.
theorem jammed_calls_answer (state : Variant) (own : state = ⟨"Shut", []⟩ ∨ state = ⟨"Open", []⟩) (step : Step) :
    ∃ answer, Gives (jammedCall state step) [] (.ok answer) [] ∧
      (step = .transition → ∀ next, DenotesState jammedParts answer next → next = ⟨"Open", []⟩) := by
  rcases own with rfl | rfl
  · cases step with
    | transition =>
        refine ⟨.object "Open" [], rfl, ?_⟩
        rintro - next ⟨⟩
        rfl
    | preTransition | shouldExit | onExit | onEnter | postTransition => exact ⟨_, rfl, nofun⟩
  · cases step with
    | transition => exact ⟨.none_, rfl, nofun⟩
    | preTransition | shouldExit | onExit | onEnter | postTransition => exact ⟨_, rfl, nofun⟩

theorem jammed_reached (state : Variant) (step : Step) (contents : Contents)
    (reached : Reached jammedParts (Program.ofSpec jammedSpec).conduct 0 ⟨"Push", []⟩ ⟨"Shut", []⟩ [] step state
      contents) : (state = ⟨"Shut", []⟩ ∨ state = ⟨"Open", []⟩) ∧ contents = [] := by
  -- A call that is made with nothing in the context leaves nothing there.
  have still : ∀ state step answer after, (state = ⟨"Shut", []⟩ ∨ state = ⟨"Open", []⟩) →
      Gives (jammedCall state step) [] (.ok answer) after → after = [] := by
    intro state step answer after own call
    obtain ⟨_, given, _⟩ := jammed_calls_answer state own step
    exact (Prod.mk.inj (given.symm.trans call)).2.symm
  induction reached with
  | opened => exact ⟨.inl rfl, rfl⟩
  | prepared state contents after answer before call ih
  | left state contents after answer before call ih
  | entered state contents after answer before call ih =>
      obtain ⟨own, rfl⟩ := ih
      exact ⟨own, still state _ answer after own call⟩
  | willing state contents after answer before call accepted handled ih =>
      obtain ⟨own, rfl⟩ := ih
      exact ⟨own, still state _ answer after own call⟩
  | moved state next contents after target before call converted ih =>
      obtain ⟨own, rfl⟩ := ih
      obtain ⟨answer, given, opens⟩ := jammed_calls_answer state own .transition
      obtain ⟨same, rfl⟩ := Prod.mk.inj (given.symm.trans call)
      obtain rfl := Except.ok.inj same
      exact ⟨.inr (opens rfl next converted), rfl⟩

end Statewright.Machine
