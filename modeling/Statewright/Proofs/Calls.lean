import Statewright.Proofs.Callees
import Statewright.Proofs.Runs

/-!
Calls of the methods of deterministic machines. `Failed` says how the call of a method of a live machine fails and what
it leaves in the context, `Called` says how such a call ends. Calls end in these ways and in no others, whatever the
bodies do.
-/
set_option autoImplicit false

namespace Statewright.Machine

open Emission.Deterministic (target?)
open TypedWorld

-- The call of a method of a live machine.
structure LiveCall {γ : Type} (spec : Spec) (world : TypedWorld γ) where
  id : Nat
  source : Typed
  value : Value
  context : Nat
  contents : γ
  transition : Transition
  arguments : Arguments Value
  present : world.machines[id]? = some source
  live : source.held = some (value, context)
  kept : world.contexts[context]? = some contents
  offered : source.transition? spec transition.trigger = some transition

section Rules

variable {γ : Type} {spec : Spec} {world : TypedWorld γ} (conduct : Conduct γ) (call : LiveCall spec world)

namespace LiveCall

def formals : Formals Value := call.source.formals spec conduct call.transition.trigger

def body : Callee := .body call.source.state call.transition.trigger

-- What goes wrong when the method calls by a name what the module defines under it.
def misread? (bindings : List (Text × Bound Value)) (callee : Callee) : Option Fault :=
  Typed.misread? (call.source.className spec) (bindings.map (·.1)) (callee.name spec)

end LiveCall

-- The arguments are bound, and the body that the method calls by its name has run.
inductive Ran (bindings : List (Text × Bound Value)) (outcome : Except Fault Value) (left : γ) : Prop where
  | run (owner method : Text) (bound : (call.formals conduct).bind call.arguments = some bindings)
      (seen : call.misread? bindings call.body = none) (stands : call.body.standing spec = .body owner method)
      (gives : Gives (conduct.body owner method call.value call.context ((call.formals conduct).forward bindings))
        call.contents outcome left)

-- A value for the target is there, or could not be made: what the body returned, or one made from defaults.
structure Prepared (bindings : List (Text × Bound Value)) (target : Text) (outcome : Except Fault Value) (left : γ) :
    Prop where
  leads : target? call.transition = some target
  made : ∃ result, Ran conduct call bindings (.ok result) left ∧
    Typed.nextValue conduct (call.source.className spec) bindings target result = outcome

inductive Failed : Fault → γ → Prop where
  | unbound (missing : (call.formals conduct).bind call.arguments = none) : Failed .mismatch call.contents
  | hidden (bindings : List (Text × Bound Value)) (fault : Fault)
      (bound : (call.formals conduct).bind call.arguments = some bindings)
      (taken : call.misread? bindings call.body = some fault) : Failed fault call.contents
  | raised (bindings : List (Text × Bound Value)) (fault : Fault) (left : γ)
      (ran : Ran conduct call bindings (.error fault) left) : Failed fault left
  | unmade (bindings : List (Text × Bound Value)) (target : Text) (fault : Fault) (left : γ)
      (prepared : Prepared conduct call bindings target (.error fault) left) : Failed fault left
  | classHidden (bindings : List (Text × Bound Value)) (target : Text) (next : Value) (fault : Fault) (left : γ)
      (prepared : Prepared conduct call bindings target (.ok next) left)
      (taken : call.misread? bindings (.machineClass target) = some fault) : Failed fault left
  | misplaced (bindings : List (Text × Bound Value)) (target : Text) (next : Value) (fault : Fault) (left : γ)
      (prepared : Prepared conduct call bindings target (.ok next) left)
      (seen : call.misread? bindings (.machineClass target) = none)
      (foreign : Typed.misplaced? spec target next (world.typeOf spec next) = some fault) : Failed fault left

inductive Called : Except Fault Value → TypedWorld γ → Prop where
  | failed (fault : Fault) (left : γ) (failed : Failed conduct call fault left) :
      Called (.error fault) (world.setContext call.context left)
  | returned (bindings : List (Text × Bound Value)) (result : Value) (left : γ)
      (ran : Ran conduct call bindings (.ok result) left) (stays : target? call.transition = none) :
      Called (.ok result) (world.setContext call.context left)
  | moved (bindings : List (Text × Bound Value)) (target : Text) (next : Value) (left : γ)
      (prepared : Prepared conduct call bindings target (.ok next) left)
      (seen : call.misread? bindings (.machineClass target) = none)
      (fits : Typed.misplaced? spec target next (world.typeOf spec next) = none) :
      Called (.ok (.machine world.machines.length))
        (((world.setContext call.context left).addMachine ⟨target, some (next, call.context)⟩).2.setMachine call.id
          call.source.consumed)

end Rules

variable {γ : Type}

@[simp] theorem set_context_machines (world : TypedWorld γ) (context : Nat) (contents : γ) :
    (world.setContext context contents).machines = world.machines := rfl

@[simp] theorem set_context_contexts (world : TypedWorld γ) (context : Nat) (contents : γ) :
    (world.setContext context contents).contexts = world.contexts.set context contents := rfl

@[simp] theorem set_machine_contexts (world : TypedWorld γ) (id : Nat) (machine : Typed) :
    (world.setMachine id machine).contexts = world.contexts := rfl

@[simp] theorem set_machine_machines (world : TypedWorld γ) (id : Nat) (machine : Typed) :
    (world.setMachine id machine).machines = world.machines.set id machine := rfl

@[simp] theorem add_machine_machines (world : TypedWorld γ) (machine : Typed) :
    (world.addMachine machine).2.machines = world.machines ++ [machine] := rfl

@[simp] theorem add_machine_contexts (world : TypedWorld γ) (machine : Typed) :
    (world.addMachine machine).2.contexts = world.contexts := rfl

theorem set_context_same (world : TypedWorld γ) (context : Nat) (contents : γ)
    (kept : world.contexts[context]? = some contents) : world.setContext context contents = world := by
  obtain ⟨machines, contexts⟩ := world
  obtain ⟨bound, rfl⟩ := List.getElem?_eq_some_iff.mp kept
  simp [World.setContext]

theorem typed_alive (spec : Spec) (machine : Typed) (value : Value) (context : Nat)
    (live : machine.held = some (value, context)) : machine.alive spec = .ok (value, context) := by
  unfold Typed.alive
  rw [live]

theorem perform_error (spec : Spec) (conduct : Conduct γ) (world after : TypedWorld γ) (id : Nat) (source : Typed)
    (value : Value) (context : Nat) (bindings : List (Text × Bound Value)) (transition : Transition) (fault : Fault)
    (refused : callNamed spec conduct world (source.className spec) bindings (.body source.state transition.trigger)
      value context ((source.formals spec conduct transition.trigger).forward bindings) = (.error fault, after)) :
    perform spec conduct world id source value context bindings transition = (.error fault, after) := by
  simp only [perform, refused]

theorem perform_ok (spec : Spec) (conduct : Conduct γ) (world after : TypedWorld γ) (id : Nat) (source : Typed)
    (value : Value) (context : Nat) (bindings : List (Text × Bound Value)) (transition : Transition) (result : Value)
    (answered : callNamed spec conduct world (source.className spec) bindings (.body source.state transition.trigger)
      value context ((source.formals spec conduct transition.trigger).forward bindings) = (.ok result, after)) :
    perform spec conduct world id source value context bindings transition =
      follow spec conduct after id source context bindings transition result := by
  simp only [perform, answered]

theorem typed_gone (spec : Spec) (machine : Typed) (gone : machine.held = none) :
    ∃ fault, machine.alive spec = .error fault := by
  unfold Typed.alive
  rw [gone]
  exact ⟨_, rfl⟩

theorem typed_consumed (spec : Spec) (asks : spec.hides "type" = false) (machine : Typed)
    (gone : machine.held = none) : machine.alive spec = .error (.consumed (machine.className spec)) := by
  unfold Typed.alive
  rw [gone, asks]
  rfl

theorem misplaced_none_iff (spec : Spec) (state : Text) (value : Value) (actual : Text) :
    Typed.misplaced? spec state value actual = none ↔
      spec.hides "isinstance" = false ∧ value.isOf state = true := by
  unfold Typed.misplaced?
  cases spec.hides "isinstance" <;> cases value.isOf state <;> simp

/-! What a call comes to. -/

section Bound

variable {spec : Spec} {world : TypedWorld γ} (conduct : Conduct γ) (call : LiveCall spec world)
  (bindings : List (Text × Bound Value))

theorem call_bound (bound : (call.formals conduct).bind call.arguments = some bindings) :
    world.call spec conduct call.id call.transition.trigger call.arguments =
      perform spec conduct world call.id call.source call.value call.context bindings call.transition := by
  have known : (call.source.formals spec conduct call.transition.trigger).bind call.arguments = some bindings := bound
  simp only [TypedWorld.call, call.present, call.offered, known, typed_alive spec _ _ _ call.live]

theorem call_unbound (missing : (call.formals conduct).bind call.arguments = none) :
    world.call spec conduct call.id call.transition.trigger call.arguments = (.error .mismatch, world) := by
  have unknown : (call.source.formals spec conduct call.transition.trigger).bind call.arguments = none := missing
  simp only [TypedWorld.call, call.present, call.offered, unknown]

theorem perform_hidden (fault : Fault) (taken : call.misread? bindings call.body = some fault) :
    perform spec conduct world call.id call.source call.value call.context bindings call.transition =
      (.error fault, world) := by
  have refused : callNamed spec conduct world (call.source.className spec) bindings call.body call.value call.context
      ((call.formals conduct).forward bindings) = (.error fault, world) := by
    have found : Typed.misread? (call.source.className spec) (bindings.map (·.1)) (call.body.name spec) = some fault :=
      taken
    simp only [callNamed, found]
  exact perform_error spec conduct world _ _ _ _ _ _ _ _ refused

theorem ran_named (outcome : Except Fault Value) (left : γ) (ran : Ran conduct call bindings outcome left) :
    callNamed spec conduct world (call.source.className spec) bindings call.body call.value call.context
      ((call.formals conduct).forward bindings) = (outcome, world.setContext call.context left) := by
  obtain ⟨owner, method, _, seen, stands, gives⟩ := ran
  have settled : (conduct.body owner method call.value call.context ((call.formals conduct).forward bindings)
      call.contents).settle = (outcome, left) := gives
  have read : Typed.misread? (call.source.className spec) (bindings.map (·.1)) (call.body.name spec) = none := seen
  simp only [callNamed, read, stands, invoke, call.kept, settled]

theorem ran_bound (outcome : Except Fault Value) (left : γ) (ran : Ran conduct call bindings outcome left) :
    (call.formals conduct).bind call.arguments = some bindings := by
  cases ran with
  | run owner method bound seen stands gives => exact bound

theorem prepared_bound (target : Text) (outcome : Except Fault Value) (left : γ)
    (prepared : Prepared conduct call bindings target outcome left) :
    (call.formals conduct).bind call.arguments = some bindings := by
  obtain ⟨_, result, ran, _⟩ := prepared
  exact ran_bound conduct call bindings _ left ran

theorem prepared_unmade (target : Text) (fault : Fault) (left : γ)
    (prepared : Prepared conduct call bindings target (.error fault) left) :
    perform spec conduct world call.id call.source call.value call.context bindings call.transition =
      (.error fault, world.setContext call.context left) := by
  obtain ⟨leads, result, ran, unmade⟩ := prepared
  rw [perform_ok spec conduct world _ _ _ _ _ _ _ _ (ran_named conduct call bindings _ left ran)]
  simp only [follow, leads, unmade]

section Made

variable (target : Text) (next : Value) (left : γ) (prepared : Prepared conduct call bindings target (.ok next) left)

include prepared

theorem prepared_error (after : TypedWorld γ) (fault : Fault)
    (refused : callNamed spec conduct (world.setContext call.context left) (call.source.className spec) bindings
      (.machineClass target) next call.context {} = (.error fault, after)) :
    perform spec conduct world call.id call.source call.value call.context bindings call.transition =
      (.error fault, after) := by
  obtain ⟨leads, result, ran, made⟩ := prepared
  rw [perform_ok spec conduct world _ _ _ _ _ _ _ _ (ran_named conduct call bindings _ left ran)]
  simp only [follow, leads, made, refused]

theorem prepared_ok (after : TypedWorld γ) (machine : Value)
    (answered : callNamed spec conduct (world.setContext call.context left) (call.source.className spec) bindings
      (.machineClass target) next call.context {} = (.ok machine, after)) :
    perform spec conduct world call.id call.source call.value call.context bindings call.transition =
      (.ok machine, after.setMachine call.id call.source.consumed) := by
  obtain ⟨leads, result, ran, made⟩ := prepared
  rw [perform_ok spec conduct world _ _ _ _ _ _ _ _ (ran_named conduct call bindings _ left ran)]
  simp only [follow, leads, made, answered]

end Made

end Bound

-- The call of a machine class with a value and a context.
theorem class_invoked (spec : Spec) (conduct : Conduct γ) (world : TypedWorld γ) (state : Text) (value : Value)
    (context : Nat) :
    invoke spec conduct world (.machineClass state) value context {} =
      match Typed.misplaced? spec state value (world.typeOf spec value) with
      | some fault => (.error fault, world)
      | none => (.ok (.machine world.machines.length), (world.addMachine ⟨state, some (value, context)⟩).2) := by
  simp only [invoke, Arguments.isEmpty, List.isEmpty_nil, Bool.and_self, if_true, Typed.create]
  cases Typed.misplaced? spec state value (world.typeOf spec value) <;> rfl

theorem class_named (spec : Spec) (conduct : Conduct γ) (world : TypedWorld γ) (owner : Text)
    (bindings : List (Text × Bound Value)) (target : Text) (next : Value) (context : Nat)
    (seen : Typed.misread? owner (bindings.map (·.1)) (spec.name ++ target) = none)
    (stands : (Callee.machineClass target).standing spec = .machineClass target) :
    callNamed spec conduct world owner bindings (.machineClass target) next context {} =
      match Typed.misplaced? spec target next (world.typeOf spec next) with
      | some fault => (.error fault, world)
      | none => (.ok (.machine world.machines.length), (world.addMachine ⟨target, some (next, context)⟩).2) := by
  simp only [callNamed, Callee.name, seen, stands]
  exact class_invoked spec conduct world target next context

section Agreement

variable {spec : Spec} {world : TypedWorld γ} (conduct : Conduct γ) (call : LiveCall spec world)

theorem failed_call (reaches : ∃ owner method, Reaches spec call.source call.transition owner method) (fault : Fault)
    (left : γ) (failed : Failed conduct call fault left) :
    world.call spec conduct call.id call.transition.trigger call.arguments =
      (.error fault, world.setContext call.context left) := by
  obtain ⟨_, _, _, classes⟩ := reaches
  have same := set_context_same world call.context call.contents call.kept
  cases failed with
  | unbound missing => rw [call_unbound conduct call missing, same]
  | hidden bindings _ bound taken => rw [call_bound conduct call bindings bound, perform_hidden _ _ _ _ taken, same]
  | raised bindings _ _ ran =>
      rw [call_bound conduct call bindings (ran_bound conduct call bindings _ left ran)]
      exact perform_error spec conduct world _ _ _ _ _ _ _ _ (ran_named conduct call bindings _ left ran)
  | unmade bindings target _ _ prepared =>
      rw [call_bound conduct call bindings (prepared_bound conduct call bindings target _ left prepared)]
      exact prepared_unmade conduct call bindings target fault left prepared
  | classHidden bindings target next _ _ prepared taken =>
      rw [call_bound conduct call bindings (prepared_bound conduct call bindings target _ left prepared)]
      apply prepared_error conduct call bindings target next left prepared
      have found : Typed.misread? (call.source.className spec) (bindings.map (·.1)) (spec.name ++ target) = some fault :=
        taken
      simp only [callNamed, Callee.name, found]
  | misplaced bindings target next _ _ prepared seen foreign =>
      have strange : Typed.misplaced? spec target next (typeOf spec (world.setContext call.context left) next) =
          some fault := foreign
      rw [call_bound conduct call bindings (prepared_bound conduct call bindings target _ left prepared)]
      apply prepared_error conduct call bindings target next left prepared
      rw [class_named spec conduct _ _ bindings target next _ seen (classes target prepared.leads), strange]

theorem called_call (reaches : ∃ owner method, Reaches spec call.source call.transition owner method)
    (outcome : Except Fault Value) (after : TypedWorld γ) (called : Called conduct call outcome after) :
    world.call spec conduct call.id call.transition.trigger call.arguments = (outcome, after) := by
  cases called with
  | failed fault left failed => exact failed_call conduct call reaches fault left failed
  | returned bindings result left ran stays =>
      rw [call_bound conduct call bindings (ran_bound conduct call bindings _ left ran),
        perform_ok spec conduct world _ _ _ _ _ _ _ _ (ran_named conduct call bindings _ left ran)]
      simp only [follow, stays]
  | moved bindings target next left prepared seen fits =>
      obtain ⟨_, _, _, classes⟩ := reaches
      have own : Typed.misplaced? spec target next (typeOf spec (world.setContext call.context left) next) = none :=
        fits
      rw [call_bound conduct call bindings (prepared_bound conduct call bindings target _ left prepared)]
      apply prepared_ok conduct call bindings target next left prepared
      rw [class_named spec conduct _ _ bindings target next _ seen (classes target prepared.leads), own]
      rfl

theorem prepared_ends (bindings : List (Text × Bound Value)) (target : Text) (outcome : Except Fault Value) (left : γ)
    (prepared : Prepared conduct call bindings target outcome left) :
    ∃ outcome after, Called conduct call outcome after := by
  cases outcome with
  | error fault => exact ⟨_, _, .failed fault left (.unmade bindings target fault left prepared)⟩
  | ok next =>
      cases seen : call.misread? bindings (.machineClass target) with
      | some fault => exact ⟨_, _, .failed fault left (.classHidden bindings target next fault left prepared seen)⟩
      | none =>
          cases fits : Typed.misplaced? spec target next (world.typeOf spec next) with
          | none => exact ⟨_, _, .moved bindings target next left prepared seen fits⟩
          | some fault =>
              exact ⟨_, _, .failed fault left (.misplaced bindings target next fault left prepared seen fits)⟩

-- Every call ends by one of the rules.
theorem call_ends (reaches : ∃ owner method, Reaches spec call.source call.transition owner method) :
    ∃ outcome after, Called conduct call outcome after := by
  obtain ⟨owner, method, stands, _⟩ := reaches
  cases bound : (call.formals conduct).bind call.arguments with
  | none => exact ⟨_, _, .failed .mismatch call.contents (.unbound bound)⟩
  | some bindings =>
      cases seen : call.misread? bindings call.body with
      | some fault => exact ⟨_, _, .failed fault call.contents (.hidden bindings fault bound seen)⟩
      | none =>
          obtain ⟨outcome, left, gives⟩ := gives_total
            (conduct.body owner method call.value call.context ((call.formals conduct).forward bindings)) call.contents
          have ran : Ran conduct call bindings outcome left := .run owner method bound seen stands gives
          cases outcome with
          | error fault => exact ⟨_, _, .failed fault left (.raised bindings fault left ran)⟩
          | ok result =>
              cases leads : target? call.transition with
              | none => exact ⟨_, _, .returned bindings result left ran leads⟩
              | some target =>
                  have prepared : Prepared conduct call bindings target
                      (Typed.nextValue conduct (call.source.className spec) bindings target result) left :=
                    ⟨leads, result, ran, rfl⟩
                  exact prepared_ends conduct call bindings target _ left prepared

theorem call_eq_iff (reaches : ∃ owner method, Reaches spec call.source call.transition owner method)
    (outcome : Except Fault Value) (after : TypedWorld γ) :
    world.call spec conduct call.id call.transition.trigger call.arguments = (outcome, after) ↔
      Called conduct call outcome after := by
  constructor
  · intro ended
    obtain ⟨result, left, called⟩ := call_ends conduct call reaches
    obtain ⟨rfl, rfl⟩ := Prod.mk.inj (ended.symm.trans (called_call conduct call reaches result left called))
    exact called
  · exact called_call conduct call reaches outcome after

end Agreement

end Statewright.Machine
