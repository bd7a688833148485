import Statewright.Proofs.Ownership

/-!
Runs of many machines. Machines are made, called, read and taken apart in any order, and their contexts change
meanwhile. Each machine is of a declared state, and a live one holds a value of its state.
-/
set_option autoImplicit false

namespace Statewright.Machine

open Emission.Deterministic (target?)
open TypedWorld

variable {γ : Type}

inductive Deed (γ : Type) where
  | make (value : Value) (contents : γ)
  | ask (id : Nat) (request : Request)
  -- Whoever else knows a context may change it.
  | change (context : Nat) (contents : γ)

def perform_ (spec : Spec) (conduct : Conduct γ) (world : TypedWorld γ) : Deed γ → TypedWorld γ
  | .make value contents => (start spec conduct world none value contents).2
  | .ask id request => (serve spec conduct world id request).2
  | .change context contents => world.setContext context contents

def performed (spec : Spec) (conduct : Conduct γ) (deeds : List (Deed γ)) : TypedWorld γ :=
  deeds.foldl (perform_ spec conduct) {}

-- Each machine is of a declared state, and a live one holds a value of that state and a context that there is.
structure WellTyped (spec : Spec) (world : TypedWorld γ) : Prop where
  declared : ∀ (id : Nat) (machine : Typed), world.machines[id]? = some machine →
    machine.state ∈ spec.states.map (·.name)
  holds : ∀ (id : Nat) (machine : Typed) (value : Value) (context : Nat), world.machines[id]? = some machine →
    machine.held = some (value, context) → value.isOf machine.state = true ∧ context < world.contexts.length

theorem distinct_apart (spec : Spec) (distinct : ((Callee.all spec).map (·.name spec)).Nodup) :
    Callee.Apart spec := by
  intro state declared transition member other listed same
  have body := (Callee.mem_all spec _).mpr ⟨state, declared, .inr ⟨transition, member, rfl⟩⟩
  have machine := (Callee.mem_all spec _).mpr ⟨other, listed, .inl rfl⟩
  cases List.inj_on_of_nodup_map distinct body machine same

theorem is_of_declared (spec : Spec) (value : Value) (state : Text) (declared : state ∈ spec.states.map (·.name))
    (asks : spec.hides "type" = false) (fits : value.isOf state = true) (actual : Text) :
    Typed.stateFor spec value actual = .ok state := by
  obtain ⟨own, listed, rfl⟩ := List.mem_map.mp declared
  cases value with
  | object type fields =>
      obtain rfl : type = own.name := beq_iff_eq.mp fits
      have found : (spec.state? own.name).isSome = true := by
        rw [Spec.state?, List.find?_isSome]
        exact ⟨own, listed, beq_self_eq_true own.name⟩
      simp only [Typed.stateFor, asks, found]
      rfl
  | _ => cases fits

theorem is_of_nothing (spec : Spec) (value : Value) (asks : spec.hides "type" = false)
    (foreign : ∀ state ∈ spec.states, value.isOf state.name = false) (actual : Text) :
    Typed.stateFor spec value actual = .error (.foreignState actual spec.name) := by
  cases value with
  | object type fields =>
      have missing : (spec.state? type).isSome = false := by
        rw [Bool.eq_false_iff]
        intro present
        obtain ⟨state, found⟩ := Option.isSome_iff_exists.mp present
        obtain ⟨listed, named⟩ := state_found spec type state found
        have other := foreign state listed
        rw [named] at other
        simp [Value.isOf] at other
      simp only [Typed.stateFor, asks, missing]
      rfl
  | _ =>
      simp only [Typed.stateFor, asks]
      rfl

-- A machine is made for a value of a declared state, around that value and a new context.
theorem start_fits (spec : Spec) (apart : Callee.Apart spec) (conduct : Conduct γ) (world : TypedWorld γ)
    (value : Value) (contents : γ) (state : Text) (declared : state ∈ spec.states.map (·.name))
    (asks : spec.hides "type" = false) (tells : spec.hides "isinstance" = false) (fits : value.isOf state = true) :
    start spec conduct world none value contents = (.ok (.machine world.machines.length),
      ⟨world.machines ++ [⟨state, some (value, world.contexts.length)⟩], world.contexts ++ [contents]⟩) := by
  have chosen := is_of_declared spec value state declared asks fits (typeOf spec world value)
  have placed : Typed.misplaced? spec state value (typeOf spec (world.addContext contents).2 value) = none :=
    (misplaced_none_iff spec state value _).mpr ⟨tells, fits⟩
  simp only [start, chosen, Callee.class_stands spec apart state declared, class_invoked, placed]
  rfl

theorem start_foreign (spec : Spec) (asks : spec.hides "type" = false) (conduct : Conduct γ) (world : TypedWorld γ)
    (value : Value) (contents : γ) (foreign : ∀ state ∈ spec.states, value.isOf state.name = false) :
    start spec conduct world none value contents =
      (.error (.foreignState (typeOf spec world value) spec.name), world) := by
  simp only [start, is_of_nothing spec value asks foreign (typeOf spec world value)]

theorem well_typed_set_context (spec : Spec) (world : TypedWorld γ) (sound : WellTyped spec world) (context : Nat)
    (contents : γ) : WellTyped spec (world.setContext context contents) where
  declared := sound.declared
  holds := by
    intro id machine value held present live
    obtain ⟨fits, kept⟩ := sound.holds id machine value held present live
    exact ⟨fits, by simpa using kept⟩

-- What is added to the machines is one that is typed well.
theorem well_typed_added (spec : Spec) (world after : TypedWorld γ) (sound : WellTyped spec world) (state : Text)
    (value : Value) (context : Nat) (declared : state ∈ spec.states.map (·.name)) (fits : value.isOf state = true)
    (machines : after.machines = world.machines ++ [⟨state, some (value, context)⟩])
    (kept : context < after.contexts.length) (grown : world.contexts.length ≤ after.contexts.length) :
    WellTyped spec after := by
  have old_or_added : ∀ (id : Nat) (machine : Typed), after.machines[id]? = some machine →
      world.machines[id]? = some machine ∨ machine = ⟨state, some (value, context)⟩ := by
    intro id machine present
    rw [machines] at present
    by_cases old : id < world.machines.length
    · rw [List.getElem?_append_left old] at present
      exact .inl present
    · rw [List.getElem?_append_right (by omega)] at present
      have last := List.mem_of_getElem? present
      exact .inr (List.mem_singleton.mp last)
  constructor
  · intro id machine present
    rcases old_or_added id machine present with old | rfl
    · exact sound.declared id machine old
    · exact declared
  · intro id machine own held present live
    rcases old_or_added id machine present with old | rfl
    · obtain ⟨holds, inside⟩ := sound.holds id machine own held old live
      exact ⟨holds, by omega⟩
    · obtain ⟨rfl, rfl⟩ := Prod.mk.inj (Option.some.inj live)
      exact ⟨fits, kept⟩

theorem well_typed_consumed (spec : Spec) (world : TypedWorld γ) (sound : WellTyped spec world) (id : Nat)
    (source : Typed) (declared : source.state ∈ spec.states.map (·.name)) :
    WellTyped spec (world.setMachine id source.consumed) := by
  constructor
  · intro other machine present
    rcases set_found world.machines id other source.consumed machine present with ⟨_, rfl⟩ | ⟨_, old⟩
    · exact declared
    · exact sound.declared other machine old
  · intro other machine value context present live
    rcases set_found world.machines id other source.consumed machine present with ⟨_, rfl⟩ | ⟨_, old⟩
    · cases live
    · exact sound.holds other machine value context old live

section Steps

variable (spec : Spec) (valid : spec.validate = .ok ()) (kind : spec.kind = .deterministic)
  (apart : Callee.Apart spec) (conduct : Conduct γ) (world : TypedWorld γ) (sound : WellTyped spec world)

include sound

theorem make_well_typed (apart : Callee.Apart spec) (value : Value) (contents : γ) :
    WellTyped spec (start spec conduct world none value contents).2 := by
  rcases start_ends spec apart conduct world value contents with ⟨fault, refused⟩ | ⟨state, declared, _, fits, made⟩
  · rw [refused]
    exact sound
  · rw [made]
    exact well_typed_added spec world _ sound state value world.contexts.length declared fits rfl (by simp) (by simp)

include valid kind in
theorem called_well_typed (call : LiveCall spec world) (outcome : Except Fault Value) (after : TypedWorld γ)
    (called : Called conduct call outcome after) : WellTyped spec after := by
  have changed := well_typed_set_context spec world sound call.context
  cases called with
  | failed fault left failed => exact changed left
  | returned bindings result left ran stays => exact changed left
  | moved bindings target next left prepared seen fits =>
      obtain ⟨_, state, listed, _, member⟩ := offered_declared spec call.source _ call.transition call.offered
      have declared := deterministic_targets_declared spec valid kind state listed call.transition member target
        (target_eq_some call.transition target prepared.leads)
      have kept := (sound.holds call.id call.source call.value call.context call.present call.live).2
      have added := well_typed_added spec (world.setContext call.context left)
        ((world.setContext call.context left).addMachine ⟨target, some (next, call.context)⟩).2 (changed left) target next
        call.context declared ((misplaced_none_iff spec target next _).mp fits).2 rfl (by simpa using kept) (by simp)
      exact well_typed_consumed spec _ added call.id call.source (sound.declared call.id call.source call.present)

include valid kind apart in
theorem ask_well_typed (id : Nat) (request : Request) :
    WellTyped spec (serve spec conduct world id request).2 := by
  cases request with
  | call method arguments =>
      have kept : ∀ source value context, world.machines[id]? = some source → source.held = some (value, context) →
          context < world.contexts.length := fun source value context present live =>
        (sound.holds id source value context present live).2
      rcases call_unserved_or_live spec conduct world id kept method arguments with same | ⟨call, rfl, rfl, rfl⟩
      · rw [serve, same]
        exact sound
      · have reaches := offered_reaches spec valid kind apart call.source _ call.transition call.offered
        obtain ⟨outcome, after, called⟩ := call_ends conduct call reaches
        rw [serve, called_call conduct call reaches outcome after called]
        exact called_well_typed spec valid kind conduct world sound call outcome after called
  | read => exact sound
  | take =>
      cases present : world.machines[id]? with
      | none =>
          simp only [serve, TypedWorld.take, present]
          exact sound
      | some source =>
          cases live : source.held with
          | none =>
              obtain ⟨fault, consumed⟩ := typed_gone spec source live
              simp only [serve, TypedWorld.take, present, consumed]
              exact sound
          | some parts =>
              obtain ⟨value, context⟩ := parts
              simp only [serve, TypedWorld.take, present, typed_alive spec source value context live]
              exact well_typed_consumed spec world sound id source (sound.declared id source present)

include valid kind apart in
theorem perform_well_typed (deed : Deed γ) : WellTyped spec (perform_ spec conduct world deed) := by
  cases deed with
  | make value contents => exact make_well_typed spec conduct world sound apart value contents
  | ask id request => exact ask_well_typed spec valid kind apart conduct world sound id request
  | change context contents => exact well_typed_set_context spec world sound context contents

end Steps

theorem performed_well_typed (spec : Spec) (valid : spec.validate = .ok ()) (kind : spec.kind = .deterministic)
    (apart : Callee.Apart spec) (conduct : Conduct γ) (deeds : List (Deed γ)) :
    WellTyped spec (performed spec conduct deeds) := by
  have general : ∀ world, WellTyped spec world → WellTyped spec (deeds.foldl (perform_ spec conduct) world) := by
    induction deeds with
    | nil => exact fun world sound => sound
    | cons deed rest ih =>
        intro world sound
        exact ih _ (perform_well_typed spec valid kind apart conduct world sound deed)
  exact general {} ⟨by simp, by simp⟩

end Statewright.Machine
