import Statewright.Machine.Typestate
import Statewright.Proofs.Accepted

/-!
What the names stand for that a method of a deterministic machine calls. Each name finds a definition of that name. As
long as no body is named like a machine class, the name of a machine class finds that class, and the name of a body
finds a body.
-/
set_option autoImplicit false

namespace Statewright.Machine

open Emission.Deterministic (bodyName target?)

namespace Callee

-- No body has the name of a machine class.
def Apart (spec : Spec) : Prop :=
  ∀ state ∈ spec.states, ∀ transition ∈ state.transitions, ∀ other ∈ spec.states,
    bodyName state.name transition.trigger ≠ spec.name ++ other.name

instance (spec : Spec) : Decidable (Apart spec) :=
  inferInstanceAs (Decidable (∀ state ∈ spec.states, ∀ transition ∈ state.transitions, ∀ other ∈ spec.states,
    bodyName state.name transition.trigger ≠ spec.name ++ other.name))

theorem mem_all (spec : Spec) (callee : Callee) :
    callee ∈ all spec ↔ ∃ state ∈ spec.states, callee = .machineClass state.name ∨
      ∃ transition ∈ state.transitions, callee = .body state.name transition.trigger := by
  simp only [all, ofState, List.mem_flatMap, List.mem_append, List.mem_map, List.mem_singleton]
  constructor
  · rintro ⟨state, declared, ⟨transition, member, rfl⟩ | rfl⟩
    · exact ⟨state, declared, .inr ⟨transition, member, rfl⟩⟩
    · exact ⟨state, declared, .inl rfl⟩
  · rintro ⟨state, declared, rfl | ⟨transition, member, rfl⟩⟩
    · exact ⟨state, declared, .inr rfl⟩
    · exact ⟨state, declared, .inl ⟨transition, member, rfl⟩⟩

theorem standing_found (spec : Spec) (callee : Callee) (defined : callee ∈ all spec) :
    callee.standing spec ∈ all spec ∧ (callee.standing spec).name spec = callee.name spec := by
  unfold standing
  cases found : (all spec).reverse.find? fun other => other.name spec == callee.name spec with
  | none => exact ⟨defined, rfl⟩
  | some other =>
      have named := List.find?_some found
      exact ⟨List.mem_reverse.mp (List.mem_of_find?_eq_some found), beq_iff_eq.mp named⟩

-- Where no two definitions have one name, each stands under its own.
theorem stands_own (spec : Spec) (distinct : ((all spec).map (·.name spec)).Nodup) (callee : Callee)
    (defined : callee ∈ all spec) : callee.standing spec = callee := by
  obtain ⟨found, named⟩ := standing_found spec callee defined
  exact List.inj_on_of_nodup_map distinct found defined named

theorem class_stands (spec : Spec) (apart : Apart spec) (state : Text) (declared : state ∈ spec.states.map (·.name)) :
    (machineClass state).standing spec = machineClass state := by
  obtain ⟨own, listed, rfl⟩ := List.mem_map.mp declared
  obtain ⟨defined, named⟩ := standing_found spec (machineClass own.name) ((mem_all spec _).mpr ⟨own, listed, .inl rfl⟩)
  obtain ⟨other, stated, same | ⟨transition, member, same⟩⟩ := (mem_all spec _).mp defined
  · rw [same] at named ⊢
    rw [List.append_cancel_left named]
  · rw [same] at named
    exact absurd named (apart other stated transition member own listed)

theorem body_stands (spec : Spec) (apart : Apart spec) (state : State) (declared : state ∈ spec.states)
    (transition : Transition) (member : transition ∈ state.transitions) :
    ∃ owner method, (body state.name transition.trigger).standing spec = body owner method := by
  obtain ⟨defined, named⟩ := standing_found spec (body state.name transition.trigger)
    ((mem_all spec _).mpr ⟨state, declared, .inr ⟨transition, member, rfl⟩⟩)
  obtain ⟨other, stated, same | ⟨found, _, same⟩⟩ := (mem_all spec _).mp defined
  · rw [same] at named
    exact absurd named.symm (apart state declared transition member other stated)
  · exact ⟨other.name, found.trigger, same⟩

end Callee

theorem target_eq_some (transition : Transition) (target : Text) (leads : target? transition = some target) :
    transition.target = some target := by
  unfold target? at leads
  split at leads
  · cases leads
  · exact leads

-- The method that a machine offers by a name is declared in the machine's state.
theorem offered_declared (spec : Spec) (machine : Typed) (method : Text) (transition : Transition)
    (offered : machine.transition? spec method = some transition) :
    transition.trigger = method ∧
      ∃ state ∈ spec.states, state.name = machine.state ∧ transition ∈ state.transitions := by
  obtain ⟨state, found, inState⟩ := Option.bind_eq_some_iff.mp offered
  obtain ⟨declared, named⟩ := state_found spec machine.state state found
  have triggered : transition.trigger = method := by simpa using List.find?_some inState
  exact ⟨triggered, state, declared, named, List.mem_of_find?_eq_some inState⟩

-- It does not matter in which order the parameters are.
theorem misread_perm (owner : Text) (params others : List Text) (same : params.Perm others) (name : Text) :
    Typed.misread? owner params name = Typed.misread? owner others name := by
  have taken : ((params ++ ["self", "target"].map Text.fixed).map (nameWithin owner)).contains (nameWithin owner name) =
      ((others ++ ["self", "target"].map Text.fixed).map (nameWithin owner)).contains (nameWithin owner name) :=
    ((same.append_right _).map _).contains_eq
  rw [Typed.misread?, taken]
  rfl

-- A method of a machine calls, by the names it writes, a body and the machine class of its target.
structure Reaches (spec : Spec) (machine : Typed) (transition : Transition) (owner method : Text) : Prop where
  body : (Callee.body machine.state transition.trigger).standing spec = .body owner method
  target : ∀ target, target? transition = some target →
    (Callee.machineClass target).standing spec = .machineClass target

theorem offered_reaches_own (spec : Spec) (valid : spec.validate = .ok ()) (kind : spec.kind = .deterministic)
    (distinct : ((Callee.all spec).map (·.name spec)).Nodup) (machine : Typed) (method : Text) (transition : Transition)
    (offered : machine.transition? spec method = some transition) :
    Reaches spec machine transition machine.state transition.trigger := by
  obtain ⟨_, state, declared, named, member⟩ := offered_declared spec machine method transition offered
  constructor
  · have defined := (Callee.mem_all spec _).mpr ⟨state, declared, .inr ⟨transition, member, rfl⟩⟩
    rw [← named]
    exact Callee.stands_own spec distinct _ defined
  · intro target leads
    have known := deterministic_targets_declared spec valid kind state declared transition member target
      (target_eq_some transition target leads)
    obtain ⟨other, listed, rfl⟩ := List.mem_map.mp known
    exact Callee.stands_own spec distinct _ ((Callee.mem_all spec _).mpr ⟨other, listed, .inl rfl⟩)

theorem offered_reaches (spec : Spec) (valid : spec.validate = .ok ()) (kind : spec.kind = .deterministic)
    (apart : Callee.Apart spec) (machine : Typed) (method : Text) (transition : Transition)
    (offered : machine.transition? spec method = some transition) :
    ∃ owner name, Reaches spec machine transition owner name := by
  obtain ⟨_, state, declared, named, member⟩ := offered_declared spec machine method transition offered
  obtain ⟨owner, name, stands⟩ := Callee.body_stands spec apart state declared transition member
  rw [named] at stands
  refine ⟨owner, name, stands, ?_⟩
  intro target leads
  have known := deterministic_targets_declared spec valid kind state declared transition member target
    (target_eq_some transition target leads)
  exact Callee.class_stands spec apart target known

end Statewright.Machine
