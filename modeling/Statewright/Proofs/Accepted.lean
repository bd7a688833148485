import Statewright.Emission.EventDriven
import Statewright.Proofs.Names
import Statewright.Validation.Verdict

/-!
What the verdict on a specification establishes: states, pairs of state and trigger, and methods of a trait have names
of their own, the table can be built and resolves every pair, and a machine that is not asynchronous has no
asynchronous method.
-/
set_option autoImplicit false

namespace Statewright

open Validation

-- The pair of state and trigger that a transition is declared for.
def pairOf (owned : Text × Transition) : Text × Text := (owned.1, owned.2.trigger)

def checkKind (spec : Spec) : Check Unit :=
  match spec.kind with
  | .deterministic => checkDeterministic spec
  | .eventDriven => checkEventDriven spec

theorem validate_eq_ok (spec : Spec) :
    spec.validate = .ok () ↔ checkNames spec = .ok () ∧ checkKind spec = .ok () ∧ checkTraits spec = .ok () ∧
      checkFragments spec = .ok () := by
  have joined : spec.validate = (do checkNames spec; checkKind spec; checkTraits spec; checkFragments spec) := by
    unfold Spec.validate checkKind
    cases spec.kind <;> rfl
  rw [joined, then_eq_ok, then_eq_ok, then_eq_ok]

theorem names_of_valid (spec : Spec) (valid : spec.validate = .ok ()) : NamesAccepted spec :=
  (names_eq_ok spec).mp ((validate_eq_ok spec).mp valid).1

/-! Pairs. -/

theorem repeated_none_iff (seen : List (Text × Text)) (owned : List (Text × Transition)) :
    Spec.repeatedPair? seen owned = none ↔
      (∀ item ∈ owned, pairOf item ∉ seen) ∧ (owned.map pairOf).Nodup := by
  induction owned generalizing seen with
  | nil => simp [Spec.repeatedPair?]
  | cons item rest ih =>
      obtain ⟨state, transition⟩ := item
      by_cases repeated : (state, transition.trigger) ∈ seen
      · simp [Spec.repeatedPair?, repeated, pairOf]
      · rw [Spec.repeatedPair?, if_neg (by simpa using repeated), ih, List.forall_mem_cons, List.map_cons,
          List.nodup_cons]
        simp only [List.mem_cons, not_or, List.mem_map, not_exists, not_and]
        constructor
        · rintro ⟨fresh, nodup⟩
          exact ⟨⟨repeated, fun other member => (fresh other member).2⟩,
            fun other member same => (fresh other member).1 same, nodup⟩
        · rintro ⟨⟨_, fresh⟩, apart, nodup⟩
          exact ⟨fun other member => ⟨apart other member, fresh other member⟩, nodup⟩

/-! Methods and reactions. -/

structure MethodAccepted (spec : Spec) (state : State) (transition : Transition) : Prop where
  named : Code.isName transition.trigger = true
  unreserved : isReservedMethod transition.trigger = false
  destination : checkDestination spec transition (state.name ++ '.' :: transition.trigger) = .ok ()
  params : checkMethodParams transition (state.name ++ '.' :: transition.trigger) = .ok ()

theorem methods_eq_ok (spec : Spec) (state : State) (transitions : List Transition) :
    checkMethods spec state [] transitions = .ok () ↔
      (transitions.map (·.trigger)).Nodup ∧ ∀ transition ∈ transitions, MethodAccepted spec state transition := by
  refine walk_eq_ok (checkMethods spec state) (·.trigger) (MethodAccepted spec state) (fun _ => rfl) ?_ transitions
  intro seen transition rest
  simp only [checkMethods, then_eq_ok, ensure_eq_ok, Bool.not_eq_true', List.contains_eq_mem, decide_eq_false_iff_not]
  constructor
  · rintro ⟨named, fresh, unreserved, destination, params, remaining⟩
    exact ⟨fresh, ⟨named, unreserved, destination, params⟩, remaining⟩
  · rintro ⟨fresh, ⟨named, unreserved, destination, params⟩, remaining⟩
    exact ⟨named, fresh, unreserved, destination, params, remaining⟩

theorem deterministic_kind_eq_ok (spec : Spec) (kind : spec.kind = .deterministic) :
    checkKind spec = .ok () ↔ ∀ state ∈ spec.states,
      (state.transitions.map (·.trigger)).Nodup ∧ ∀ transition ∈ state.transitions, MethodAccepted spec state transition := by
  simp only [checkKind, kind, checkDeterministic, forM_eq_ok, methods_eq_ok]

structure ReactionAccepted (spec : Spec) (owned : Text × Transition) : Prop where
  reference : checkReference spec owned.2 = .ok ()
  target : checkTarget spec owned.2 (pairElement owned.1 owned.2.trigger) = .ok ()

theorem reactions_eq_ok (spec : Spec) (owned : List (Text × Transition)) :
    checkReactions spec [] owned = .ok () ↔
      (owned.map pairOf).Nodup ∧ ∀ item ∈ owned, ReactionAccepted spec item := by
  refine walk_eq_ok (checkReactions spec) pairOf (ReactionAccepted spec) (fun _ => rfl) ?_ owned
  rintro seen ⟨state, transition⟩ rest
  simp only [checkReactions, then_eq_ok, ensure_eq_ok, Bool.not_eq_true', List.contains_eq_mem,
    decide_eq_false_iff_not]
  constructor
  · rintro ⟨reference, fresh, target, remaining⟩
    exact ⟨fresh, ⟨reference, target⟩, remaining⟩
  · rintro ⟨fresh, ⟨reference, target⟩, remaining⟩
    exact ⟨reference, fresh, target, remaining⟩

-- An event-driven machine has at least one event and at most one catch-all.
theorem event_driven_kind_eq_ok (spec : Spec) (kind : spec.kind = .eventDriven) :
    checkKind spec = .ok () ↔
      ((spec.ownedTransitions.map pairOf).Nodup ∧ ∀ item ∈ spec.ownedTransitions, ReactionAccepted spec item) ∧
        (∀ event ∈ spec.declaredEvents, eventClashes spec event.name = false) ∧
        spec.catchAlls.length ≤ 1 ∧ spec.events ≠ [] := by
  simp only [checkKind, kind, checkEventDriven, then_eq_ok, reactions_eq_ok, forM_eq_ok, ensure_eq_ok,
    Bool.not_eq_true']
  refine and_congr_right fun _ => and_congr_right fun _ => ?_
  rcases spec.catchAlls with _ | ⟨first, _ | ⟨second, more⟩⟩
  · simp [ensure_eq_ok]
  · simp [ensure_eq_ok]
  · simp [violate_ne_ok]

theorem pairs_distinct (spec : Spec) (valid : spec.validate = .ok ()) :
    (spec.ownedTransitions.map pairOf).Nodup := by
  obtain ⟨names, kinds, _, _⟩ := (validate_eq_ok spec).mp valid
  cases kind : spec.kind with
  | eventDriven =>
      exact ((event_driven_kind_eq_ok spec kind).mp kinds).1.1
  | deterministic =>
      have accepted := (deterministic_kind_eq_ok spec kind).mp kinds
      have grouped : spec.ownedTransitions.map pairOf =
          spec.states.flatMap fun state =>
            state.transitions.map fun transition => (state.name, transition.trigger) := by
        simp [Spec.ownedTransitions, List.map_flatMap, pairOf, Function.comp_def]
      rw [grouped, List.nodup_flatMap]
      constructor
      · intro state member
        have triggers := (accepted state member).1
        have paired : ((state.transitions.map (·.trigger)).map fun trigger => (state.name, trigger)).Nodup :=
          triggers.map fun first second same => congrArg Prod.snd same
        simpa [Function.comp_def] using paired
      · refine List.Pairwise.imp ?_ (List.pairwise_map.mp (state_names_distinct spec names))
        intro first second different pair inFirst inSecond
        obtain ⟨_, _, rfl⟩ := List.mem_map.mp inFirst
        obtain ⟨_, _, same⟩ := List.mem_map.mp inSecond
        exact different (congrArg Prod.fst same).symm

theorem state_found (spec : Spec) (name : Text) (state : State) (found : spec.state? name = some state) :
    state ∈ spec.states ∧ state.name = name :=
  ⟨List.mem_of_find?_eq_some found, by simpa using List.find?_some found⟩

theorem destination_declared (spec : Spec) (transition : Transition) (element target : Text)
    (accepted : checkDestination spec transition element = .ok ()) (leads : transition.target = some target) :
    target ∈ spec.states.map (·.name) := by
  unfold checkDestination at accepted
  rw [leads] at accepted
  cases found : spec.state? target with
  | none => simp [found, violate] at accepted
  | some state =>
      obtain ⟨declared, rfl⟩ := state_found spec target state found
      exact List.mem_map_of_mem declared

-- A method of a deterministic machine leads to a declared state.
theorem deterministic_targets_declared (spec : Spec) (valid : spec.validate = .ok ())
    (kind : spec.kind = .deterministic) (state : State) (declared : state ∈ spec.states) (transition : Transition)
    (member : transition ∈ state.transitions) (target : Text) (leads : transition.target = some target) :
    target ∈ spec.states.map (·.name) := by
  obtain ⟨_, kinds, _, _⟩ := (validate_eq_ok spec).mp valid
  have accepted := ((deterministic_kind_eq_ok spec kind).mp kinds state declared).2 transition member
  exact destination_declared spec transition _ target accepted.destination leads

-- A method of a deterministic machine never begins with an underscore.
theorem deterministic_triggers_open (spec : Spec) (valid : spec.validate = .ok ()) (kind : spec.kind = .deterministic)
    (owned : Text × Transition) (member : owned ∈ spec.ownedTransitions) : owned.2.trigger.head? ≠ some '_' := by
  obtain ⟨_, kinds, _, _⟩ := (validate_eq_ok spec).mp valid
  obtain ⟨state, declared, inState⟩ := List.mem_flatMap.mp member
  obtain ⟨transition, found, rfl⟩ := List.mem_map.mp inState
  have accepted := ((deterministic_kind_eq_ok spec kind).mp kinds state declared).2 transition found
  have unreserved := accepted.unreserved
  simp only [isReservedMethod, Bool.or_eq_false_iff] at unreserved
  simpa using unreserved.2

end Statewright
