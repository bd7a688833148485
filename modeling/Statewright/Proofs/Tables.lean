import Statewright.Proofs.Accepted

/-!
Tables of accepted specifications. The events of a machine are what its transitions refer to and what it declares; a
table has one entry for each state and event, and a transition stands in the entry of its own pair.
-/
set_option autoImplicit false

namespace Statewright

theorem mem_names_firstsBy {α : Type} (name : α → Text) (seen : List Text) (items : List α) (key : Text) :
    key ∈ (firstsBy name seen items).map name ↔ key ∈ items.map name ∧ key ∉ seen := by
  induction items generalizing seen with
  | nil => simp [firstsBy]
  | cons item rest ih =>
      by_cases known : name item ∈ seen
      · rw [firstsBy, if_pos (by simpa using known), ih, List.map_cons, List.mem_cons]
        constructor
        · rintro ⟨later, fresh⟩
          exact ⟨.inr later, fresh⟩
        · rintro ⟨same | later, fresh⟩
          · exact absurd (same ▸ known) fresh
          · exact ⟨later, fresh⟩
      · rw [firstsBy, if_neg (by simpa using known), List.map_cons, List.mem_cons, ih, List.map_cons, List.mem_cons]
        by_cases same : key = name item <;> simp [same, known]

theorem mem_event_names (spec : Spec) (name : Text) :
    name ∈ spec.events.map (·.name) ↔
      (∃ transition ∈ spec.transitions, transition.trigger = name) ∨
        ∃ event ∈ spec.declaredEvents, event.name = name := by
  have referred : ∀ transition, (spec.referred transition).name = transition.trigger := by
    intro transition
    unfold Spec.referred Spec.declared?
    cases found : spec.declaredEvents.find? (·.name == transition.trigger) with
    | none => rfl
    | some event => simpa using List.find?_some found
  rw [Spec.events, mem_names_firstsBy]
  simp [List.mem_map, referred]

theorem owned_transition (spec : Spec) (state : State) (declared : state ∈ spec.states) (transition : Transition)
    (member : transition ∈ state.transitions) : (state.name, transition) ∈ spec.ownedTransitions :=
  List.mem_flatMap.mpr ⟨state, declared, List.mem_map_of_mem member⟩

theorem trigger_is_event (spec : Spec) (owned : Text × Transition) (member : owned ∈ spec.ownedTransitions) :
    owned.2.trigger ∈ spec.events.map (·.name) := by
  obtain ⟨state, declared, inState⟩ := List.mem_flatMap.mp member
  obtain ⟨transition, found, rfl⟩ := List.mem_map.mp inState
  exact (mem_event_names spec _).mpr (.inl ⟨transition, List.mem_flatMap.mpr ⟨state, declared, found⟩, rfl⟩)

theorem owner_is_state (spec : Spec) (owned : Text × Transition) (member : owned ∈ spec.ownedTransitions) :
    owned.1 ∈ spec.states.map (·.name) := by
  obtain ⟨state, declared, inState⟩ := List.mem_flatMap.mp member
  obtain ⟨transition, found, rfl⟩ := List.mem_map.mp inState
  exact List.mem_map_of_mem declared

-- Where the pairs are distinct, a transition resolves its own pair.
theorem resolution_owned (spec : Spec) (distinct : (spec.ownedTransitions.map pairOf).Nodup)
    (state : Text) (transition : Transition) (member : (state, transition) ∈ spec.ownedTransitions) :
    spec.resolution state transition.trigger = .explicit transition := by
  unfold Spec.resolution
  split
  · rename_i owner other found
    have matched := List.find?_some found
    simp only [Bool.and_eq_true, beq_iff_eq] at matched
    have same : pairOf (owner, other) = pairOf (state, transition) := Prod.ext matched.1 matched.2
    have equal := List.inj_on_of_nodup_map distinct (List.mem_of_find?_eq_some found) member same
    rw [(Prod.mk.inj equal).2]
  · rename_i missing
    simpa using List.find?_eq_none.mp missing _ member

-- The entries that a table is looked up for are those of a pair's own resolution.
theorem lookup_told (spec : Spec) (table : Table) (built : spec.table = .ok table) (state event : Text) (entry : Entry)
    (found : table.lookup? state event = some entry) : entry = ⟨state, event, spec.resolution state event⟩ := by
  unfold Spec.table at built
  split at built
  · cases built
  · split at built
    · cases built
    · cases built
      have matched := List.find?_some found
      simp only [Bool.and_eq_true, beq_iff_eq] at matched
      obtain ⟨row, _, inRow⟩ := List.mem_flatMap.mp (List.mem_of_find?_eq_some found)
      obtain ⟨column, _, rfl⟩ := List.mem_map.mp inRow
      rw [← matched.1, ← matched.2]

theorem lookup_resolution (spec : Spec) (table : Table) (built : spec.table = .ok table) (state event : Text)
    (stated : state ∈ spec.states.map (·.name)) (known : event ∈ spec.events.map (·.name)) :
    table.lookup? state event = some ⟨state, event, spec.resolution state event⟩ := by
  have told := lookup_told spec table built state event
  unfold Spec.table at built
  split at built
  · cases built
  · split at built
    · cases built
    · cases built
      have listed : state ∈ firstsBy id [] (spec.states.map (·.name)) := by
        simpa using (mem_names_firstsBy id [] (spec.states.map (·.name)) state).mpr ⟨by simpa using stated, by simp⟩
      have entry : (⟨state, event, spec.resolution state event⟩ : Entry) ∈
          (firstsBy id [] (spec.states.map (·.name))).flatMap fun state =>
            (spec.events.map (·.name)).map fun event => ⟨state, event, spec.resolution state event⟩ :=
        List.mem_flatMap.mpr ⟨state, listed, List.mem_map.mpr ⟨event, known, rfl⟩⟩
      cases found : Table.lookup? _ state event with
      | none => simpa using List.find?_eq_none.mp found _ entry
      | some other => rw [told other found]

open Emission.EventDriven (Parts)

-- The parts of a module whose specification was found valid.
structure ValidParts (parts : Parts) : Prop where
  accepted : parts.spec.validate = .ok ()
  kind : parts.spec.kind = .eventDriven
  stateEnum : parts.spec.stateEnum = some parts.stateEnum
  eventEnum : parts.spec.eventEnum = some parts.eventEnum
  table : parts.spec.table = .ok parts.table

theorem table_built (spec : Spec) (valid : spec.validate = .ok ()) (kind : spec.kind = .eventDriven) :
    ∃ table, spec.table = .ok table := by
  have distinct := pairs_distinct spec valid
  have unrepeated := (repeated_none_iff [] spec.ownedTransitions).mpr ⟨by simp, distinct⟩
  exact ⟨_, by simp only [Spec.table, Spec.isEventDriven, kind, unrepeated]; rfl⟩

-- The parts of a specification with two enumerations; only a valid one is sure to have a table.
def partsOf (spec : Spec) (stateEnum eventEnum : Enumeration) : Parts :=
  ⟨spec, stateEnum, eventEnum, spec.table.toOption.getD ⟨[], [], []⟩⟩

theorem parts_of_valid (spec : Spec) (valid : spec.validate = .ok ()) (kind : spec.kind = .eventDriven)
    (stateEnum eventEnum : Enumeration) (states : spec.stateEnum = some stateEnum)
    (events : spec.eventEnum = some eventEnum) : ValidParts (partsOf spec stateEnum eventEnum) := by
  obtain ⟨table, built⟩ := table_built spec valid kind
  have same : (partsOf spec stateEnum eventEnum).table = table := by
    simp only [partsOf, built]
    rfl
  exact ⟨valid, kind, states, events, by rw [same]; exact built⟩

-- Every valid event-driven specification has the parts of a module.
theorem valid_parts_exist (spec : Spec) (valid : spec.validate = .ok ()) (kind : spec.kind = .eventDriven) :
    ∃ parts : Parts, parts.spec = spec ∧ ValidParts parts := by
  have enumerated := (names_of_valid spec valid).enumerated kind
  obtain ⟨stateEnum, states⟩ := Option.isSome_iff_exists.mp enumerated.1
  obtain ⟨eventEnum, events⟩ := Option.isSome_iff_exists.mp enumerated.2
  exact ⟨partsOf spec stateEnum eventEnum, rfl, parts_of_valid spec valid kind stateEnum eventEnum states events⟩

theorem valid_parts_lookup (parts : Parts) (valid : ValidParts parts) (state event : Text)
    (stated : state ∈ parts.spec.states.map (·.name)) (known : event ∈ parts.spec.events.map (·.name)) :
    parts.table.lookup? state event = some ⟨state, event, parts.spec.resolution state event⟩ :=
  lookup_resolution parts.spec parts.table valid.table state event stated known

theorem valid_parts_told (parts : Parts) (valid : ValidParts parts) (state event : Text) (entry : Entry)
    (found : parts.table.lookup? state event = some entry) :
    entry = ⟨state, event, parts.spec.resolution state event⟩ :=
  lookup_told parts.spec parts.table valid.table state event entry found

end Statewright
