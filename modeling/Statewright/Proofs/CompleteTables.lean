import Statewright.Proofs.Tables

/-!
Tables resolve every pair. A table fails exactly at a transition whose pair an earlier one has; otherwise it has one
entry for each state and event, in the order of the document, and no transition is lost or made up.
-/
set_option autoImplicit false

namespace Statewright

/-! Order. -/

-- What is kept of a list stands in the order in which its names first occur there.
theorem firsts_in_order {α : Type} (name : α → Text) (seen : List Text) (items : List α) :
    ((firstsBy name seen items).map name).Pairwise fun first second =>
      (items.map name).idxOf first < (items.map name).idxOf second := by
  induction items generalizing seen with
  | nil => simp [firstsBy]
  | cons item rest ih =>
      have later : ∀ seen, name item ∈ seen → ((firstsBy name seen rest).map name).Pairwise fun first second =>
          ((item :: rest).map name).idxOf first < ((item :: rest).map name).idxOf second := by
        intro seen known
        refine (ih seen).imp_of_mem ?_
        intro first second inFirst inSecond before
        have apart : ∀ key ∈ (firstsBy name seen rest).map name, name item ≠ key := by
          rintro key member rfl
          exact ((mem_names_firstsBy name seen rest _).mp member).2 known
        rw [List.map_cons, List.idxOf_cons_ne _ (apart first inFirst), List.idxOf_cons_ne _ (apart second inSecond)]
        omega
      by_cases known : name item ∈ seen
      · rw [firstsBy, if_pos (by simpa using known)]
        exact later seen known
      · rw [firstsBy, if_neg (by simpa using known)]
        refine List.Pairwise.cons ?_ (later _ List.mem_cons_self)
        intro key member
        have apart : name item ≠ key := by
          rintro rfl
          exact ((mem_names_firstsBy name _ rest _).mp member).2 List.mem_cons_self
        rw [List.map_cons, List.idxOf_cons_self, List.idxOf_cons_ne _ apart]
        omega

theorem firsts_distinct {α : Type} (name : α → Text) (seen : List Text) (items : List α) :
    ((firstsBy name seen items).map name).Nodup := by
  refine (firsts_in_order name seen items).imp ?_
  rintro first second before rfl
  omega

-- Names that do not repeat are kept as they are.
theorem firsts_of_distinct (names seen : List Text) (distinct : names.Nodup) (fresh : ∀ name ∈ names, name ∉ seen) :
    firstsBy id seen names = names := by
  induction names generalizing seen with
  | nil => rfl
  | cons name rest ih =>
      obtain ⟨absent, remaining⟩ := List.nodup_cons.mp distinct
      have unseen : name ∉ seen := fresh name List.mem_cons_self
      rw [firstsBy, if_neg (by simpa using unseen), ih _ remaining]
      intro other member again
      rcases List.mem_cons.mp again with rfl | old
      · exact absent member
      · exact fresh other (List.mem_cons_of_mem _ member) old

theorem distinct_in_order (names : List Text) (distinct : names.Nodup) :
    names.Pairwise fun first second => names.idxOf first < names.idxOf second := by
  rw [List.pairwise_iff_getElem]
  intro i j early late before
  rw [distinct.idxOf_getElem i early, distinct.idxOf_getElem j late]
  exact before

namespace Spec

-- The document has a pair before another one: its state comes first, or the states are the same and its event does.
def Precedes (spec : Spec) (first second : Text × Text) : Prop :=
  let row := (spec.states.map (·.name)).idxOf
  let column := (spec.events.map (·.name)).idxOf
  row first.1 < row second.1 ∨ first.1 = second.1 ∧ column first.2 < column second.2

def rows (spec : Spec) : List Entry :=
  (firstsBy id [] (spec.states.map (·.name))).flatMap fun state =>
    (spec.events.map (·.name)).map fun event => ⟨state, event, spec.resolution state event⟩

end Spec

theorem rows_in_order (spec : Spec) :
    spec.rows.Pairwise fun first second => spec.Precedes (first.state, first.event) (second.state, second.event) := by
  have states := firsts_in_order id [] (spec.states.map (·.name))
  have events := distinct_in_order (spec.events.map (·.name)) (firsts_distinct Event.name [] _)
  rw [List.map_id, List.map_id] at states
  rw [Spec.rows, List.pairwise_flatMap]
  constructor
  · intro state _
    rw [List.pairwise_map]
    exact events.imp fun before => .inr ⟨rfl, before⟩
  · refine states.imp ?_
    intro first second before entry inFirst other inSecond
    obtain ⟨_, _, rfl⟩ := List.mem_map.mp inFirst
    obtain ⟨_, _, rfl⟩ := List.mem_map.mp inSecond
    exact .inl before

theorem mem_rows (spec : Spec) (entry : Entry) :
    entry ∈ spec.rows ↔ entry.state ∈ spec.states.map (·.name) ∧ entry.event ∈ spec.events.map (·.name) ∧
      entry.resolution = spec.resolution entry.state entry.event := by
  have listed : ∀ state, state ∈ firstsBy id [] (spec.states.map (·.name)) ↔ state ∈ spec.states.map (·.name) := by
    intro state
    simpa using mem_names_firstsBy id [] (spec.states.map (·.name)) state
  rw [Spec.rows, List.mem_flatMap]
  constructor
  · rintro ⟨state, stated, inRow⟩
    obtain ⟨event, known, rfl⟩ := List.mem_map.mp inRow
    exact ⟨(listed state).mp stated, known, rfl⟩
  · rintro ⟨stated, known, resolved⟩
    obtain ⟨state, event, resolution⟩ := entry
    refine ⟨state, (listed state).mpr stated, List.mem_map.mpr ⟨event, known, ?_⟩⟩
    rw [← resolved]

/-! Failure. -/

theorem repeated_pair_found (seen : List (Text × Text)) (owned : List (Text × Transition))
    (item : Text × Transition) (found : Spec.repeatedPair? seen owned = some item) :
    ∃ earlier later, owned = earlier ++ item :: later ∧ (earlier.map pairOf).Nodup ∧
      (∀ other ∈ earlier, pairOf other ∉ seen) ∧ (pairOf item ∈ seen ∨ pairOf item ∈ earlier.map pairOf) := by
  induction owned generalizing seen with
  | nil => cases found
  | cons first rest ih =>
      obtain ⟨state, transition⟩ := first
      by_cases again : (state, transition.trigger) ∈ seen
      · rw [Spec.repeatedPair?, if_pos (by simpa using again)] at found
        obtain rfl := Option.some.inj found
        exact ⟨[], rest, rfl, List.nodup_nil, by simp, .inl again⟩
      · rw [Spec.repeatedPair?, if_neg (by simpa using again)] at found
        obtain ⟨earlier, later, rfl, distinct, fresh, repeats⟩ := ih _ found
        refine ⟨(state, transition) :: earlier, later, rfl, ?_, ?_, ?_⟩
        · rw [List.map_cons, List.nodup_cons]
          refine ⟨?_, distinct⟩
          intro member
          obtain ⟨other, inEarlier, same⟩ := List.mem_map.mp member
          exact fresh other inEarlier (by rw [same]; exact List.mem_cons_self)
        · rw [List.forall_mem_cons]
          exact ⟨again, fun other member old => fresh other member (List.mem_cons_of_mem _ old)⟩
        · rcases repeats with known | known
          · rcases List.mem_cons.mp known with same | old
            · exact .inr (by rw [same]; exact List.mem_cons_self)
            · exact .inl old
          · exact .inr (List.mem_cons_of_mem _ known)

-- The first transition whose pair an earlier one has already.
def FirstRepeated (owned : List (Text × Transition)) (item : Text × Transition) : Prop :=
  ∃ earlier later, owned = earlier ++ item :: later ∧ (earlier.map pairOf).Nodup ∧
    pairOf item ∈ earlier.map pairOf

theorem repeated_pair_first (owned : List (Text × Transition)) (item : Text × Transition)
    (found : Spec.repeatedPair? [] owned = some item) : FirstRepeated owned item := by
  obtain ⟨earlier, later, split, distinct, _, repeats⟩ := repeated_pair_found [] owned item found
  exact ⟨earlier, later, split, distinct, repeats.resolve_left List.not_mem_nil⟩

theorem table_error (spec : Spec) (kind : spec.kind = .eventDriven) (fault : TableFault)
    (failed : spec.table = .error fault) :
    ∃ item, FirstRepeated spec.ownedTransitions item ∧ fault = .repeated item.1 item.2 := by
  cases found : Spec.repeatedPair? [] spec.ownedTransitions with
  | none => simp [Spec.table, Spec.isEventDriven, kind, found] at failed
  | some item =>
      have stopped : spec.table = .error (.repeated item.1 item.2) := by
        simp [Spec.table, Spec.isEventDriven, kind, found]
      rw [stopped] at failed
      exact ⟨item, repeated_pair_first _ _ found, (Except.error.inj failed).symm⟩

theorem table_eq_ok (spec : Spec) (kind : spec.kind = .eventDriven) (table : Table) :
    spec.table = .ok table ↔ (spec.ownedTransitions.map pairOf).Nodup ∧
      table = ⟨spec.states.map (·.name), spec.events.map (·.name), spec.rows⟩ := by
  have distinct := repeated_none_iff [] spec.ownedTransitions
  cases found : Spec.repeatedPair? [] spec.ownedTransitions with
  | none =>
      have apart := (distinct.mp found).2
      simp only [Spec.table, Spec.isEventDriven, kind, found, decide_true, Bool.not_true, Bool.false_eq_true, if_false,
        Except.ok.injEq, apart, true_and]
      exact eq_comm
  | some item =>
      have together : ¬ (spec.ownedTransitions.map pairOf).Nodup := by
        intro apart
        rw [distinct.mpr ⟨by simp, apart⟩] at found
        cases found
      simp [Spec.table, Spec.isEventDriven, kind, found, together]

/-! Resolution. -/

theorem resolution_undeclared (spec : Spec) (state event : Text)
    (undeclared : (state, event) ∉ spec.ownedTransitions.map pairOf) :
    spec.resolution state event = if spec.catchAlls = [] then .unhandled else .catchAll := by
  unfold Spec.resolution
  split
  · rename_i owner transition found
    have matched := List.find?_some found
    simp only [Bool.and_eq_true, beq_iff_eq] at matched
    have same : pairOf (owner, transition) = (state, event) := Prod.ext matched.1 matched.2
    exact absurd (List.mem_map.mpr ⟨_, List.mem_of_find?_eq_some found, same⟩) undeclared
  · cases fallback : spec.catchAlls <;> simp [Spec.catchAll?, fallback]

theorem resolution_explicit (spec : Spec) (state event : Text) (transition : Transition)
    (resolved : spec.resolution state event = .explicit transition) :
    (state, transition) ∈ spec.ownedTransitions ∧ transition.trigger = event := by
  unfold Spec.resolution at resolved
  split at resolved
  · rename_i owner other found
    obtain rfl := Resolution.explicit.inj resolved
    have matched := List.find?_some found
    simp only [Bool.and_eq_true, beq_iff_eq] at matched
    obtain ⟨rfl, triggered⟩ := matched
    exact ⟨List.mem_of_find?_eq_some found, triggered⟩
  · split at resolved <;> cases resolved

-- What a complete table says of a specification. The pairs it resolves are those of a state and an event; a pair that
-- a transition is declared for has that transition, and every other pair the catch-all handler or none.
structure Complete (spec : Spec) (table : Table) : Prop where
  states : table.states = spec.states.map (·.name)
  events : table.events = spec.events.map (·.name)
  defined : ∀ state event, (table.lookup? state event).isSome = true ↔
    state ∈ spec.states.map (·.name) ∧ event ∈ spec.events.map (·.name)
  explicit : ∀ state transition, (state, transition) ∈ spec.ownedTransitions →
    ∃ entry, table.lookup? state transition.trigger = some entry ∧ entry.resolution = .explicit transition ∧
      entry.handler? = some (handlerName state transition.trigger)
  fallback : ∀ state event entry, table.lookup? state event = some entry →
    (state, event) ∉ spec.ownedTransitions.map pairOf →
    if spec.catchAlls = [] then entry.resolution = .unhandled ∧ entry.handler? = none
    else entry.resolution = .catchAll ∧ entry.handler? = some catchAllHandler
  once : ∀ state transition, (state, transition) ∈ spec.ownedTransitions →
    ∃! entry, entry ∈ table.entries ∧ entry.state = state ∧ entry.transition? = some transition
  found : ∀ entry ∈ table.entries, table.lookup? entry.state entry.event = some entry
  ordered : table.entries.Pairwise fun first second =>
    spec.Precedes (first.state, first.event) (second.state, second.event)
  hasCatchAll : table.hasCatchAll = true ↔ spec.catchAlls ≠ [] ∧
    ∃ state ∈ spec.states.map (·.name), ∃ event ∈ spec.events.map (·.name),
      (state, event) ∉ spec.ownedTransitions.map pairOf

theorem entry_explicit (spec : Spec) (distinct : (spec.ownedTransitions.map pairOf).Nodup) (table : Table)
    (built : spec.table = .ok table) (state : Text) (transition : Transition)
    (member : (state, transition) ∈ spec.ownedTransitions) :
    table.lookup? state transition.trigger = some ⟨state, transition.trigger, .explicit transition⟩ := by
  have stated := owner_is_state spec _ member
  have known := trigger_is_event spec _ member
  rw [lookup_resolution spec table built state transition.trigger stated known,
    resolution_owned spec distinct state transition member]

section Built

variable (spec : Spec) (distinct : (spec.ownedTransitions.map pairOf).Nodup) (table : Table)
  (built : spec.table = .ok table) (rows : table.entries = spec.rows)

include rows

theorem looked_up_in_rows (state event : Text) (entry : Entry) (looked : table.lookup? state event = some entry) :
    entry.state = state ∧ entry.event = event ∧ entry ∈ spec.rows := by
  have matched := List.find?_some looked
  simp only [Bool.and_eq_true, beq_iff_eq] at matched
  have member := List.mem_of_find?_eq_some looked
  rw [rows] at member
  exact ⟨matched.1, matched.2, member⟩

include built in
theorem lookup_defined (state event : Text) : (table.lookup? state event).isSome = true ↔
    state ∈ spec.states.map (·.name) ∧ event ∈ spec.events.map (·.name) := by
  constructor
  · intro present
    obtain ⟨entry, looked⟩ := Option.isSome_iff_exists.mp present
    obtain ⟨rfl, rfl, member⟩ := looked_up_in_rows spec table rows state event entry looked
    obtain ⟨stated, known, _⟩ := (mem_rows spec entry).mp member
    exact ⟨stated, known⟩
  · rintro ⟨stated, known⟩
    rw [lookup_resolution spec table built state event stated known]
    rfl

include built in
theorem entry_found (entry : Entry) (member : entry ∈ table.entries) :
    table.lookup? entry.state entry.event = some entry := by
  rw [rows] at member
  obtain ⟨stated, known, resolved⟩ := (mem_rows spec entry).mp member
  rw [lookup_resolution spec table built _ _ stated known, ← resolved]

theorem entry_fallback (state event : Text) (entry : Entry) (looked : table.lookup? state event = some entry)
    (undeclared : (state, event) ∉ spec.ownedTransitions.map pairOf) :
    if spec.catchAlls = [] then entry.resolution = .unhandled ∧ entry.handler? = none
    else entry.resolution = .catchAll ∧ entry.handler? = some catchAllHandler := by
  obtain ⟨rfl, rfl, member⟩ := looked_up_in_rows spec table rows state event entry looked
  have resolved := ((mem_rows spec entry).mp member).2.2
  rw [resolution_undeclared spec _ _ undeclared] at resolved
  split at resolved
  · rename_i none_
    rw [if_pos none_]
    exact ⟨resolved, by rw [Entry.handler?, resolved]⟩
  · rename_i some_
    rw [if_neg some_]
    exact ⟨resolved, by rw [Entry.handler?, resolved]⟩

include distinct built in
theorem entry_once (state : Text) (transition : Transition) (member : (state, transition) ∈ spec.ownedTransitions) :
    ∃! entry, entry ∈ table.entries ∧ entry.state = state ∧ entry.transition? = some transition := by
  have looked := entry_explicit spec distinct table built state transition member
  refine ⟨⟨state, transition.trigger, .explicit transition⟩, ⟨List.mem_of_find?_eq_some looked, rfl, rfl⟩, ?_⟩
  rintro ⟨owner, event, resolution⟩ ⟨listed, rfl, carried⟩
  rw [rows] at listed
  have resolved := ((mem_rows spec _).mp listed).2.2
  cases resolution with
  | explicit other =>
      obtain rfl := Option.some.inj carried
      rw [(resolution_explicit spec owner event other resolved.symm).2]
  | catchAll => cases carried
  | unhandled => cases carried

include distinct built in
theorem table_falls_back_iff : table.hasCatchAll = true ↔ spec.catchAlls ≠ [] ∧
    ∃ state ∈ spec.states.map (·.name), ∃ event ∈ spec.events.map (·.name),
      (state, event) ∉ spec.ownedTransitions.map pairOf := by
  rw [Table.hasCatchAll, List.any_eq_true]
  constructor
  · rintro ⟨entry, listed, falls⟩
    have caught : entry.resolution = .catchAll := beq_iff_eq.mp falls
    have looked := entry_found spec table built rows entry listed
    rw [rows] at listed
    obtain ⟨stated, known, _⟩ := (mem_rows spec entry).mp listed
    have undeclared : (entry.state, entry.event) ∉ spec.ownedTransitions.map pairOf := by
      intro declared
      obtain ⟨⟨state, transition⟩, member, same⟩ := List.mem_map.mp declared
      obtain ⟨sameState, sameEvent⟩ := Prod.mk.inj same
      have own := entry_explicit spec distinct table built state transition member
      change state = entry.state at sameState
      change transition.trigger = entry.event at sameEvent
      rw [sameState, sameEvent, looked] at own
      rw [Option.some.inj own] at caught
      cases caught
    have resolved := entry_fallback spec table rows _ _ entry looked undeclared
    refine ⟨?_, entry.state, stated, entry.event, known, undeclared⟩
    intro none_
    rw [if_pos none_, caught] at resolved
    cases resolved.1
  · rintro ⟨some_, state, stated, event, known, undeclared⟩
    have looked := lookup_resolution spec table built state event stated known
    rw [resolution_undeclared spec state event undeclared, if_neg some_] at looked
    exact ⟨_, List.mem_of_find?_eq_some looked, by simp⟩

end Built

theorem built_complete (spec : Spec) (kind : spec.kind = .eventDriven) (table : Table)
    (built : spec.table = .ok table) : Complete spec table := by
  obtain ⟨distinct, same⟩ := (table_eq_ok spec kind table).mp built
  have rows : table.entries = spec.rows := by rw [same]
  constructor
  · rw [same]
  · rw [same]
  · exact lookup_defined spec table built rows
  · intro state transition member
    exact ⟨_, entry_explicit spec distinct table built state transition member, rfl, rfl⟩
  · exact entry_fallback spec table rows
  · exact entry_once spec distinct table built rows
  · exact entry_found spec table built rows
  · rw [rows]
    exact rows_in_order spec
  · exact table_falls_back_iff spec distinct table built rows

/-- The table of an event-driven specification fails exactly where two transitions have one pair, and then at the first
transition that repeats an earlier pair; otherwise it is complete. A valid specification has a table, with one entry for
each state and each event. -/
theorem table_resolves_every_pair (spec : Spec) (kind : spec.kind = .eventDriven) :
    ((∃ fault, spec.table = .error fault) ↔ ¬ (spec.ownedTransitions.map pairOf).Nodup) ∧
    (∀ fault, spec.table = .error fault →
      ∃ item, FirstRepeated spec.ownedTransitions item ∧ fault = .repeated item.1 item.2) ∧
    (∀ table, spec.table = .ok table → Complete spec table) ∧
    (spec.validate = .ok () → ∃ table, spec.table = .ok table ∧
      table.entries.length = spec.states.length * spec.events.length) := by
  refine ⟨⟨?_, ?_⟩, table_error spec kind, built_complete spec kind, ?_⟩
  · rintro ⟨fault, failed⟩ distinct
    rw [(table_eq_ok spec kind _).mpr ⟨distinct, rfl⟩] at failed
    cases failed
  · intro together
    cases outcome : spec.table with
    | error fault => exact ⟨fault, rfl⟩
    | ok table => exact absurd ((table_eq_ok spec kind table).mp outcome).1 together
  · intro valid
    have states := Validation.state_names_distinct spec ((validate_eq_ok spec).mp valid).1
    refine ⟨_, (table_eq_ok spec kind _).mpr ⟨pairs_distinct spec valid, rfl⟩, ?_⟩
    simp [Spec.rows, firsts_of_distinct _ [] states, List.length_flatMap, Function.comp_def]

-- A gate whose states are both called `Shut`, with an event that no state reacts to.
def gateSpec : Spec :=
  { kind := .eventDriven, name := "Gate"
    states :=
      [{ name := "Shut", transitions := [{ source := "Shut", trigger := "Lift", target := some "Shut" }] },
       { name := "Shut", transitions := [{ source := "Shut", trigger := "Lock", body := "return state" }] }]
    declaredEvents := [{ name := "Ring" }], catchAlls := [{ body := "return state" }] }

theorem gate_resolves_ringing :
    gateSpec.kind = .eventDriven ∧ ∃ table, gateSpec.table = .ok table ∧ Complete gateSpec table ∧
      table.entries.map (fun entry => (entry.event, entry.handler?)) =
        [(Text.fixed "Lift", some (Text.fixed "_handle__Shut__Lift")),
         (Text.fixed "Lock", some (Text.fixed "_handle__Shut__Lock")),
         (Text.fixed "Ring", some catchAllHandler)] := by
  refine ⟨rfl, _, rfl, (table_resolves_every_pair gateSpec rfl).2.2.1 _ rfl, ?_⟩
  decide

end Statewright
