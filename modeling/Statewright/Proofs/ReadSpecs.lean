import Statewright.Proofs.Rejections
import Statewright.Spec.Reading

/-!
Specifications that are read from a document. The fields that a kind of machine requires have been filled, so an
event-driven one has both of its enumerations.
-/
set_option autoImplicit false

namespace Statewright

namespace Reading

open Filling (shape)

/-! Filling that succeeds. -/

-- Where the filling succeeds, it leads from a specification of the first kind to one of the second.
def Leads {α : Type} (before : Spec → Prop) (filling : Filling α) (after : α → Spec → Prop) : Prop :=
  ∀ spec, before spec → ∀ value final, filling.run.run spec = (.ok value, final) → after value final

section
variable {α β : Type} {before : Spec → Prop}

theorem leads_return (value : α) {after : α → Spec → Prop} (held : ∀ spec, before spec → after value spec) :
    Leads before (pure value) after := by
  intro spec start result final ran
  cases ran
  exact held spec start

theorem leads_shape (outcome : Shape α) : Leads before (shape outcome) fun _ => before := by
  intro spec start result final ran
  cases ran
  exact start

-- The value that a shape gives is known afterwards.
theorem leads_value (outcome : Shape α) :
    Leads before (shape outcome) fun value spec => before spec ∧ outcome = .ok value := by
  intro spec start result final ran
  cases ran
  exact ⟨start, rfl⟩

theorem leads_flawed (flaw : Flaw) (line : Nat) {after : α → Spec → Prop} :
    Leads before (shape (flawed flaw line)) after := by
  intro spec start result final ran
  cases ran

-- Nothing is reached behind a flaw.
theorem leads_stopped (flaw : Flaw) (line : Nat) (next : α → Filling β) {after : β → Spec → Prop} :
    Leads before (shape (flawed flaw line) >>= next) after := by
  intro spec start result final ran
  cases ran

theorem leads_modify (change : Spec → Spec) {after : Spec → Prop} (held : ∀ spec, before spec → after (change spec)) :
    Leads before (modify change) fun _ => after := by
  intro spec start result final ran
  cases ran
  exact held spec start

theorem leads_get : Leads before get fun _ => before := by
  intro spec start result final ran
  cases ran
  exact start

theorem leads_got : Leads before get fun value spec => before spec ∧ before value := by
  intro spec start result final ran
  cases ran
  exact ⟨start, start⟩

theorem leads_held : Leads before get fun value spec => spec = value := by
  intro spec start result final ran
  cases ran
  rfl

theorem leads_bind (first : Filling α) (next : α → Filling β) {between : α → Spec → Prop} {after : β → Spec → Prop}
    (one : Leads before first between) (rest : ∀ value, Leads (between value) (next value) after) :
    Leads before (first >>= next) after := by
  intro spec start result final ran
  rw [ExceptT.run_bind, StateT.run_bind] at ran
  cases turn : first.run.run spec with
  | mk outcome middle =>
      rw [turn] at ran
      cases outcome with
      | error misshape => cases ran
      | ok value => exact rest value middle (one spec start value middle turn) result final ran

theorem leads_any (filling : Filling α) : Leads before filling fun _ _ => True := fun _ _ _ _ _ => trivial

theorem leads_for (items : List α) (step : α → PUnit → Filling (ForInStep PUnit))
    (each : ∀ item value, Leads before (step item value) fun _ => before) :
    Leads before (forIn items PUnit.unit step) fun _ => before := by
  induction items with
  | nil => exact leads_return _ fun _ start => start
  | cons item rest ih =>
      rw [List.forIn_cons]
      refine leads_bind _ _ (each item _) fun turn => ?_
      cases turn with
      | done value => exact leads_return _ fun _ start => start
      | yield value => exact ih

-- A loop that never breaks off establishes for each item what its turn does.
theorem leads_each (items : List α) (step : α → PUnit → Filling (ForInStep PUnit)) (holds : α → Prop)
    (each : ∀ item, Leads before (step item PUnit.unit) fun turn spec =>
      before spec ∧ turn = .yield PUnit.unit ∧ holds item) :
    Leads before (forIn items PUnit.unit step) fun _ spec => before spec ∧ ∀ item ∈ items, holds item := by
  induction items with
  | nil => exact leads_return _ fun _ start => ⟨start, by simp⟩
  | cons item rest ih =>
      rw [List.forIn_cons]
      refine leads_bind _ _ (each item) fun turn => ?_
      intro spec ⟨start, goesOn, held⟩
      subst goesOn
      intro value final ran
      obtain ⟨kept, others⟩ := ih spec start value final ran
      exact ⟨kept, List.forall_mem_cons.mpr ⟨held, others⟩⟩

-- What is known of the specification or of values before is there to be used.
theorem leads_given (filling : Filling α) {fact : Prop} {after : α → Spec → Prop}
    (led : fact → Leads before filling after) : Leads (fun spec => before spec ∧ fact) filling after :=
  fun spec ⟨start, fact⟩ => led fact spec start

theorem leads_stronger (filling : Filling α) {stronger : Spec → Prop} {after : α → Spec → Prop}
    (led : Leads stronger filling after) (implied : ∀ spec, before spec → stronger spec) : Leads before filling after :=
  fun spec start => led spec (implied spec start)

theorem leads_further (filling : Filling α) {after further : α → Spec → Prop} (led : Leads before filling after)
    (implied : ∀ value spec, after value spec → further value spec) : Leads before filling further :=
  fun spec start value final ran => implied value final (led spec start value final ran)

end

/-! Enumerations. -/

-- The enumerations among the fields that have been seen are there, and the kind is what it was.
structure Filled (kind : Kind) (seen : List Text) (spec : Spec) : Prop where
  kind : spec.kind = kind
  stateEnum : Text.fixed "state_enum" ∈ seen → spec.stateEnum.isSome = true
  eventEnum : Text.fixed "event_enum" ∈ seen → spec.eventEnum.isSome = true

section
variable {kind : Kind} {seen : List Text}

theorem filled_same (spec next : Spec) (filled : Filled kind seen spec) (same : next.kind = spec.kind)
    (states : next.stateEnum = spec.stateEnum) (events : next.eventEnum = spec.eventEnum) : Filled kind seen next where
  kind := same.trans filled.kind
  stateEnum := fun member => states ▸ filled.stateEnum member
  eventEnum := fun member => events ▸ filled.eventEnum member

theorem fill_states_leads (element : Markup.Element) :
    Leads (Filled kind seen) (fillStates element) fun _ => Filled kind seen := by
  have close : ∀ value : ForInStep PUnit, Leads (Filled kind seen) (pure value) fun _ => Filled kind seen :=
    fun value => leads_return value fun _ filled => filled
  refine leads_bind _ _ (leads_shape _) fun _ => leads_bind _ _ (leads_for _ _ fun child _ => ?_) fun _ =>
    leads_return _ fun _ filled => filled
  refine leads_bind _ _ leads_get fun spec => ?_
  split
  · exact leads_bind _ _ (leads_shape _) fun one => leads_bind _ _
      (leads_modify _ fun spec filled => filled_same spec _ filled rfl rfl rfl) fun _ => close _
  · split
    · exact leads_bind _ _ (leads_shape _) fun one => leads_bind _ _
        (leads_modify _ fun spec filled => filled_same spec _ filled rfl rfl rfl) fun _ => close _
    · exact leads_bind _ _ (leads_shape _) fun _ => close _

theorem fill_events_leads (element : Markup.Element) :
    Leads (Filled kind seen) (fillEvents element) fun _ => Filled kind seen := by
  refine leads_bind _ _ (leads_shape _) fun _ => leads_bind _ _ (leads_for _ _ fun child _ => ?_) fun _ =>
    leads_return _ fun _ filled => filled
  exact leads_bind _ _ (leads_shape _) fun one => leads_bind _ _
    (leads_modify _ fun spec filled => filled_same spec _ filled rfl rfl rfl) fun _ =>
      leads_return _ fun _ filled => filled

-- A field other than the enumerations.
theorem filled_other (label : Text) (noStates : label ≠ Text.fixed "state_enum")
    (noEvents : label ≠ Text.fixed "event_enum") (spec : Spec) (filled : Filled kind seen spec) :
    Filled kind (label :: seen) spec where
  kind := filled.kind
  stateEnum := fun member => filled.stateEnum ((List.mem_cons.mp member).resolve_left (Ne.symm noStates))
  eventEnum := fun member => filled.eventEnum ((List.mem_cons.mp member).resolve_left (Ne.symm noEvents))

theorem fill_field_other (element : Markup.Element) (noStates : element.name ≠ Text.fixed "state_enum")
    (noEvents : element.name ≠ Text.fixed "event_enum") :
    Leads (Filled kind seen) (fillField element) fun _ => Filled kind seen := by
  have one : ∀ {α : Type} (outcome : Shape α) (change : α → Spec → Spec),
      (∀ value spec, Filled kind seen spec → Filled kind seen (change value spec)) →
        Leads (Filled kind seen) (do let value ← shape outcome; modify (change value)) fun _ => Filled kind seen :=
    fun outcome change held => leads_bind _ _ (leads_shape outcome) fun value => leads_modify _ (held value)
  unfold fillField
  dsimp only
  split
  · exact one _ _ fun _ spec filled => filled_same spec _ filled rfl rfl rfl
  split
  · exact one _ _ fun _ spec filled => filled_same spec _ filled rfl rfl rfl
  split
  · exact leads_bind _ _ (leads_shape _) fun _ => one _ _ fun _ spec filled => filled_same spec _ filled rfl rfl rfl
  split
  · exact one _ _ fun _ spec filled => filled_same spec _ filled rfl rfl rfl
  split
  · exact one _ _ fun _ spec filled => filled_same spec _ filled rfl rfl rfl
  split
  · exact absurd (eq_of_beq ‹_›) noStates
  split
  · exact absurd (eq_of_beq ‹_›) noEvents
  split
  · exact fill_states_leads element
  · exact fill_events_leads element

theorem fill_field_leads (element : Markup.Element) :
    Leads (Filled kind seen) (fillField element) fun _ => Filled kind (element.name :: seen) := by
  by_cases states : element.name = Text.fixed "state_enum"
  · have only : fillField element = (do
        let one ← shape (enumeration element)
        modify fun spec => { spec with stateEnum := some one }) := by
      unfold fillField
      rw [states]
      rfl
    rw [only, states]
    refine leads_bind _ _ (leads_shape _) fun one => leads_modify _ fun spec filled => ⟨filled.kind, fun _ => rfl, ?_⟩
    exact fun member => filled.eventEnum ((List.mem_cons.mp member).resolve_left (by decide))
  · by_cases events : element.name = Text.fixed "event_enum"
    · have only : fillField element = (do
          let one ← shape (enumeration element)
          modify fun spec => { spec with eventEnum := some one }) := by
        unfold fillField
        rw [events]
        rfl
      rw [only, events]
      refine leads_bind _ _ (leads_shape _) fun one => leads_modify _ fun spec filled => ⟨filled.kind, ?_, fun _ => rfl⟩
      exact fun member => filled.stateEnum ((List.mem_cons.mp member).resolve_left (by decide))
    · exact leads_further _ (fill_field_other element states events) fun _ => filled_other element.name states events

theorem fill_fields_leads (elements : List Markup.Element) :
    Leads (Filled kind seen) (fillFields kind seen elements) (Filled kind) := by
  induction elements generalizing seen with
  | nil => exact leads_return _ fun _ filled => filled
  | cons element rest ih =>
      have filling : Leads (Filled kind seen) (do
          fillField element
          fillFields kind (element.name :: seen) rest) (Filled kind) :=
        leads_bind _ _ (fill_field_leads element) fun _ => ih
      have once : Leads (Filled kind seen)
          (if (element.name != Text.fixed "attribute" && seen.contains element.name) = true then do
            shape (flawed (Flaw.repeatedField element.name) element.line)
            fillField element
            fillFields kind (element.name :: seen) rest
          else do
            fillField element
            fillFields kind (element.name :: seen) rest) (Filled kind) := by
        split
        · exact leads_bind _ _ (leads_shape _) fun _ => filling
        · exact filling
      rw [fillFields]
      dsimp only
      split
      · split
        · exact leads_bind _ _ (leads_shape _) fun _ => once
        · exact leads_bind _ _ (leads_shape _) fun _ => once
      · exact once

end

theorem fill_leads (root : Markup.Element) : Leads (fun _ => True) (fill root) fun _ => Validation.Enumerated := by
  refine leads_bind _ _ leads_held fun start => ?_
  have begun : ∀ spec, spec = start → Filled start.kind [] spec := by
    rintro spec rfl
    exact ⟨rfl, by simp, by simp⟩
  refine leads_bind _ _ (leads_stronger _ (fill_fields_leads root.children) begun) fun seen => ?_
  cases missing : (requiredFields start.kind).find? fun label => !seen.contains label with
  | some label => exact leads_bind _ _ leads_get fun _ => leads_flawed _ _
  | none =>
      refine leads_return _ fun spec filled eventDriven => ?_
      have required : ∀ label ∈ requiredFields .eventDriven, label ∈ seen := by
        rw [← eventDriven, filled.kind]
        simpa using missing
      exact ⟨filled.stateEnum (required _ (by decide)), filled.eventEnum (required _ (by decide))⟩

end Reading

-- What is read is begun at the root of the document and filled by its fields.
theorem read_filled (text : Text) (source : Option Text) (spec : Spec) (read : Spec.read text source = .ok spec) :
    ∃ root start done, Markup.read text = .ok root ∧ Reading.begin source root = .ok start ∧
      (Reading.fill root).run.run start = (.ok done, spec) := by
  unfold Spec.read SpecReader.read at read
  cases parsed : Markup.read text with
  | error line =>
      rw [parsed] at read
      cases read
  | ok root =>
      rw [parsed] at read
      dsimp only at read
      unfold SpecReader.readElement at read
      dsimp only at read
      cases begun : Reading.begin source root with
      | error misshape =>
          rw [begun] at read
          cases read
      | ok start =>
          rw [begun] at read
          dsimp only at read
          cases turn : (Reading.fill root).run.run start with
          | mk outcome filled =>
              rw [turn] at read
              cases outcome with
              | error misshape => cases read
              | ok done =>
                  obtain rfl := Except.ok.inj read
                  exact ⟨root, start, done, rfl, begun, turn⟩

theorem read_enumerated (text : Text) (source : Option Text) (spec : Spec) (read : Spec.read text source = .ok spec) :
    Validation.Enumerated spec := by
  obtain ⟨root, start, done, _, _, filled⟩ := read_filled text source spec read
  exact Reading.fill_leads root start trivial done spec filled

end Statewright
