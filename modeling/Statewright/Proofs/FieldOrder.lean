import Statewright.Proofs.DocumentParts
import Statewright.Proofs.UnlinedModules

/-!
The order of the fields of a machine. Whether a document can be filled in depends on each of its fields alone, and what
is filled in on the order of the decorators only; lines are reported but decide nothing.
-/
set_option autoImplicit false

namespace Statewright

namespace Reading

open List (Forall₂)
open Markup (Element)
open Filling (shape)

/-! Filling that sees only the kind. -/

def Blind {α : Type} (kind : Kind) (filling : Filling α) : Prop :=
  ∀ spec other, spec.kind = kind → other.kind = kind →
    (filling.run.run spec).1 = (filling.run.run other).1 ∧ (filling.run.run spec).2.kind = kind

section

variable {α β : Type} {kind : Kind}

theorem blind_return (value : α) : Blind kind (pure value) := fun _ _ same _ => ⟨rfl, same⟩

theorem blind_shape (outcome : Shape α) : Blind kind (shape outcome) := fun _ _ same _ => ⟨rfl, same⟩

theorem blind_modify (change : Spec → Spec) (kept : ∀ spec, (change spec).kind = spec.kind) :
    Blind kind (modify change) := fun spec _ same _ => ⟨rfl, (kept spec).trans same⟩

theorem blind_bind (first : Filling α) (next : α → Filling β) (one : Blind kind first)
    (rest : ∀ value, Blind kind (next value)) : Blind kind (first >>= next) := by
  intro spec other same also
  obtain ⟨alike, kept⟩ := one spec other same also
  have further := (one other spec also same).2
  rw [ExceptT.run_bind, StateT.run_bind, StateT.run_bind]
  cases turn : first.run.run spec with
  | mk outcome middle =>
      cases again : first.run.run other with
      | mk result between =>
          rw [turn] at alike kept
          rw [again] at alike further
          obtain rfl : outcome = result := alike
          cases outcome with
          | error misshape => exact ⟨rfl, kept⟩
          | ok value => exact rest value middle between kept further

theorem blind_for (items : List α) (step : α → PUnit → Filling (ForInStep PUnit))
    (each : ∀ item value, Blind kind (step item value)) : Blind kind (forIn items PUnit.unit step) := by
  induction items with
  | nil => exact blind_return _
  | cons item rest ih =>
      rw [List.forIn_cons]
      refine blind_bind _ _ (each item _) fun turn => ?_
      cases turn with
      | done value => exact blind_return _
      | yield value => exact ih

theorem blind_get (next : Spec → Filling β) (same : ∀ spec other, spec.kind = other.kind → next spec = next other)
    (each : ∀ spec, Blind kind (next spec)) : Blind kind (get >>= next) := by
  intro spec other one also
  have alike := each spec spec other one also
  refine ⟨alike.1.trans ?_, alike.2⟩
  rw [same spec other (one.trans also.symm)]
  rfl

theorem fill_field_blind (element : Element) : Blind kind (fillField element) := by
  have once {γ : Type} (outcome : Shape γ) (change : γ → Spec → Spec)
      (kept : ∀ value spec, (change value spec).kind = spec.kind) :
      Blind kind (do let value ← shape outcome; modify (change value)) :=
    blind_bind _ _ (blind_shape outcome) fun value => blind_modify _ (kept value)
  unfold fillField
  dsimp only
  split
  · exact once _ _ fun _ _ => rfl
  split
  · exact once _ _ fun _ _ => rfl
  split
  · exact blind_bind _ _ (blind_shape _) fun _ => once _ _ fun _ _ => rfl
  split
  · exact once _ _ fun _ _ => rfl
  split
  · exact once _ _ fun _ _ => rfl
  split
  · exact once _ _ fun _ _ => rfl
  split
  · exact once _ _ fun _ _ => rfl
  split
  · refine blind_bind _ _ (blind_shape _) fun _ => blind_bind _ _ (blind_for _ _ fun child _ => ?_) fun _ =>
      blind_return _
    refine blind_get _ (fun spec other same => ?_) fun spec => ?_
    · have flag : spec.isEventDriven = other.isEventDriven := by simp [Spec.isEventDriven, same]
      rw [same, flag]
    · split
      · exact blind_bind _ _ (blind_shape _) fun one =>
          blind_bind _ _ (blind_modify _ fun _ => rfl) fun _ => blind_return _
      split
      · exact blind_bind _ _ (blind_shape _) fun one =>
          blind_bind _ _ (blind_modify _ fun _ => rfl) fun _ => blind_return _
      · exact blind_bind _ _ (blind_shape _) fun _ => blind_return _
  · refine blind_bind _ _ (blind_shape _) fun _ => blind_bind _ _ (blind_for _ _ fun child _ => ?_) fun _ =>
      blind_return _
    exact blind_bind _ _ (blind_shape _) fun one => blind_bind _ _ (blind_modify _ fun _ => rfl) fun _ => blind_return _

end

/-! Fields that can be filled in. -/

def Succeeds {α : Type} (filling : Filling α) (spec : Spec) : Prop :=
  ∃ value final, filling.run.run spec = (.ok value, final)

def Fillable (kind : Kind) (element : Element) : Prop := ∀ spec, spec.kind = kind → Succeeds (fillField element) spec

theorem succeeds_bind {α β : Type} (first : Filling α) (next : α → Filling β) (spec : Spec) :
    Succeeds (first >>= next) spec ↔
      ∃ value middle, first.run.run spec = (.ok value, middle) ∧ Succeeds (next value) middle := by
  unfold Succeeds
  rw [ExceptT.run_bind, StateT.run_bind]
  cases turn : first.run.run spec with
  | mk outcome middle =>
      cases outcome with
      | error misshape =>
          constructor
          · rintro ⟨value, final, ran⟩
            cases ran
          · rintro ⟨value, between, ran, _⟩
            cases ran
      | ok value =>
          constructor
          · rintro ⟨result, final, ran⟩
            exact ⟨value, middle, rfl, result, final, ran⟩
          · rintro ⟨other, between, ran, result, final, further⟩
            cases ran
            exact ⟨result, final, further⟩

-- The fields are known to the kind of machine, each can be filled in, and none stands twice but decorators.
structure Complete (kind : Kind) (seen : List Text) (elements : List Element) : Prop where
  allowed : ∀ element ∈ elements, element.name ∈ allowedFields kind
  fillable : ∀ element ∈ elements, Fillable kind element
  once : ((elements.map (·.name)).filter (· != Text.fixed "attribute")).Nodup
  fresh : ∀ element ∈ elements, element.name ≠ Text.fixed "attribute" → element.name ∉ seen

theorem complete_cons (kind : Kind) (seen : List Text) (element : Element) (rest : List Element) :
    Complete kind seen (element :: rest) ↔
      element.name ∈ allowedFields kind ∧ (element.name ≠ Text.fixed "attribute" → element.name ∉ seen) ∧
        Fillable kind element ∧ Complete kind (element.name :: seen) rest := by
  constructor
  · intro complete
    obtain ⟨allowed, others⟩ := List.forall_mem_cons.mp complete.allowed
    obtain ⟨fillable, further⟩ := List.forall_mem_cons.mp complete.fillable
    obtain ⟨fresh, apart⟩ := List.forall_mem_cons.mp complete.fresh
    refine ⟨allowed, fresh, fillable, others, further, ?_, fun other member labelled known => ?_⟩
    · exact (List.Sublist.filter _ (List.sublist_cons_self _ _)).nodup complete.once
    · rcases List.mem_cons.mp known with same | known
      · have once := complete.once
        rw [List.map_cons, List.filter_cons_of_pos (by simpa [← same] using labelled), List.nodup_cons] at once
        refine once.1 (List.mem_filter.mpr ⟨List.mem_map.mpr ⟨other, member, same⟩, ?_⟩)
        simpa [← same] using labelled
      · exact apart other member labelled known
  · rintro ⟨allowed, fresh, fillable, complete⟩
    refine ⟨List.forall_mem_cons.mpr ⟨allowed, complete.allowed⟩, List.forall_mem_cons.mpr ⟨fillable, complete.fillable⟩,
      ?_, List.forall_mem_cons.mpr ⟨fresh, fun other member labelled known =>
        complete.fresh other member labelled (List.mem_cons_of_mem _ known)⟩⟩
    rw [List.map_cons]
    by_cases label : element.name = Text.fixed "attribute"
    · rw [List.filter_cons_of_neg (by simp [label])]
      exact complete.once
    · rw [List.filter_cons_of_pos (by simpa using label), List.nodup_cons]
      refine ⟨fun again => ?_, complete.once⟩
      obtain ⟨other, member, same⟩ := List.mem_map.mp (List.mem_filter.mp again).1
      exact complete.fresh other member (same ▸ label) (same ▸ List.mem_cons_self)

theorem fill_fields_succeed (kind : Kind) (seen : List Text) (elements : List Element) (start : Spec)
    (same : start.kind = kind) : Succeeds (fillFields kind seen elements) start ↔ Complete kind seen elements := by
  induction elements generalizing seen start with
  | nil =>
      refine ⟨fun _ => ⟨by simp, by simp, .nil, by simp⟩, fun _ => ⟨seen, start, rfl⟩⟩
  | cons element rest ih =>
      have stopped (flaw : Flaw) (next : PUnit → Filling (List Text)) :
          ¬ Succeeds (shape (flawed flaw element.line) >>= next) start := by
        rintro ⟨value, final, ran⟩
        cases ran
      rw [complete_cons, fillFields]
      dsimp only
      by_cases allowed : element.name ∈ allowedFields kind
      · rw [if_neg (by simpa using allowed)]
        by_cases fresh : element.name ≠ Text.fixed "attribute" → element.name ∉ seen
        · rw [if_neg (by simpa using fresh), succeeds_bind]
          constructor
          · rintro ⟨done, middle, filled, further⟩
            have kept : middle.kind = kind := by
              have own := (fill_field_blind element start start same same).2
              rwa [filled] at own
            refine ⟨allowed, fresh, fun spec also => ?_, (ih _ middle kept).mp further⟩
            have alike := (fill_field_blind element spec start also same).1
            rw [filled] at alike
            exact ⟨done, ((fillField element).run.run spec).2, Prod.ext alike rfl⟩
          · rintro ⟨_, _, fillable, complete⟩
            obtain ⟨done, middle, filled⟩ := fillable start same
            have kept : middle.kind = kind := by
              have own := (fill_field_blind element start start same same).2
              rwa [filled] at own
            exact ⟨done, middle, filled, (ih _ middle kept).mpr complete⟩
        · rw [if_pos (by simpa using fresh)]
          exact iff_of_false (stopped _ _) fun complete => fresh complete.2.1
      · rw [if_pos (by simpa using allowed)]
        refine iff_of_false ?_ fun complete => allowed complete.1
        split <;> exact stopped _ _

theorem complete_perm (kind : Kind) (first second : List Element) (moved : first.Perm second)
    (complete : Complete kind [] first) : Complete kind [] second where
  allowed := fun element member => complete.allowed element (moved.mem_iff.mpr member)
  fillable := fun element member => complete.fillable element (moved.mem_iff.mpr member)
  once := ((moved.map _).filter _).nodup_iff.mp complete.once
  fresh := fun _ _ _ => List.not_mem_nil

theorem fill_succeeds (root : Element) (start : Spec) :
    Succeeds (fill root) start ↔ Complete start.kind [] root.children ∧
      ∀ label ∈ requiredFields start.kind, label ∈ root.children.map (·.name) := by
  have begun : Succeeds (fill root) start ↔ ∃ seen middle,
      (fillFields start.kind [] root.children).run.run start = (.ok seen, middle) ∧
        (requiredFields start.kind).find? (fun label => !seen.contains label) = none := by
    unfold fill
    rw [succeeds_bind]
    constructor
    · rintro ⟨_, _, got, further⟩
      cases got
      obtain ⟨seen, middle, filled, rest⟩ := (succeeds_bind _ _ _).mp further
      refine ⟨seen, middle, filled, ?_⟩
      cases missing : (requiredFields start.kind).find? fun label => !seen.contains label with
      | none => rfl
      | some label =>
          rw [missing] at rest
          obtain ⟨_, _, ran⟩ := rest
          cases ran
    · rintro ⟨seen, middle, filled, missing⟩
      refine ⟨start, start, rfl, (succeeds_bind _ _ _).mpr ⟨seen, middle, filled, ?_⟩⟩
      rw [missing]
      exact ⟨(), middle, rfl⟩
  have names (seen : List Text) (middle : Spec)
      (filled : (fillFields start.kind [] root.children).run.run start = (.ok seen, middle)) :
      seen = (root.children.map (·.name)).reverse := by
    have all := fill_fields_seen start.kind [] root.children start trivial seen middle filled
    rwa [List.append_nil] at all
  rw [begun, ← fill_fields_succeed start.kind [] root.children start rfl]
  constructor
  · rintro ⟨seen, middle, filled, missing⟩
    refine ⟨⟨seen, middle, filled⟩, fun label required => ?_⟩
    have known := List.find?_eq_none.mp missing label required
    rw [names seen middle filled] at known
    simpa using known
  · rintro ⟨⟨seen, middle, filled⟩, required⟩
    refine ⟨seen, middle, filled, List.find?_eq_none.mpr fun label member => ?_⟩
    rw [names seen middle filled]
    simpa using required label member

/-! What is filled in. -/

theorem gives_unique {α : Type} {read : Element → Shape α} (elements : List Element) (values others : List α)
    (all : Forall₂ (Gives read) elements values) (also : Forall₂ (Gives read) elements others) : values = others := by
  induction all generalizing others with
  | nil =>
      cases also
      rfl
  | cons one _ ih =>
      cases also with
      | cons other rest => rw [Except.ok.inj (Eq.trans one.symm other), ih _ rest]

theorem given_unique {α : Type} {read : Element → Shape α} (elements : List Element) (value other : Option α)
    (one : Forall₂ (Gives read) elements value.toList) (also : Forall₂ (Gives read) elements other.toList) :
    value = other := by
  have same := gives_unique elements _ _ one also
  cases value <;> cases other <;> simp_all

theorem parts_unique (start : Spec) (at_ : Text → List Element) (first second : Spec) (parts : Parts start at_ first)
    (others : Parts start at_ second) : first = second := by
  have kind : first.kind = second.kind := parts.same.trans others.same.symm
  have states : first.states = second.states := gives_unique _ _ _ parts.states (kind ▸ others.states)
  cases first
  cases second
  congr
  · exact parts.name.trans others.name.symm
  · exact parts.visibility.trans others.visibility.symm
  · exact gives_unique _ _ _ parts.attributes others.attributes
  · exact parts.isAsync.trans others.isAsync.symm
  · exact parts.context.trans others.context.symm
  · exact parts.prelude.trans others.prelude.symm
  · exact given_unique _ _ _ parts.stateTrait others.stateTrait
  · exact given_unique _ _ _ parts.stateEnum others.stateEnum
  · exact given_unique _ _ _ parts.eventEnum others.eventEnum
  · exact given_unique _ _ _ parts.eventTrait others.eventTrait
  · exact gives_unique _ _ _ parts.declaredEvents others.declaredEvents
  · exact gives_unique _ _ _ parts.catchAlls others.catchAlls
  · exact parts.source.trans others.source.symm
  · exact parts.line.trans others.line.symm

-- At each label stand the same elements: one at most, or the decorators in their order.
theorem named_moved (first second : List Element) (moved : first.Perm second)
    (once : ((first.map (·.name)).filter (· != Text.fixed "attribute")).Nodup)
    (decorators : named "attribute" first = named "attribute" second) (label : Text) :
    named label first = named label second := by
  by_cases same : label = Text.fixed "attribute"
  · rw [same]
    exact decorators
  have perm : (named label first).Perm (named label second) := moved.filter _
  have short : (named label first).length ≤ 1 := by
    have count := List.nodup_iff_count_le_one.mp once label
    rw [List.count_filter (by simpa using same), List.count, List.countP_map, List.countP_eq_length_filter] at count
    exact count
  cases listed : named label first with
  | nil =>
      rw [listed] at perm
      exact (List.nil_perm.mp perm).symm
  | cons element rest =>
      rw [listed] at perm short
      obtain rfl : rest = [] := List.eq_nil_of_length_eq_zero (by simpa using short)
      exact List.singleton_perm.mp perm

theorem element_read (reader : SpecReader) (root : Element) (spec : Spec) :
    (reader.readElement root).1 = .ok spec ↔
      ∃ start, begin reader.source root = .ok start ∧ (fill root).run.run start = (.ok (), spec) := by
  unfold SpecReader.readElement
  cases begun : begin reader.source root with
  | error misshape =>
      constructor
      · exact nofun
      · rintro ⟨start, same, _⟩
        cases same
  | ok start =>
      dsimp only
      cases turn : (fill root).run.run start with
      | mk outcome final =>
          constructor
          · intro read
            cases outcome with
            | error misshape => cases read
            | ok done =>
                obtain rfl := Except.ok.inj read
                exact ⟨start, rfl, turn⟩
          · rintro ⟨other, same, ran⟩
            obtain rfl := Except.ok.inj same
            rw [turn] at ran
            cases ran
            rfl

-- Two elements that differ in the order of what stands inside, decorators apart.
structure Moved (first second : Element) : Prop where
  name : first.name = second.name
  attributes : first.attributes = second.attributes
  line : first.line = second.line
  children : first.children.Perm second.children
  decorators : named "attribute" first.children = named "attribute" second.children

theorem begin_moved (source : Option Text) (first second : Element) (moved : Moved first second) :
    begin source first = begin source second := by
  obtain ⟨name, attributes, line, _, _⟩ := moved
  cases first
  cases second
  obtain rfl := name
  obtain rfl := attributes
  obtain rfl := line
  rfl

theorem read_element_moved (reader : SpecReader) (first second : Element) (moved : Moved first second) (spec : Spec)
    (read : (reader.readElement first).1 = .ok spec) : (reader.readElement second).1 = .ok spec := by
  obtain ⟨start, begun, filled⟩ := (element_read reader first spec).mp read
  have again := (begin_moved reader.source first second moved).symm.trans begun
  have empty := (begin_empty reader.source first start begun).1
  obtain ⟨complete, required⟩ := (fill_succeeds first start).mp ⟨(), spec, filled⟩
  obtain ⟨done, other, also⟩ := (fill_succeeds second start).mpr
    ⟨complete_perm _ _ _ moved.children complete, fun label known =>
      (moved.children.map _).mem_iff.mp (required label known)⟩
  have same : (fun label => named label first.children) = fun label => named label second.children :=
    funext (named_moved _ _ moved.children complete.once moved.decorators)
  have parts := fill_parts start first empty start rfl () spec filled
  have others := fill_parts start second empty start rfl done other also
  rw [same] at parts
  obtain rfl := parts_unique start _ spec other parts others
  exact (element_read reader second spec).mpr ⟨start, again, also⟩

end Reading

open Reading
open Markup (Element)

-- Two roots with the same fields, in any order and on any lines, of which the decorators are in the same order.
structure Markup.Element.Shuffled (first second : Element) : Prop where
  name : first.name = second.name
  attributes : first.attributes = second.attributes
  fields : (first.children.map Element.unlined).Perm (second.children.map Element.unlined)
  decorators : (named "attribute" first.children).map Element.unlined =
    (named "attribute" second.children).map Element.unlined

theorem named_unlined (label : Text) (elements : List Element) :
    named label (elements.map Element.unlined) = (named label elements).map Element.unlined := by
  unfold named
  rw [List.filter_map]
  exact congrArg (List.map _) (List.filter_congr fun element _ => by simp)

theorem shuffled_symm (first second : Element) (shuffled : first.Shuffled second) : second.Shuffled first :=
  ⟨shuffled.name.symm, shuffled.attributes.symm, shuffled.fields.symm, shuffled.decorators.symm⟩

theorem shuffled_moved (first second : Element) (shuffled : first.Shuffled second) :
    Moved first.unlined second.unlined where
  name := by simpa using shuffled.name
  attributes := by simpa using shuffled.attributes
  line := by simp
  children := by simpa using shuffled.fields
  decorators := by simpa [named_unlined] using shuffled.decorators

theorem read_shuffled (reader : SpecReader) (first second : Element) (shuffled : first.Shuffled second) (spec : Spec)
    (read : (reader.readElement first).1 = .ok spec) :
    ∃ twin, (reader.readElement second).1 = .ok twin ∧ spec.unlined = twin.unlined := by
  have bare : (reader.readElement first.unlined).1 = .ok spec.unlined := by rw [read_element_unlined, read]; rfl
  have moved := read_element_moved reader _ _ (shuffled_moved first second shuffled) _ bare
  rw [read_element_unlined] at moved
  cases also : (reader.readElement second).1 with
  | error misshape =>
      rw [also] at moved
      cases moved
  | ok twin =>
      rw [also] at moved
      exact ⟨twin, rfl, (Except.ok.inj moved).symm⟩

-- Two specifications that differ in lines at most, with what becomes of them.
structure Spec.Twins (first second : Spec) : Prop where
  same : first.unlined = second.unlined
  verdict : first.validate = .ok () ↔ second.validate = .ok ()
  rejection : first.validate.mapError Rejection.unlined = second.validate.mapError Rejection.unlined
  module : ∀ text, first.render = .ok text ↔ second.render = .ok text

theorem ok_alike {ε α : Type} (change : ε → ε) (first second : Except ε α)
    (same : first.mapError change = second.mapError change) (value : α) : first = .ok value ↔ second = .ok value := by
  cases first <;> cases second <;> simp_all [Except.mapError]

theorem twins_of_unlined (first second : Spec) (same : first.unlined = second.unlined) : first.Twins second := by
  have verdicts : first.validate.mapError Rejection.unlined = second.validate.mapError Rejection.unlined :=
    (Validation.verdict_alike first).symm.trans (same ▸ Validation.verdict_alike second)
  have modules : first.render.mapError Failure.unlined = second.render.mapError Failure.unlined :=
    (render_unlined first).symm.trans (same ▸ render_unlined second)
  exact ⟨same, ok_alike _ _ _ verdicts (), verdicts, ok_alike _ _ _ modules⟩

/-- Of two documents with the same fields in any order, decorators apart, both are read or neither is. What is read is
the same but for lines; both are accepted or neither is, for the same violation; and the same module is written. -/
theorem field_order_decides_nothing (reader : SpecReader) (first second : Element) (shuffled : first.Shuffled second) :
    (∃ spec twin, (reader.readElement first).1 = .ok spec ∧ (reader.readElement second).1 = .ok twin ∧
      spec.Twins twin) ∨
    ∃ misshape other, (reader.readElement first).1 = .error misshape ∧
      (reader.readElement second).1 = .error other := by
  cases read : (reader.readElement first).1 with
  | ok spec =>
      obtain ⟨twin, also, same⟩ := read_shuffled reader first second shuffled spec read
      exact .inl ⟨spec, twin, rfl, also, twins_of_unlined spec twin same⟩
  | error misshape =>
      cases also : (reader.readElement second).1 with
      | ok twin =>
          obtain ⟨spec, again, _⟩ := read_shuffled reader second first (shuffled_symm first second shuffled) twin also
          rw [read] at again
          cases again
      | error other => exact .inr ⟨misshape, other, rfl, rfl⟩

-- A lantern with two decorators, and the same lantern with its states in front of them.
def lanternStates (line : Nat) : Element :=
  .mk "states" [] line [.element (.mk "state" [("name", "Lit")] line [])]

def lanternRoot : Element :=
  .mk "deterministic_state_machine" [("name", "Lantern")] 1
    [.element (.mk "attribute" [] 2 [.text "first"]), .element (.mk "attribute" [] 3 [.text "second"]),
      .element (.mk "context" [("type", "list")] 4 []), .element (lanternStates 5)]

def turnedLanternRoot : Element :=
  .mk "deterministic_state_machine" [("name", "Lantern")] 1
    [.element (lanternStates 2), .element (.mk "attribute" [] 3 [.text "first"]),
      .element (.mk "attribute" [] 4 [.text "second"]), .element (.mk "context" [("type", "list")] 5 [])]

theorem lantern_order_free :
    lanternRoot.Shuffled turnedLanternRoot ∧ ∃ spec twin, (SpecReader.readElement {} lanternRoot).1 = .ok spec ∧
      (SpecReader.readElement {} turnedLanternRoot).1 = .ok twin ∧ spec.Twins twin := by
  have shuffled : lanternRoot.Shuffled turnedLanternRoot := by
    refine ⟨rfl, rfl, ?_, rfl⟩
    have turned : ((lanternRoot.children.take 3).map Element.unlined ++ [(lanternStates 2).unlined]).Perm
        ([(lanternStates 2).unlined] ++ (lanternRoot.children.take 3).map Element.unlined) := List.perm_append_comm
    exact turned
  refine ⟨shuffled, ?_⟩
  rcases field_order_decides_nothing {} lanternRoot turnedLanternRoot shuffled with read | ⟨_, _, refused, _⟩
  · exact read
  · cases refused

end Statewright
