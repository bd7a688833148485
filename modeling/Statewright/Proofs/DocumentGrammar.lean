import Mathlib
import Statewright.Proofs.ReadSpecs

/-!
The grammar of documents, as data beside the readers that enforce it. A document that is read has no element and no
attribute that the grammar does not list, but for three gaps: attributes of a decorator or of the prelude, and elements
inside the context, are passed over.
-/
set_option autoImplicit false

namespace Statewright.Reading

open Markup (Element)
open Filling (shape)
open Validation (bind_eq_ok pure_eq_ok)

-- What an element of a document is read as.
inductive Place where
  | machine
  | decorator
  | prelude
  | context
  | trait_
  | traitMethod
  | enumeration
  | states
  | state
  | field
  | impl
  | stateMethod
  | reaction
  | catchAll
  | events
  | event
deriving DecidableEq

namespace Place

-- The attributes that the grammar lists.
def keys : Place → List Text
  | machine => ["name", "visibility", "async"]
  | context => ["type"]
  | trait_ => ["name", "bases"]
  | traitMethod => ["name", "params", "returns", "async"]
  | field => ["name", "type", "default", "factory"]
  | impl => ["name", "async"]
  | stateMethod => ["name", "target", "params"]
  | reaction => ["event", "target"]
  | enumeration | state | event => ["name"]
  | decorator | prelude | states | catchAll | events => []

-- The elements that the grammar allows inside, with what each of them is read as.
def inside (kind : Kind) : Place → List (Text × Place)
  | machine =>
    ("attribute", decorator) :: ("prelude", prelude) :: ("context", context) :: ("state_trait", trait_) ::
      ("states", states) ::
      match kind with
      | .deterministic => []
      | .eventDriven =>
        [("state_enum", enumeration), ("event_enum", enumeration), ("event_trait", trait_), ("events", events)]
  | trait_ => [("method", traitMethod)]
  | enumeration => [("attribute", decorator)]
  | states =>
    ("state", state) ::
      match kind with
      | .deterministic => []
      | .eventDriven => [("catch_all", catchAll)]
  | state =>
    [("field", field), ("impl", impl),
      match kind with
      | .deterministic => ("method", stateMethod)
      | .eventDriven => ("on", reaction)]
  | events => [("event", event)]
  | event => [("field", field), ("impl", impl)]
  | decorator | prelude | context | traitMethod | field | impl | stateMethod | reaction | catchAll => []

-- The gaps: where a reader looks at no attributes, and where it looks at no elements.
def readsAttributes : Place → Bool
  | decorator | prelude => false
  | _ => true

def readsElements : Place → Bool
  | context => false
  | _ => true

end Place

-- An element below the root of a document stands where the grammar allows one of its name.
inductive Stands (kind : Kind) (root : Element) : Place → Element → Prop
  | root : Stands kind root .machine root
  | child (place inner : Place) (element child : Element) (outer : Stands kind root place element)
      (member : child ∈ element.children) (allowed : (place.inside kind).lookup child.name = some inner) :
      Stands kind root inner child

structure Conforms (kind : Kind) (place : Place) (element : Element) : Prop where
  attributes : ∀ entry ∈ element.attributes, entry.1 ∈ place.keys
  elements : ∀ child ∈ element.children, child.name ∈ (place.inside kind).map Prod.fst

-- As a reader looks at it.
structure Heeded (kind : Kind) (place : Place) (element : Element) : Prop where
  attributes : place.readsAttributes = true → ∀ entry ∈ element.attributes, entry.1 ∈ place.keys
  elements : place.readsElements = true → ∀ child ∈ element.children, child.name ∈ (place.inside kind).map Prod.fst

-- The element is heeded, and so is everything below it that stands in a place.
inductive Admits (kind : Kind) : Place → Element → Prop
  | element (place : Place) (element : Element)
      (attributes : place.readsAttributes = true → ∀ entry ∈ element.attributes, entry.1 ∈ place.keys)
      (known : place.readsElements = true → ∀ child ∈ element.children,
        ((place.inside kind).lookup child.name).isSome = true)
      (within : ∀ child ∈ element.children, ∀ inner, (place.inside kind).lookup child.name = some inner →
        Admits kind inner child) :
      Admits kind place element

-- What the gaps let through is not there: a decorator or a prelude with attributes, or a context with elements.
def Spare (kind : Kind) (root : Element) : Prop :=
  ∀ place element, Stands kind root place element →
    (place = .decorator ∨ place = .prelude → element.attributes = []) ∧ (place = .context → element.children = [])

/-! Readers of elements. -/

theorem attributes_eq_ok (element : Element) (allowed : List Text) :
    checkAttributes element allowed = .ok () ↔ ∀ entry ∈ element.attributes, entry.1 ∈ allowed := by
  unfold checkAttributes
  generalize found : List.find? _ element.attributes = stray
  cases stray with
  | none => simpa [List.find?_eq_none] using found
  | some entry =>
      have stray := List.find?_some found
      have member := List.mem_of_find?_eq_some found
      refine iff_of_false (by simp [flawed]) fun all => ?_
      simp [all entry member] at stray

theorem no_children_eq_ok (element : Element) : noChildren element = .ok () ↔ element.children = [] := by
  unfold noChildren
  cases element.children <;> simp [flawed]

theorem mem_of_lookup {β : Type} (entries : List (Text × β)) (key : Text) (value : β)
    (found : entries.lookup key = some value) : (key, value) ∈ entries := by
  obtain ⟨before, after, listed, _⟩ := List.lookup_eq_some_iff.mp found
  simp [listed]

theorem mapM_reads {α : Type} (items : List Element) (read : Element → Shape α) (values : List α)
    (done : items.mapM read = .ok values) : ∀ item ∈ items, ∃ value, read item = .ok value := by
  induction items generalizing values with
  | nil => simp
  | cons item rest ih =>
      simp only [List.mapM_cons, bind_eq_ok] at done
      obtain ⟨value, first, others, remaining, _⟩ := done
      rw [List.forall_mem_cons]
      exact ⟨⟨value, first⟩, ih others remaining⟩

theorem foldlM_reads {α : Type} (items : List Element) (step : α → Element → Shape α) (start result : α)
    (done : items.foldlM step start = .ok result) : ∀ item ∈ items, ∃ before after, step before item = .ok after := by
  induction items generalizing start with
  | nil => simp
  | cons item rest ih =>
      simp only [List.foldlM_cons, bind_eq_ok] at done
      obtain ⟨next, first, remaining⟩ := done
      rw [List.forall_mem_cons]
      exact ⟨⟨start, next, first⟩, ih next remaining⟩

section

variable {kind : Kind} (element : Element)

-- An element with nothing but code inside.
theorem leaf_admits (place : Place)
    (attributes : place.readsAttributes = true → checkAttributes element place.keys = .ok ())
    (bare : noChildren element = .ok ()) : Admits kind place element := by
  have childless := (no_children_eq_ok element).mp bare
  refine .element place element (fun reads => (attributes_eq_ok element _).mp (attributes reads)) ?_ ?_
  · simp [childless]
  · simp [childless]

-- An element whose children are read one by one.
theorem branch_admits (place : Place) (attributes : checkAttributes element place.keys = .ok ())
    (children : ∀ child ∈ element.children, ∃ inner, (place.inside kind).lookup child.name = some inner ∧
      Admits kind inner child) : Admits kind place element := by
  refine .element place element (fun _ => (attributes_eq_ok element _).mp attributes) ?_ ?_
  · intro _ child member
    obtain ⟨inner, found, _⟩ := children child member
    simp [found]
  · intro child member inner allowed
    obtain ⟨other, found, admits⟩ := children child member
    rw [found] at allowed
    exact Option.some.inj allowed ▸ admits

theorem decorator_admits (text : Text) (read : decorator element = .ok text) : Admits kind .decorator element := by
  simp only [decorator, bind_eq_ok] at read
  obtain ⟨_, bare, _⟩ := read
  exact leaf_admits element .decorator (by simp [Place.readsAttributes]) bare

theorem trait_method_admits (method : Method) (read : traitMethod element = .ok method) :
    Admits kind .traitMethod element := by
  simp only [traitMethod, bind_eq_ok] at read
  obtain ⟨_, attributes, _, bare, _⟩ := read
  exact leaf_admits element .traitMethod (fun _ => attributes) bare

theorem impl_admits (method : Method) (read : impl element = .ok method) : Admits kind .impl element := by
  simp only [impl, bind_eq_ok] at read
  obtain ⟨_, attributes, _, bare, _⟩ := read
  exact leaf_admits element .impl (fun _ => attributes) bare

theorem field_admits (one : Field) (read : field element = .ok one) : Admits kind .field element := by
  simp only [field, bind_eq_ok] at read
  obtain ⟨_, attributes, _, bare, _⟩ := read
  exact leaf_admits element .field (fun _ => attributes) bare

theorem state_method_admits (owner : Text) (transition : Transition)
    (read : stateMethod owner element = .ok transition) : Admits kind .stateMethod element := by
  simp only [stateMethod, bind_eq_ok] at read
  obtain ⟨_, attributes, _, bare, _⟩ := read
  exact leaf_admits element .stateMethod (fun _ => attributes) bare

theorem reaction_admits (owner : Text) (transition : Transition) (read : reaction owner element = .ok transition) :
    Admits kind .reaction element := by
  simp only [reaction, bind_eq_ok] at read
  obtain ⟨_, attributes, _, bare, _⟩ := read
  exact leaf_admits element .reaction (fun _ => attributes) bare

theorem catch_all_admits (one : CatchAll) (read : catchAll element = .ok one) : Admits kind .catchAll element := by
  simp only [catchAll, bind_eq_ok] at read
  obtain ⟨_, attributes, _, bare, _⟩ := read
  exact leaf_admits element .catchAll (fun _ => attributes) bare

theorem trait_admits (one : Trait) (read : trait_ element = .ok one) : Admits kind .trait_ element := by
  simp only [trait_, bind_eq_ok] at read
  obtain ⟨_, attributes, name, _, methods, each, _⟩ := read
  refine branch_admits element .trait_ attributes fun child member => ?_
  obtain ⟨method, own⟩ := mapM_reads _ _ _ each child member
  by_cases named : child.name = Text.fixed "method"
  · rw [if_pos (by simpa using named)] at own
    exact ⟨.traitMethod, by rw [named]; rfl, trait_method_admits child method own⟩
  · rw [if_neg (by simpa using named)] at own
    cases own

theorem enumeration_admits (one : Enumeration) (read : enumeration element = .ok one) :
    Admits kind .enumeration element := by
  simp only [enumeration, bind_eq_ok] at read
  obtain ⟨_, attributes, name, _, texts, each, _⟩ := read
  refine branch_admits element .enumeration attributes fun child member => ?_
  obtain ⟨text, own⟩ := mapM_reads _ _ _ each child member
  by_cases named : child.name = Text.fixed "attribute"
  · rw [if_pos (by simpa using named)] at own
    exact ⟨.decorator, by rw [named]; rfl, decorator_admits child text own⟩
  · rw [if_neg (by simpa using named)] at own
    cases own

theorem state_part_admits (before after : State) (read : statePart kind before element = .ok after) :
    ∃ inner, (Place.inside kind .state).lookup element.name = some inner ∧ Admits kind inner element := by
  unfold statePart at read
  by_cases isField : element.name = Text.fixed "field"
  · rw [if_pos (by simpa using isField), bind_eq_ok] at read
    obtain ⟨one, own, _⟩ := read
    exact ⟨.field, by rw [isField]; rfl, field_admits element one own⟩
  by_cases isImpl : element.name = Text.fixed "impl"
  · rw [if_neg (by simpa using isField), if_pos (by simpa using isImpl), bind_eq_ok] at read
    obtain ⟨one, own, _⟩ := read
    exact ⟨.impl, by rw [isImpl]; rfl, impl_admits element one own⟩
  by_cases isTransition : element.name = transitionTag kind
  · rw [if_neg (by simpa using isField), if_neg (by simpa using isImpl), if_pos (by simpa using isTransition)] at read
    cases kind with
    | deterministic =>
        obtain ⟨one, own, _⟩ := (bind_eq_ok _ _ _).mp read
        exact ⟨.stateMethod, by rw [isTransition]; rfl, state_method_admits element _ one own⟩
    | eventDriven =>
        obtain ⟨one, own, _⟩ := (bind_eq_ok _ _ _).mp read
        exact ⟨.reaction, by rw [isTransition]; rfl, reaction_admits element _ one own⟩
  · rw [if_neg (by simpa using isField), if_neg (by simpa using isImpl), if_neg (by simpa using isTransition)] at read
    cases read

theorem state_admits (one : State) (read : state kind element = .ok one) : Admits kind .state element := by
  simp only [state, bind_eq_ok] at read
  obtain ⟨_, attributes, name, _, each⟩ := read
  refine branch_admits element .state attributes fun child member => ?_
  obtain ⟨before, after, own⟩ := foldlM_reads _ _ _ _ each child member
  exact state_part_admits child before after own

theorem event_part_admits (before after : Event) (read : eventPart before element = .ok after) :
    ∃ inner, (Place.inside kind .event).lookup element.name = some inner ∧ Admits kind inner element := by
  unfold eventPart at read
  by_cases isField : element.name = Text.fixed "field"
  · rw [if_pos (by simpa using isField), bind_eq_ok] at read
    obtain ⟨one, own, _⟩ := read
    exact ⟨.field, by rw [isField]; rfl, field_admits element one own⟩
  by_cases isImpl : element.name = Text.fixed "impl"
  · rw [if_neg (by simpa using isField), if_pos (by simpa using isImpl), bind_eq_ok] at read
    obtain ⟨one, own, _⟩ := read
    exact ⟨.impl, by rw [isImpl]; rfl, impl_admits element one own⟩
  · rw [if_neg (by simpa using isField), if_neg (by simpa using isImpl)] at read
    cases read

theorem event_admits (one : Event) (read : event element = .ok one) :
    element.name = Text.fixed "event" ∧ Admits kind .event element := by
  unfold event at read
  by_cases named : element.name = Text.fixed "event"
  · rw [if_neg (by simpa using named)] at read
    simp only [bind_eq_ok] at read
    obtain ⟨_, attributes, name, _, each⟩ := read
    refine ⟨named, branch_admits element .event attributes fun child member => ?_⟩
    obtain ⟨before, after, own⟩ := foldlM_reads _ _ _ _ each child member
    exact event_part_admits child before after own
  · rw [if_pos (by simpa using named)] at read
    cases read

end

/-! Filling. -/

section

variable {kind : Kind} (element : Element)

theorem leads_kept (change : Spec → Spec) (kept : ∀ spec, (change spec).kind = spec.kind) :
    Leads (fun spec => spec.kind = kind) (modify change) fun _ spec => spec.kind = kind :=
  leads_modify change fun spec same => (kept spec).trans same

theorem leads_once {α : Type} (outcome : Shape α) (change : α → Spec → Spec) {fact : Prop}
    (kept : ∀ value spec, (change value spec).kind = spec.kind) (implied : ∀ value, outcome = .ok value → fact) :
    Leads (fun spec => spec.kind = kind) (do let value ← shape outcome; modify (change value))
      fun _ spec => spec.kind = kind ∧ fact := by
  refine leads_bind _ _ (leads_value outcome) fun value => leads_given _ fun read => ?_
  exact leads_modify _ fun spec held => ⟨(kept value spec).trans held, implied value read⟩

theorem fill_states_admits :
    Leads (fun spec => spec.kind = kind) (fillStates element) fun _ spec =>
      spec.kind = kind ∧ Admits kind .states element := by
  have turn : ∀ {fact : Prop}, fact → Leads (fun spec => spec.kind = kind) (pure (ForInStep.yield PUnit.unit))
      fun turn spec => spec.kind = kind ∧ turn = .yield PUnit.unit ∧ fact :=
    fun held => leads_return _ fun _ same => ⟨same, rfl, held⟩
  refine leads_bind _ _ (leads_value _) fun _ => leads_given _ fun attributes => ?_
  refine leads_bind _ _ (leads_each element.children _ (fun child => ∃ inner,
      (Place.inside kind .states).lookup child.name = some inner ∧ Admits kind inner child) fun child => ?_)
    fun _ => leads_return _ fun _ ⟨same, each⟩ => ⟨same, branch_admits element .states attributes each⟩
  refine leads_bind _ _ leads_got fun spec => leads_given _ fun same => ?_
  subst same
  by_cases isState : child.name = Text.fixed "state"
  · rw [if_pos (by simpa using isState)]
    refine leads_bind _ _ (leads_value _) fun one => leads_given _ fun own => ?_
    refine leads_bind _ _ (leads_kept _ fun _ => rfl) fun _ => turn ⟨.state, ?_, state_admits child one own⟩
    rw [isState]
    rfl
  rw [if_neg (by simpa using isState)]
  by_cases isCatchAll : child.name = Text.fixed "catch_all" ∧ spec.kind = .eventDriven
  · rw [if_pos (by simpa [Spec.isEventDriven] using isCatchAll)]
    refine leads_bind _ _ (leads_value _) fun one => leads_given _ fun own => ?_
    refine leads_bind _ _ (leads_kept _ fun _ => rfl) fun _ =>
      turn ⟨.catchAll, ?_, catch_all_admits child one own⟩
    rw [isCatchAll.1, isCatchAll.2]
    rfl
  · rw [if_neg (by simpa [Spec.isEventDriven] using isCatchAll)]
    exact leads_stopped _ _ _

theorem fill_events_admits :
    Leads (fun spec => spec.kind = kind) (fillEvents element) fun _ spec =>
      spec.kind = kind ∧ Admits kind .events element := by
  refine leads_bind _ _ (leads_value _) fun _ => leads_given _ fun attributes => ?_
  refine leads_bind _ _ (leads_each element.children _ (fun child => ∃ inner,
      (Place.inside kind .events).lookup child.name = some inner ∧ Admits kind inner child) fun child => ?_)
    fun _ => leads_return _ fun _ ⟨same, each⟩ => ⟨same, branch_admits element .events attributes each⟩
  refine leads_bind _ _ (leads_value _) fun one => leads_given _ fun own => ?_
  obtain ⟨named, admits⟩ : child.name = Text.fixed "event" ∧ Admits kind .event child :=
    event_admits child one own
  refine leads_bind _ _ (leads_kept _ fun _ => rfl) fun _ => leads_return _ fun _ same => ?_
  exact ⟨same, rfl, .event, by rw [named]; rfl, admits⟩

-- A field is read as what its name stands for inside the machine.
theorem field_placed (label : Text) (place : Place) (named : element.name = label) (admits : Admits kind place element)
    (sole : ∀ inner, (Place.inside kind .machine).lookup label = some inner → inner = place) (inner : Place)
    (allowed : (Place.inside kind .machine).lookup element.name = some inner) : Admits kind inner element := by
  rw [named] at allowed
  exact sole inner allowed ▸ admits

theorem field_once {α : Type} (outcome : Shape α) (change : α → Spec → Spec) (label : Text) (place : Place)
    (named : (element.name == label) = true) (kept : ∀ value spec, (change value spec).kind = spec.kind)
    (admits : ∀ value, outcome = .ok value → Admits kind place element)
    (sole : ∀ inner, (Place.inside kind .machine).lookup label = some inner → inner = place) :
    Leads (fun spec => spec.kind = kind) (do let value ← shape outcome; modify (change value)) fun _ spec =>
      spec.kind = kind ∧
        ∀ inner, (Place.inside kind .machine).lookup element.name = some inner → Admits kind inner element :=
  leads_once outcome change kept fun value read =>
    field_placed element label place (eq_of_beq named) (admits value read) sole

theorem fill_field_admits :
    Leads (fun spec => spec.kind = kind) (fillField element) fun _ spec => spec.kind = kind ∧
      ∀ inner, (Place.inside kind .machine).lookup element.name = some inner → Admits kind inner element := by
  unfold fillField
  dsimp only
  split
  · exact field_once element _ _ _ .decorator ‹_› (fun _ _ => rfl) (decorator_admits element) (by cases kind <;> decide)
  split
  · refine field_once element _ _ _ .prelude ‹_› (fun _ _ => rfl) (fun _ bare => ?_) (by cases kind <;> decide)
    exact leaf_admits element .prelude (by simp [Place.readsAttributes]) bare
  split
  · refine leads_bind _ _ (leads_value _) fun _ => leads_given _ fun attributes => ?_
    refine field_once element _ _ _ .context ‹_› (fun _ _ => rfl) (fun _ _ => ?_) (by cases kind <;> decide)
    exact .element .context element (fun _ => (attributes_eq_ok element _).mp attributes)
      (by simp [Place.readsElements]) (by simp [Place.inside])
  split
  · exact field_once element _ _ _ .trait_ ‹_› (fun _ _ => rfl) (trait_admits element) (by cases kind <;> decide)
  split
  · exact field_once element _ _ _ .trait_ ‹_› (fun _ _ => rfl) (trait_admits element) (by cases kind <;> decide)
  split
  · exact field_once element _ _ _ .enumeration ‹_› (fun _ _ => rfl) (enumeration_admits element) (by cases kind <;> decide)
  split
  · exact field_once element _ _ _ .enumeration ‹_› (fun _ _ => rfl) (enumeration_admits element) (by cases kind <;> decide)
  split
  · exact leads_further _ (fill_states_admits element) fun _ _ ⟨same, admits⟩ =>
      ⟨same, field_placed element _ .states (eq_of_beq ‹_›) admits (by cases kind <;> decide)⟩
  · refine leads_further _ (fill_events_admits element) fun _ _ ⟨same, admits⟩ => ⟨same, fun inner allowed => ?_⟩
    have listed := mem_of_lookup _ _ _ allowed
    have own : inner = .events := by
      clear allowed
      cases kind <;> simp_all [Place.inside]
    exact own ▸ admits

end

theorem allowed_fields_placed (kind : Kind) (label : Text) (allowed : label ∈ allowedFields kind) :
    ((Place.inside kind .machine).lookup label).isSome = true := by
  have all : ∀ label ∈ allowedFields kind, ((Place.inside kind .machine).lookup label).isSome = true := by
    cases kind <;> decide
  exact all label allowed

theorem fill_fields_admits (kind : Kind) (seen : List Text) (elements : List Element) :
    Leads (fun spec => spec.kind = kind) (fillFields kind seen elements) fun _ spec => spec.kind = kind ∧
      ∀ element ∈ elements, ∃ inner, (Place.inside kind .machine).lookup element.name = some inner ∧
        Admits kind inner element := by
  induction elements generalizing seen with
  | nil => exact leads_return _ fun _ same => ⟨same, by simp⟩
  | cons element rest ih =>
      rw [fillFields]
      dsimp only
      by_cases allowed : element.name ∈ allowedFields kind
      · rw [if_neg (by simpa using allowed)]
        split
        · exact leads_stopped _ _ _
        · refine leads_bind _ _ (fill_field_admits element) fun _ => leads_given _ fun own => ?_
          refine leads_further _ (ih _) fun _ _ after => ⟨after.1, List.forall_mem_cons.mpr ⟨?_, after.2⟩⟩
          obtain ⟨inner, found⟩ := Option.isSome_iff_exists.mp (allowed_fields_placed kind element.name allowed)
          exact ⟨inner, found, own inner found⟩
      · rw [if_pos (by simpa using allowed)]
        split <;> exact leads_stopped _ _ _

theorem fill_admits (kind : Kind) (root : Element) :
    Leads (fun spec => spec.kind = kind) (fill root) fun _ spec => spec.kind = kind ∧
      ∀ child ∈ root.children, ∃ inner, (Place.inside kind .machine).lookup child.name = some inner ∧
        Admits kind inner child := by
  refine leads_bind _ _ leads_got fun start => leads_given _ fun same => ?_
  subst same
  refine leads_bind _ _ (fill_fields_admits start.kind [] root.children) fun seen => leads_given _ fun each => ?_
  cases (requiredFields start.kind).find? fun label => !seen.contains label with
  | some label => exact leads_bind _ _ leads_get fun _ => leads_flawed _ _
  | none => exact leads_return _ fun _ same => ⟨same, each⟩

theorem begin_admits (source : Option Text) (root : Element) (start : Spec) (begun : begin source root = .ok start) :
    kindOfTag? root.name = some start.kind ∧ checkAttributes root Place.machine.keys = .ok () := by
  unfold begin at begun
  cases tagged : kindOfTag? root.name with
  | none => simp [tagged, flawed] at begun
  | some kind =>
      simp only [tagged, bind_eq_ok] at begun
      obtain ⟨_, attributes, name, _, rest⟩ := begun
      refine ⟨?_, attributes⟩
      split at rest
      · simp [bind_eq_ok, flawed] at rest
      · simp only [bind_eq_ok] at rest
        obtain ⟨isAsync, _, rest⟩ := rest
        split at rest
        · simp [flawed] at rest
        · obtain rfl := (pure_eq_ok _ _).mp rest
          rfl

end Statewright.Reading

namespace Statewright

open Reading
open Markup (Element)

theorem read_admits (text : Text) (source : Option Text) (spec : Spec) (read : Spec.read text source = .ok spec)
    (root : Element) (parsed : Markup.read text = .ok root) :
    kindOfTag? root.name = some spec.kind ∧ Admits spec.kind .machine root := by
  obtain ⟨other, start, done, same, begun, filled⟩ := read_filled text source spec read
  obtain rfl : other = root := Except.ok.inj (same.symm.trans parsed)
  obtain ⟨tagged, attributes⟩ := begin_admits source other start begun
  obtain ⟨kind, children⟩ := fill_admits start.kind other start rfl done spec filled
  rw [kind]
  exact ⟨tagged, branch_admits other .machine attributes children⟩

-- Whatever stands in a place below an element that is admitted is admitted too.
theorem stands_admitted (kind : Kind) (root : Element) (admits : Admits kind .machine root) (place : Place)
    (element : Element) (stands : Stands kind root place element) : Admits kind place element := by
  induction stands with
  | root => exact admits
  | child place inner element child _ member allowed ih =>
      cases ih with
      | element _ _ _ _ within => exact within child member inner allowed

theorem admits_heeded (kind : Kind) (place : Place) (element : Element) (admits : Admits kind place element) :
    Heeded kind place element := by
  cases admits with
  | element _ _ attributes known _ =>
      refine ⟨attributes, fun reads child member => ?_⟩
      obtain ⟨inner, found⟩ := Option.isSome_iff_exists.mp (known reads child member)
      exact List.mem_map.mpr ⟨_, mem_of_lookup _ _ _ found, rfl⟩

theorem heeded_conforms (kind : Kind) (place : Place) (element : Element) (heeded : Heeded kind place element)
    (spare : (place = .decorator ∨ place = .prelude → element.attributes = []) ∧
      (place = .context → element.children = [])) : Conforms kind place element where
  attributes := by
    by_cases reads : place.readsAttributes = true
    · exact heeded.attributes reads
    · have gap : place = .decorator ∨ place = .prelude := by
        revert reads
        cases place <;> simp [Place.readsAttributes]
      simp [spare.1 gap]
  elements := by
    by_cases reads : place.readsElements = true
    · exact heeded.elements reads
    · have gap : place = .context := by
        revert reads
        cases place <;> simp [Place.readsElements]
      simp [spare.2 gap]

theorem conforms_spare (kind : Kind) (place : Place) (element : Element) (conforms : Conforms kind place element) :
    (place = .decorator ∨ place = .prelude → element.attributes = []) ∧ (place = .context → element.children = []) := by
  constructor
  · intro gap
    have none_ : place.keys = [] := by rcases gap with rfl | rfl <;> rfl
    have listed := conforms.attributes
    rw [none_] at listed
    exact List.eq_nil_iff_forall_not_mem.mpr fun entry member => absurd (listed entry member) List.not_mem_nil
  · rintro rfl
    exact List.eq_nil_iff_forall_not_mem.mpr fun child member =>
      absurd (conforms.elements child member) List.not_mem_nil

/-- A document that is read has, at any depth, only elements and attributes that the grammar lists, but for the gaps:
everything in it conforms exactly if no decorator and no prelude has attributes and the context is empty. A document
with an unknown root, or with an element or attribute that the grammar does not list anywhere else, is refused. -/
theorem stray_markup_refused (text : Text) (source : Option Text) (root : Element)
    (parsed : Markup.read text = .ok root) :
    (∀ spec, Spec.read text source = .ok spec → kindOfTag? root.name = some spec.kind ∧
      (∀ place element, Stands spec.kind root place element → Heeded spec.kind place element) ∧
      ((∀ place element, Stands spec.kind root place element → Conforms spec.kind place element) ↔
        Spare spec.kind root)) ∧
    ((∀ kind, kindOfTag? root.name = some kind → ∃ place element, Stands kind root place element ∧
        ¬ Heeded kind place element) → ∃ misshape, Spec.read text source = .error misshape) := by
  have accepted : ∀ spec, Spec.read text source = .ok spec → kindOfTag? root.name = some spec.kind ∧
      ∀ place element, Stands spec.kind root place element → Heeded spec.kind place element := by
    intro spec read
    obtain ⟨tagged, admits⟩ := read_admits text source spec read root parsed
    exact ⟨tagged, fun place element stands =>
      admits_heeded _ _ _ (stands_admitted spec.kind root admits place element stands)⟩
  constructor
  · intro spec read
    obtain ⟨tagged, heeded⟩ := accepted spec read
    refine ⟨tagged, heeded, fun conforms place element stands => ?_, fun spare place element stands => ?_⟩
    · exact conforms_spare _ _ _ (conforms place element stands)
    · exact heeded_conforms _ _ _ (heeded place element stands) (spare place element stands)
  · intro stray
    cases outcome : Spec.read text source with
    | error misshape => exact ⟨misshape, rfl⟩
    | ok spec =>
        obtain ⟨tagged, heeded⟩ := accepted spec outcome
        obtain ⟨place, element, stands, unheeded⟩ := stray spec.kind tagged
        exact absurd (heeded place element stands) unheeded

-- An oven whose only field has an attribute that no field has, three elements below the root.
def ovenText : Text :=
  "<deterministic_state_machine name=\"Oven\"><context type=\"int\"/><states><state name=\"Hot\">" ++
    "<field name=\"heat\" unit=\"K\"/></state></states></deterministic_state_machine>"

def ovenField : Element := .mk "field" [("name", "heat"), ("unit", "K")] 1 []

def ovenState : Element := .mk "state" [("name", "Hot")] 1 [.element ovenField]

def ovenStates : Element := .mk "states" [] 1 [.element ovenState]

def ovenRoot : Element :=
  .mk "deterministic_state_machine" [("name", "Oven")] 1
    [.element (.mk "context" [("type", "int")] 1 []), .element ovenStates]

theorem oven_unit_refused :
    Markup.read ovenText = .ok ovenRoot ∧ Stands .deterministic ovenRoot .field ovenField ∧
      ∃ misshape, Spec.read ovenText none = .error misshape := by
  have parsed : Markup.read ovenText = .ok ovenRoot := by cbv
  have states : Stands .deterministic ovenRoot .states ovenStates :=
    .child .machine .states ovenRoot ovenStates .root (.tail _ (.head _)) rfl
  have state : Stands .deterministic ovenRoot .state ovenState :=
    .child .states .state ovenStates ovenState states (.head _) rfl
  have field : Stands .deterministic ovenRoot .field ovenField :=
    .child .state .field ovenState ovenField state (.head _) rfl
  refine ⟨parsed, field, (stray_markup_refused ovenText none ovenRoot parsed).2 fun kind tagged => ?_⟩
  obtain rfl : Kind.deterministic = kind := Option.some.inj tagged
  refine ⟨.field, ovenField, field, fun heeded => ?_⟩
  have listed := heeded.attributes rfl ("unit", "K") (.tail _ (.head _))
  revert listed
  decide

-- A heater is read although there is an element inside its context, which the grammar leaves empty.
def heaterText : Text :=
  "<deterministic_state_machine name=\"Heater\"><context type=\"list\"><extra/></context>" ++
    "<states><state name=\"On\"/></states></deterministic_state_machine>"

def heaterContext : Element := .mk "context" [("type", "list")] 1 [.element (.mk "extra" [] 1 [])]

def heaterRoot : Element :=
  .mk "deterministic_state_machine" [("name", "Heater")] 1
    [.element heaterContext, .element (.mk "states" [] 1 [.element (.mk "state" [("name", "On")] 1 [])])]

def heaterSpec : Spec :=
  { kind := .deterministic, name := "Heater", context := "list", states := [{ name := "On", line := 1 }], line := 1 }

theorem heater_read_with_stray_element :
    Spec.read heaterText none = .ok heaterSpec ∧ Markup.read heaterText = .ok heaterRoot ∧
      ∃ place element, Stands heaterSpec.kind heaterRoot place element ∧ ¬ Conforms heaterSpec.kind place element := by
  refine ⟨by decide +kernel, by cbv, .context, heaterContext, ?_, fun conforms => ?_⟩
  · exact .child .machine .context heaterRoot heaterContext .root (.head _) rfl
  · have listed := conforms.elements (.mk "extra" [] 1 []) (.head _)
    cases listed

end Statewright
