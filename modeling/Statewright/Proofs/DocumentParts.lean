import Statewright.Proofs.DocumentGrammar

/-!
Parts of documents. Each part of a specification that is read is what its reader gives of an element of its own, and
the parts of one kind stand in the order of their elements.
-/
set_option autoImplicit false

namespace Statewright

theorem Text.strip_blank (text : Text) (stripped : strip text = []) : blank text = true := by
  have ends : ∀ c ∈ text.dropWhile isBlank, isBlank c = true := by
    simpa [strip, dropEndWhile, List.dropWhile_eq_nil_iff] using stripped
  have none_ : text.dropWhile isBlank = [] := by
    cases left : text.dropWhile isBlank with
    | nil => rfl
    | cons c rest =>
        have first := List.head?_dropWhile_not isBlank text
        rw [left] at ends first
        exact absurd (ends c List.mem_cons_self) (Bool.not_eq_true _ ▸ first)
  exact List.all_eq_true.mpr (List.dropWhile_eq_nil_iff.mp none_)

namespace Reading

open List (Forall₂)
open Markup (Element)
open Filling (shape)
open Validation (bind_eq_ok pure_eq_ok)

def named (label : Text) (elements : List Element) : List Element := elements.filter (·.name == label)

theorem named_own (label : Text) (elements : List Element) (element : Element) (same : element.name = label) :
    named label (elements ++ [element]) = named label elements ++ [element] := by
  simp [named, same]

theorem named_other (label : Text) (elements : List Element) (element : Element) (apart : element.name ≠ label) :
    named label (elements ++ [element]) = named label elements := by
  simp [named, apart]

theorem named_all (label : Text) (elements : List Element) (all : ∀ element ∈ elements, element.name = label) :
    named label elements = elements :=
  List.filter_eq_self.mpr fun element member => by simp [all element member]

def Gives {α : Type} (read : Element → Shape α) (element : Element) (value : α) : Prop := read element = .ok value

section

variable {α : Type} {read : Element → Shape α}

theorem gives_more (elements : List Element) (values : List α) (element : Element) (value : α)
    (all : Forall₂ (Gives read) elements values) (one : read element = .ok value) :
    Forall₂ (Gives read) (elements ++ [element]) (values ++ [value]) :=
  List.rel_append all (.cons one .nil)

theorem gives_map {β : Type} (elements : List Element) (values : List α) (of_ : α → β) (also : Element → β)
    (all : Forall₂ (Gives read) elements values)
    (same : ∀ element value, read element = .ok value → of_ value = also element) :
    values.map of_ = elements.map also := by
  induction all with
  | nil => rfl
  | cons one _ ih => rw [List.map_cons, List.map_cons, same _ _ one, ih]

theorem gives_source (elements : List Element) (values : List α) (all : Forall₂ (Gives read) elements values) :
    ∀ value ∈ values, ∃ element ∈ elements, read element = .ok value := by
  induction all with
  | nil => simp
  | cons one _ ih =>
      refine List.forall_mem_cons.mpr ⟨⟨_, List.mem_cons_self, one⟩, fun value member => ?_⟩
      obtain ⟨element, among, own⟩ := ih value member
      exact ⟨element, List.mem_cons_of_mem _ among, own⟩

theorem mapM_gives (elements : List Element) (values : List α) (done : elements.mapM read = .ok values) :
    Forall₂ (Gives read) elements values := by
  induction elements generalizing values with
  | nil =>
      obtain rfl := (pure_eq_ok _ _).mp done
      exact .nil
  | cons element rest ih =>
      simp only [List.mapM_cons, bind_eq_ok] at done
      obtain ⟨value, first, others, remaining, whole⟩ := done
      obtain rfl := (pure_eq_ok _ _).mp whole
      exact .cons first (ih others remaining)

-- Elements that are read one by one if they have the one name that may stand here.
theorem mapM_named (label : Text) (elements : List Element) (values : List α) (stray : Element → Misshape)
    (done : (elements.mapM fun element => if element.name == label then read element else .error (stray element)) =
      .ok values) : Forall₂ (Gives read) (named label elements) values := by
  have each := mapM_gives _ _ done
  have both : Forall₂ (fun element value => element.name = label ∧ read element = .ok value) elements values := by
    refine each.imp fun element value own => ?_
    dsimp only [Gives] at own
    split at own
    · exact ⟨eq_of_beq ‹_›, own⟩
    · cases own
  obtain ⟨all, own⟩ := (List.forall₂_and_left elements values).mp both
  rwa [named_all label elements all]

-- What a fold has gathered so far follows the elements that it has gone through.
theorem foldlM_gathers (elements before : List Element) (step : α → Element → Shape α) (start result : α)
    (gathered : List Element → α → Prop) (begun : gathered before start)
    (each : ∀ done element value next, gathered done value → step value element = .ok next →
      gathered (done ++ [element]) next)
    (done : elements.foldlM step start = .ok result) : gathered (before ++ elements) result := by
  induction elements generalizing before start with
  | nil =>
      obtain rfl := (pure_eq_ok _ _).mp done
      rwa [List.append_nil]
  | cons element rest ih =>
      simp only [List.foldlM_cons, bind_eq_ok] at done
      obtain ⟨next, first, remaining⟩ := done
      have further := ih (before ++ [element]) next (each before element start next begun first) remaining
      rwa [List.append_assoc] at further

end

/-! Parts of elements. -/

theorem require_gives (element : Element) (key meaning value : Text) (read : require element key meaning = .ok value) :
    value ≠ [] ∧ value = Text.strip ((element.attribute? key).getD []) := by
  unfold require at read
  cases given : element.attribute? key with
  | none =>
      rw [given] at read
      cases read
  | some text =>
      rw [given] at read
      dsimp only at read
      split at read
      · cases read
      · rename_i filled
        obtain rfl := Except.ok.inj read
        exact ⟨fun none_ => filled (Text.strip_blank text none_), rfl⟩

theorem trait_method_gives (element : Element) (method : Method) (read : traitMethod element = .ok method) :
    method.body = body element ∧ method.line = element.line := by
  simp only [traitMethod, bind_eq_ok] at read
  obtain ⟨_, _, _, _, _, _, _, _, whole⟩ := read
  obtain rfl := (pure_eq_ok _ _).mp whole
  exact ⟨rfl, rfl⟩

theorem impl_gives (element : Element) (method : Method) (read : impl element = .ok method) :
    method.body = body element ∧ method.line = element.line := by
  simp only [impl, bind_eq_ok] at read
  obtain ⟨_, _, _, _, name, _, isAsync, _, whole⟩ := read
  split at whole
  · simp [flawed] at whole
  · obtain rfl := (pure_eq_ok _ _).mp whole
    exact ⟨rfl, rfl⟩

def transition (kind : Kind) (owner : Text) (element : Element) : Shape Transition :=
  match kind with
  | .deterministic => stateMethod owner element
  | .eventDriven => reaction owner element

theorem transition_gives (kind : Kind) (owner : Text) (element : Element) (one : Transition)
    (read : transition kind owner element = .ok one) : one.body = body element ∧ one.line = element.line := by
  cases kind with
  | deterministic =>
      simp only [transition, stateMethod, bind_eq_ok] at read
      obtain ⟨_, _, _, _, trigger, _, whole⟩ := read
      obtain rfl := (pure_eq_ok _ _).mp whole
      exact ⟨rfl, rfl⟩
  | eventDriven =>
      simp only [transition, reaction, bind_eq_ok] at read
      obtain ⟨_, _, _, _, whole⟩ := read
      split at whole
      · simp [flawed, bind_eq_ok] at whole
      · split at whole
        · simp [flawed, bind_eq_ok] at whole
        · simp only [bind_eq_ok] at whole
          obtain ⟨trigger, _, whole⟩ := whole
          obtain rfl := (pure_eq_ok _ _).mp whole
          exact ⟨rfl, rfl⟩

theorem catch_all_gives (element : Element) (one : CatchAll) (read : catchAll element = .ok one) :
    one.body = body element ∧ one.line = element.line := by
  simp only [catchAll, bind_eq_ok] at read
  obtain ⟨_, _, _, _, whole⟩ := read
  split at whole
  · simp [flawed] at whole
  · obtain rfl := (pure_eq_ok _ _).mp whole
    exact ⟨rfl, rfl⟩

def undecorated (text : Text) : Text :=
  match Text.strip text with
  | '@' :: rest => Text.strip rest
  | text => text

theorem decorator_gives (element : Element) (text : Text) (read : decorator element = .ok text) :
    text = undecorated element.leadingText := by
  simp only [decorator, bind_eq_ok] at read
  obtain ⟨_, _, whole⟩ := read
  unfold undecorated
  split at whole
  · cases whole
  · rename_i rest stripped
    rw [stripped]
    exact ((pure_eq_ok _ _).mp whole).symm
  · rename_i plain
    obtain rfl := (pure_eq_ok _ _).mp whole
    split
    · rename_i rest stripped
      exact absurd stripped (plain rest)
    · rfl

structure TraitParts (element : Element) (one : Trait) : Prop where
  line : one.line = element.line
  methods : Forall₂ (Gives traitMethod) (named "method" element.children) one.methods

theorem trait_parts (element : Element) (one : Trait) (read : trait_ element = .ok one) : TraitParts element one := by
  simp only [trait_, bind_eq_ok] at read
  obtain ⟨_, _, name, _, methods, each, whole⟩ := read
  obtain rfl := (pure_eq_ok _ _).mp whole
  exact ⟨rfl, mapM_named _ _ _ _ each⟩

structure EnumerationParts (element : Element) (one : Enumeration) : Prop where
  line : one.line = element.line
  attributes : Forall₂ (Gives decorator) (named "attribute" element.children) one.attributes

theorem enumeration_parts (element : Element) (one : Enumeration) (read : enumeration element = .ok one) :
    EnumerationParts element one := by
  simp only [enumeration, bind_eq_ok] at read
  obtain ⟨_, _, name, _, attributes, each, whole⟩ := read
  obtain rfl := (pure_eq_ok _ _).mp whole
  exact ⟨rfl, mapM_named _ _ _ _ each⟩

structure StateParts (kind : Kind) (children : List Element) (owner : Text) (line : Nat) (one : State) : Prop where
  name : one.name = owner
  line : one.line = line
  fields : Forall₂ (Gives field) (named "field" children) one.fields
  impls : Forall₂ (Gives impl) (named "impl" children) one.impls
  transitions : Forall₂ (Gives (transition kind owner)) (named (transitionTag kind) children) one.transitions

theorem state_part_gathers (kind : Kind) (name : Text) (line : Nat) (done : List Element) (child : Element)
    (one next : State) (parts : StateParts kind done name line one) (read : statePart kind one child = .ok next) :
    StateParts kind (done ++ [child]) name line next := by
  have tag : transitionTag kind ≠ Text.fixed "field" ∧ transitionTag kind ≠ Text.fixed "impl" := by
    cases kind <;> decide
  unfold statePart at read
  by_cases isField : child.name = Text.fixed "field"
  · rw [if_pos (by simpa using isField), bind_eq_ok] at read
    obtain ⟨part, own, whole⟩ := read
    obtain rfl := (pure_eq_ok _ _).mp whole
    refine ⟨parts.name, parts.line, ?_, ?_, ?_⟩
    · rw [named_own _ _ _ isField]
      exact gives_more _ _ _ _ parts.fields own
    · rw [named_other _ _ _ (by rw [isField]; decide)]
      exact parts.impls
    · rw [named_other _ _ _ (by rw [isField]; exact tag.1.symm)]
      exact parts.transitions
  by_cases isImpl : child.name = Text.fixed "impl"
  · rw [if_neg (by simpa using isField), if_pos (by simpa using isImpl), bind_eq_ok] at read
    obtain ⟨part, own, whole⟩ := read
    obtain rfl := (pure_eq_ok _ _).mp whole
    refine ⟨parts.name, parts.line, ?_, ?_, ?_⟩
    · rw [named_other _ _ _ isField]
      exact parts.fields
    · rw [named_own _ _ _ isImpl]
      exact gives_more _ _ _ _ parts.impls own
    · rw [named_other _ _ _ (by rw [isImpl]; exact tag.2.symm)]
      exact parts.transitions
  by_cases isTransition : child.name = transitionTag kind
  · rw [if_neg (by simpa using isField), if_neg (by simpa using isImpl), if_pos (by simpa using isTransition)] at read
    have whole : (transition kind name child >>= fun part =>
        pure { one with transitions := one.transitions ++ [part] }) = .ok next := by
      rw [← read, ← parts.name]
      cases kind <;> rfl
    obtain ⟨part, own, whole⟩ := (bind_eq_ok _ _ _).mp whole
    obtain rfl := (pure_eq_ok _ _).mp whole
    refine ⟨parts.name, parts.line, ?_, ?_, ?_⟩
    · rw [named_other _ _ _ isField]
      exact parts.fields
    · rw [named_other _ _ _ isImpl]
      exact parts.impls
    · rw [named_own _ _ _ isTransition]
      exact gives_more _ _ _ _ parts.transitions own
  · rw [if_neg (by simpa using isField), if_neg (by simpa using isImpl), if_neg (by simpa using isTransition)] at read
    cases read

theorem state_named (kind : Kind) (element : Element) (one : State) (read : state kind element = .ok one) :
    ∃ name, require element "name" "state name" = .ok name ∧
      StateParts kind element.children name element.line one := by
  simp only [state, bind_eq_ok] at read
  obtain ⟨_, _, name, given, each⟩ := read
  exact ⟨name, given, foldlM_gathers element.children [] _ _ one (fun done => StateParts kind done name element.line)
    ⟨rfl, rfl, .nil, .nil, .nil⟩ (state_part_gathers kind name element.line) each⟩

theorem state_parts (kind : Kind) (element : Element) (one : State) (read : state kind element = .ok one) :
    StateParts kind element.children one.name element.line one := by
  obtain ⟨name, _, parts⟩ := state_named kind element one read
  exact parts.name ▸ parts

structure EventParts (children : List Element) (owner : Text) (line : Nat) (one : Event) : Prop where
  name : one.name = owner
  line : one.line = line
  fields : Forall₂ (Gives field) (named "field" children) one.fields
  impls : Forall₂ (Gives impl) (named "impl" children) one.impls

theorem event_part_gathers (name : Text) (line : Nat) (done : List Element) (child : Element) (one next : Event)
    (parts : EventParts done name line one) (read : eventPart one child = .ok next) :
    EventParts (done ++ [child]) name line next := by
  unfold eventPart at read
  by_cases isField : child.name = Text.fixed "field"
  · rw [if_pos (by simpa using isField), bind_eq_ok] at read
    obtain ⟨part, own, whole⟩ := read
    obtain rfl := (pure_eq_ok _ _).mp whole
    refine ⟨parts.name, parts.line, ?_, ?_⟩
    · rw [named_own _ _ _ isField]
      exact gives_more _ _ _ _ parts.fields own
    · rw [named_other _ _ _ (by rw [isField]; decide)]
      exact parts.impls
  by_cases isImpl : child.name = Text.fixed "impl"
  · rw [if_neg (by simpa using isField), if_pos (by simpa using isImpl), bind_eq_ok] at read
    obtain ⟨part, own, whole⟩ := read
    obtain rfl := (pure_eq_ok _ _).mp whole
    refine ⟨parts.name, parts.line, ?_, ?_⟩
    · rw [named_other _ _ _ isField]
      exact parts.fields
    · rw [named_own _ _ _ isImpl]
      exact gives_more _ _ _ _ parts.impls own
  · rw [if_neg (by simpa using isField), if_neg (by simpa using isImpl)] at read
    cases read

theorem event_labelled (element : Element) (one : Event) (read : event element = .ok one) :
    element.name = Text.fixed "event" := by
  unfold event at read
  split at read
  · simp [flawed, bind_eq_ok] at read
  · rename_i named
    simpa using named

theorem event_named (element : Element) (one : Event) (read : event element = .ok one) :
    ∃ name, require element "name" "event name" = .ok name ∧ EventParts element.children name element.line one := by
  unfold event at read
  split at read
  · simp [flawed, bind_eq_ok] at read
  · simp only [bind_eq_ok] at read
    obtain ⟨_, _, name, given, each⟩ := read
    exact ⟨name, given, foldlM_gathers element.children [] _ _ one (fun done => EventParts done name element.line)
      ⟨rfl, rfl, .nil, .nil⟩ (event_part_gathers name element.line) each⟩

theorem event_parts (element : Element) (one : Event) (read : event element = .ok one) :
    EventParts element.children one.name element.line one := by
  obtain ⟨name, _, parts⟩ := event_named element one read
  exact parts.name ▸ parts

/-! Filling. -/

section

variable {α : Type}

-- A loop that never breaks off goes through its items one by one.
theorem leads_walk (items before : List α) (step : α → PUnit → Filling (ForInStep PUnit)) (holds : List α → Spec → Prop)
    (each : ∀ done item, Leads (holds done) (step item PUnit.unit) fun turn spec =>
      turn = .yield PUnit.unit ∧ holds (done ++ [item]) spec) :
    Leads (holds before) (forIn items PUnit.unit step) fun _ => holds (before ++ items) := by
  induction items generalizing before with
  | nil =>
      rw [List.append_nil]
      exact leads_return _ fun _ start => start
  | cons item rest ih =>
      rw [List.forIn_cons]
      refine leads_bind _ _ (each before item) fun turn => ?_
      rintro spec ⟨rfl, start⟩
      have further := ih (before ++ [item])
      rw [List.append_assoc] at further
      exact further spec start

end

-- The states and the fallbacks that stand among the elements.
structure StatesFilled (kind : Kind) (before : Spec) (elements : List Element) (states : List State)
    (catchAlls : List CatchAll) : Prop where
  same : before.kind = kind
  states : Forall₂ (Gives (state kind)) (named "state" elements) states
  catchAlls : Forall₂ (Gives catchAll) (named "catch_all" elements) catchAlls

theorem fill_states_gathers (kind : Kind) (element : Element) (before : Spec) (same : before.kind = kind) :
    Leads (· = before) (fillStates element) fun _ after => ∃ states catchAlls,
      StatesFilled kind before element.children states catchAlls ∧
      after = { before with states := before.states ++ states, catchAlls := before.catchAlls ++ catchAlls } := by
  let gathered (done : List Element) (after : Spec) : Prop := ∃ states catchAlls,
    StatesFilled kind before done states catchAlls ∧
      after = { before with states := before.states ++ states, catchAlls := before.catchAlls ++ catchAlls }
  have begun : ∀ spec, spec = before → gathered [] spec := by
    rintro spec rfl
    exact ⟨[], [], ⟨same, .nil, .nil⟩, by simp⟩
  refine leads_bind _ _ (leads_shape _) fun _ => leads_bind _ _
    (leads_stronger _ (leads_walk element.children [] _ gathered fun done child => ?_) begun) fun _ =>
      leads_return _ fun _ held => held
  refine leads_bind _ _ leads_got fun spec => leads_given _ ?_
  rintro ⟨_, _, filled, rfl⟩
  by_cases isState : child.name = Text.fixed "state"
  · rw [if_pos (by simpa using isState)]
    refine leads_bind _ _ (leads_value _) fun one => leads_given _ fun own => ?_
    refine leads_bind _ _ (leads_modify _ fun spec held => ?_) fun _ => leads_return _ fun _ held => ⟨rfl, held⟩
    obtain ⟨states, catchAlls, filled, rfl⟩ := held
    refine ⟨states ++ [one], catchAlls, ⟨same, ?_, ?_⟩, by simp⟩
    · rw [named_own _ _ _ isState]
      exact gives_more _ _ _ _ filled.states (same ▸ own)
    · rw [named_other _ _ _ (by rw [isState]; decide)]
      exact filled.catchAlls
  rw [if_neg (by simpa using isState)]
  by_cases isCatchAll : child.name = Text.fixed "catch_all"
  · split
    · refine leads_bind _ _ (leads_value _) fun one => leads_given _ fun own => ?_
      refine leads_bind _ _ (leads_modify _ fun spec held => ?_) fun _ => leads_return _ fun _ held => ⟨rfl, held⟩
      obtain ⟨states, catchAlls, filled, rfl⟩ := held
      refine ⟨states, catchAlls ++ [one], ⟨same, ?_, ?_⟩, by simp⟩
      · rw [named_other _ _ _ isState]
        exact filled.states
      · rw [named_own _ _ _ isCatchAll]
        exact gives_more _ _ _ _ filled.catchAlls own
    · exact leads_stopped _ _ _
  · rw [if_neg (by simp [isCatchAll])]
    exact leads_stopped _ _ _

theorem fill_events_gathers (element : Element) (before : Spec) :
    Leads (· = before) (fillEvents element) fun _ after => ∃ events,
      Forall₂ (Gives event) (named "event" element.children) events ∧
        after = { before with declaredEvents := before.declaredEvents ++ events } := by
  let gathered (done : List Element) (after : Spec) : Prop := ∃ events,
    Forall₂ (Gives event) (named "event" done) events ∧
      after = { before with declaredEvents := before.declaredEvents ++ events }
  have begun : ∀ spec, spec = before → gathered [] spec := by
    rintro spec rfl
    exact ⟨[], .nil, by simp⟩
  refine leads_bind _ _ (leads_shape _) fun _ => leads_bind _ _
    (leads_stronger _ (leads_walk element.children [] _ gathered fun done child => ?_) begun) fun _ =>
      leads_return _ fun _ held => held
  refine leads_bind _ _ (leads_value _) fun one => leads_given _ fun own => ?_
  refine leads_bind _ _ (leads_modify _ fun spec held => ?_) fun _ => leads_return _ fun _ held => ⟨rfl, held⟩
  obtain ⟨events, each, rfl⟩ := held
  refine ⟨events ++ [one], ?_, by simp⟩
  rw [named_own _ _ _ (event_labelled child one own)]
  exact gives_more _ _ _ _ each own

-- What the filling of one field does to the specification that is held.
inductive Fills (kind : Kind) (element : Element) (before : Spec) : Spec → Prop
  | decorated (one : Text) (label : element.name = Text.fixed "attribute") (read : decorator element = .ok one) :
      Fills kind element before { before with attributes := before.attributes ++ [one] }
  | opened (label : element.name = Text.fixed "prelude") :
      Fills kind element before { before with prelude := body element }
  | context (type : Text) (label : element.name = Text.fixed "context")
      (read : require element "type" "context type name" = .ok type) :
      Fills kind element before { before with context := type }
  | stateTrait (one : Trait) (label : element.name = Text.fixed "state_trait") (read : trait_ element = .ok one) :
      Fills kind element before { before with stateTrait := some one }
  | eventTrait (one : Trait) (label : element.name = Text.fixed "event_trait") (read : trait_ element = .ok one) :
      Fills kind element before { before with eventTrait := some one }
  | stateEnum (one : Enumeration) (label : element.name = Text.fixed "state_enum")
      (read : enumeration element = .ok one) :
      Fills kind element before { before with stateEnum := some one }
  | eventEnum (one : Enumeration) (label : element.name = Text.fixed "event_enum")
      (read : enumeration element = .ok one) :
      Fills kind element before { before with eventEnum := some one }
  | states (states : List State) (catchAlls : List CatchAll) (label : element.name = Text.fixed "states")
      (filled : StatesFilled kind before element.children states catchAlls) :
      Fills kind element before
        { before with states := before.states ++ states, catchAlls := before.catchAlls ++ catchAlls }
  | events (events : List Event) (label : element.name = Text.fixed "events")
      (each : Forall₂ (Gives event) (named "event" element.children) events) :
      Fills kind element before { before with declaredEvents := before.declaredEvents ++ events }

theorem fill_field_fills (kind : Kind) (element : Element) (allowed : element.name ∈ allowedFields kind) (before : Spec)
    (same : before.kind = kind) :
    Leads (· = before) (fillField element) fun _ after => Fills kind element before after := by
  have once : ∀ {α : Type} (outcome : Shape α) (change : α → Spec → Spec),
      (∀ value, outcome = .ok value → Fills kind element before (change value before)) →
        Leads (· = before) (do let value ← shape outcome; modify (change value))
          fun _ => Fills kind element before := by
    intro α outcome change fills
    refine leads_bind _ _ (leads_value outcome) fun value => leads_given _ fun read => leads_modify _ ?_
    rintro spec rfl
    exact fills value read
  unfold fillField
  dsimp only
  split
  · exact once _ _ fun one => .decorated one (eq_of_beq ‹_›)
  split
  · exact once _ _ fun _ _ => .opened (eq_of_beq ‹_›)
  split
  · exact leads_bind _ _ (leads_shape _) fun _ => once _ _ fun type => .context type (eq_of_beq ‹_›)
  split
  · exact once _ _ fun one => .stateTrait one (eq_of_beq ‹_›)
  split
  · exact once _ _ fun one => .eventTrait one (eq_of_beq ‹_›)
  split
  · exact once _ _ fun one => .stateEnum one (eq_of_beq ‹_›)
  split
  · exact once _ _ fun one => .eventEnum one (eq_of_beq ‹_›)
  split
  · refine leads_further _ (fill_states_gathers kind element before same) fun _ after held => ?_
    obtain ⟨states, catchAlls, filled, rfl⟩ := held
    exact .states states catchAlls (eq_of_beq ‹_›) filled
  · refine leads_further _ (fill_events_gathers element before) fun _ after held => ?_
    obtain ⟨events, each, rfl⟩ := held
    refine .events events ?_ each
    cases kind <;> simp_all [allowedFields, commonFields, eventDrivenFields]

theorem fill_fields_seen (kind : Kind) (seen : List Text) (elements : List Element) :
    Leads (fun _ => True) (fillFields kind seen elements) fun all _ => all = (elements.map (·.name)).reverse ++ seen := by
  induction elements generalizing seen with
  | nil => exact leads_return _ fun _ _ => rfl
  | cons element rest ih =>
      rw [fillFields]
      dsimp only
      split
      · split <;> exact leads_stopped _ _ _
      split
      · exact leads_stopped _ _ _
      · refine leads_bind _ _ (leads_any _) fun _ => leads_further _ (ih _) fun all _ whole => ?_
        simp [whole]

/-! Parts of a machine. -/

def typeName (element : Element) : Text := Text.strip ((element.attribute? "type").getD [])

-- The specification has been filled by the elements that stand at each label, and by nothing else.
structure Parts (start : Spec) (at_ : Text → List Element) (spec : Spec) : Prop where
  same : spec.kind = start.kind
  name : spec.name = start.name
  visibility : spec.visibility = start.visibility
  isAsync : spec.isAsync = start.isAsync
  source : spec.source = start.source
  line : spec.line = start.line
  context : spec.context = (at_ "context").flatMap typeName
  typed : ∀ element ∈ at_ "context", typeName element ≠ []
  attributes : Forall₂ (Gives decorator) (at_ "attribute") spec.attributes
  prelude : spec.prelude = (at_ "prelude").flatMap body
  stateTrait : Forall₂ (Gives trait_) (at_ "state_trait") spec.stateTrait.toList
  eventTrait : Forall₂ (Gives trait_) (at_ "event_trait") spec.eventTrait.toList
  stateEnum : Forall₂ (Gives enumeration) (at_ "state_enum") spec.stateEnum.toList
  eventEnum : Forall₂ (Gives enumeration) (at_ "event_enum") spec.eventEnum.toList
  states : Forall₂ (Gives (state spec.kind)) ((at_ "states").flatMap fun element => named "state" element.children)
    spec.states
  catchAlls : Forall₂ (Gives catchAll) ((at_ "states").flatMap fun element => named "catch_all" element.children)
    spec.catchAlls
  declaredEvents : Forall₂ (Gives event) ((at_ "events").flatMap fun element => named "event" element.children)
    spec.declaredEvents

-- One more element at its label, which may stand there once unless it is a decorator.
def placing (at_ : Text → List Element) (element : Element) : Text → List Element :=
  Function.update at_ element.name (at_ element.name ++ [element])

theorem placing_named (elements : List Element) (element : Element) :
    placing (fun label => named label elements) element = fun label => named label (elements ++ [element]) := by
  funext label
  by_cases same : element.name = label
  · subst same
    rw [placing, Function.update_self, named_own _ _ _ rfl]
  · rw [placing, Function.update_of_ne (Ne.symm same), named_other _ _ _ same]

theorem fills_parts (start : Spec) (at_ : Text → List Element) (element : Element) (before after : Spec)
    (parts : Parts start at_ before) (once : element.name ≠ Text.fixed "attribute" → at_ element.name = [])
    (fills : Fills before.kind element before after) : Parts start (placing at_ element) after := by
  have within (outer inner : Text) :
      (at_ outer ++ [element]).flatMap (fun element => named inner element.children) =
        (at_ outer).flatMap (fun element => named inner element.children) ++ named inner element.children := by
    rw [List.flatMap_append, List.flatMap_singleton]
  unfold placing
  cases fills with
  | decorated one label read =>
      rw [label]
      exact { parts with attributes := gives_more _ _ _ _ parts.attributes read }
  | opened label =>
      rw [label] at once ⊢
      rw [once (by decide)]
      exact { parts with prelude := (List.append_nil _).symm }
  | context type label read =>
      rw [label] at once ⊢
      rw [once (by decide)]
      obtain ⟨filled, rfl⟩ := require_gives _ _ _ _ read
      exact { parts with context := (List.append_nil _).symm, typed := List.forall_mem_singleton.mpr filled }
  | stateTrait one label read =>
      rw [label] at once ⊢
      rw [once (by decide)]
      exact { parts with stateTrait := .cons read .nil }
  | eventTrait one label read =>
      rw [label] at once ⊢
      rw [once (by decide)]
      exact { parts with eventTrait := .cons read .nil }
  | stateEnum one label read =>
      rw [label] at once ⊢
      rw [once (by decide)]
      exact { parts with stateEnum := .cons read .nil }
  | eventEnum one label read =>
      rw [label] at once ⊢
      rw [once (by decide)]
      exact { parts with eventEnum := .cons read .nil }
  | states states catchAlls label filled =>
      rw [label]
      exact { parts with
        states := (within "states" "state").symm ▸ List.rel_append parts.states filled.states
        catchAlls := (within "states" "catch_all").symm ▸ List.rel_append parts.catchAlls filled.catchAlls }
  | events events label each =>
      rw [label]
      exact { parts with
        declaredEvents := (within "events" "event").symm ▸ List.rel_append parts.declaredEvents each }

theorem fill_fields_parts (start : Spec) (seen : List Text) (done rest : List Element)
    (known : ∀ element ∈ done, element.name ∈ seen) :
    Leads (Parts start fun label => named label done) (fillFields start.kind seen rest) fun _ =>
      Parts start fun label => named label (done ++ rest) := by
  induction rest generalizing seen done with
  | nil =>
      rw [List.append_nil]
      exact leads_return _ fun _ parts => parts
  | cons element rest ih =>
      rw [fillFields]
      dsimp only
      by_cases allowed : element.name ∈ allowedFields start.kind
      · rw [if_neg (by simpa using allowed)]
        split
        · exact leads_stopped _ _ _
        · rename_i again
          have once : element.name ≠ Text.fixed "attribute" → named element.name done = [] := by
            intro apart
            have fresh : element.name ∉ seen := by simpa [apart] using again
            exact List.filter_eq_nil_iff.mpr fun other member same => fresh (eq_of_beq same ▸ known other member)
          have filled : Leads (Parts start fun label => named label done) (fillField element) fun _ =>
              Parts start fun label => named label (done ++ [element]) := by
            intro before parts value after ran
            rw [← placing_named]
            exact fills_parts start _ element before after parts once
              (fill_field_fills before.kind element (parts.same ▸ allowed) before rfl before rfl value after ran)
          have further := ih (element.name :: seen) (done ++ [element]) ?_
          · rw [List.append_assoc] at further
            exact leads_bind _ _ filled fun _ => further
          · rw [List.forall_mem_append, List.forall_mem_singleton]
            exact ⟨fun other member => List.mem_cons_of_mem _ (known other member), List.mem_cons_self⟩
      · rw [if_pos (by simpa using allowed)]
        split <;> exact leads_stopped _ _ _

theorem fill_parts (start : Spec) (root : Element) (empty : Parts start (fun _ => []) start) :
    Leads (· = start) (fill root) fun _ => Parts start fun label => named label root.children := by
  refine leads_bind _ _ leads_got fun held => leads_given _ fun same => ?_
  subst same
  have begun : ∀ spec, spec = held → Parts held (fun label => named label []) spec := by
    rintro spec rfl
    exact empty
  refine leads_bind _ _ (leads_stronger _ (fill_fields_parts held [] [] root.children nofun) begun) fun seen => ?_
  cases (requiredFields held.kind).find? fun label => !seen.contains label with
  | some label => exact leads_bind _ _ leads_get fun _ => leads_flawed _ _
  | none => exact leads_return _ fun _ parts => parts

-- A machine that is filled has the fields that its kind requires.
theorem fill_required (kind : Kind) (root : Element) :
    Leads (fun spec => spec.kind = kind) (fill root) fun _ _ =>
      ∀ label ∈ requiredFields kind, ∃ element ∈ root.children, element.name = label := by
  refine leads_bind _ _ leads_got fun start => leads_given _ ?_
  rintro rfl
  refine leads_bind _ _ (leads_stronger _ (fill_fields_seen start.kind [] root.children) fun _ _ => trivial) fun seen => ?_
  cases missing : (requiredFields start.kind).find? fun label => !seen.contains label with
  | some label => exact leads_bind _ _ leads_get fun _ => leads_flawed _ _
  | none =>
      refine leads_return _ ?_
      rintro spec rfl label required
      simpa using List.find?_eq_none.mp missing label required

theorem begin_gives (source : Option Text) (root : Element) (start : Spec) (begun : begin source root = .ok start) :
    ∃ kind name visibility isAsync, require root "name" "machine name" = .ok name ∧
      start = { kind, name, visibility, isAsync, source, line := root.line } := by
  unfold begin at begun
  cases tagged : kindOfTag? root.name with
  | none => simp [tagged, flawed] at begun
  | some kind =>
      simp only [tagged, bind_eq_ok] at begun
      obtain ⟨_, _, name, given, rest⟩ := begun
      split at rest
      · simp [bind_eq_ok, flawed] at rest
      · simp only [bind_eq_ok] at rest
        obtain ⟨isAsync, _, rest⟩ := rest
        split at rest
        · simp [flawed] at rest
        · exact ⟨kind, name, _, _, given, ((pure_eq_ok _ _).mp rest).symm⟩

-- What is filled is empty at first.
theorem begin_empty (source : Option Text) (root : Element) (start : Spec) (begun : begin source root = .ok start) :
    Parts start (fun _ => []) start ∧ start.line = root.line := by
  obtain ⟨kind, name, visibility, isAsync, _, rfl⟩ := begin_gives source root start begun
  exact ⟨⟨rfl, rfl, rfl, rfl, rfl, rfl, rfl, nofun, .nil, rfl, .nil, .nil, .nil, .nil, .nil, .nil, .nil⟩, rfl⟩

theorem read_parts (text : Text) (source : Option Text) (spec : Spec) (read : Spec.read text source = .ok spec)
    (root : Element) (parsed : Markup.read text = .ok root) :
    spec.line = root.line ∧
      ∃ start, begin source root = .ok start ∧ Parts start (fun label => named label root.children) spec := by
  obtain ⟨other, start, done, same, begun, filled⟩ := read_filled text source spec read
  obtain rfl : other = root := Except.ok.inj (same.symm.trans parsed)
  obtain ⟨empty, line⟩ := begin_empty source other start begun
  have parts := fill_parts start other empty start rfl done spec filled
  exact ⟨parts.line.trans line, start, begun, parts⟩

theorem read_required (text : Text) (source : Option Text) (spec : Spec) (read : Spec.read text source = .ok spec)
    (root : Element) (parsed : Markup.read text = .ok root) :
    ∀ label ∈ requiredFields spec.kind, ∃ element ∈ root.children, element.name = label := by
  obtain ⟨other, start, done, same, begun, filled⟩ := read_filled text source spec read
  obtain rfl : other = root := Except.ok.inj (same.symm.trans parsed)
  obtain ⟨_, again, also, parts⟩ := read_parts text source spec read other parsed
  obtain rfl : again = start := Except.ok.inj (also.symm.trans begun)
  rw [parts.same]
  exact fill_required again.kind other again rfl done spec filled

theorem read_parsed (text : Text) (source : Option Text) (root : Element) (parsed : Markup.read text = .ok root) :
    Spec.read text source = (SpecReader.readElement ⟨none, source⟩ root).1 := by
  rw [Spec.read, SpecReader.read, parsed]

end Reading

end Statewright
