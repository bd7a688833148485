import Statewright.Machine.Program
import Statewright.Proofs.FieldLines
import Statewright.Proofs.Identifiers

/-!
States that are made from nothing but the defaults of their fields, as a transition with a target and an empty body makes
them.
-/
set_option autoImplicit false

namespace Statewright

open Validation
open Code (isName Reads readExpression readDeclaration commented declared? field_line_read)

/-! ## Targets -/

-- The target of a transition without a body has a default or a factory for each of its fields.
theorem bare_target_constructible (spec : Spec) (valid : spec.validate = .ok ()) (source state : State)
    (stated : source ∈ spec.states) (declared : state ∈ spec.states) (transition : Transition)
    (carried : transition ∈ source.transitions) (bare : Text.blank transition.body = true)
    (aims : transition.target = some state.name) : ∀ field ∈ state.fields, field.hasDefault = true := by
  obtain ⟨names, kinds, _, _⟩ := (validate_eq_ok spec).mp valid
  have found : spec.state? state.name = some state :=
    find_named State.name spec.states (state_names_distinct spec names) state declared
  have constructible : state.isDefaultConstructible = true := by
    cases kind : spec.kind with
    | deterministic =>
        have checked := (((deterministic_kind_eq_ok spec kind).mp kinds source stated).2 transition carried).destination
        simpa [checkDestination, aims, found, ensure_eq_ok, bare] using checked
    | eventDriven =>
        have owned := owned_transition spec source stated transition carried
        have checked := (((event_driven_kind_eq_ok spec kind).mp kinds).1.2 _ owned).target
        simpa [checkTarget, aims, found, ensure_eq_ok] using checked
  exact List.all_eq_true.mp constructible

namespace Machine

open Program (classes? staysAbstract)

/-! ## Values -/

-- The value of a default. One that is itself a call of `field` stands for what its factory makes.
def Meaning.given (meaning : Meaning) (code : Code.Expr) : Value :=
  match factory? code with
  | some factory => meaning.made factory
  | none => meaning.value code

def declaredValue (meaning : Meaning) (field : Field) : Option Value :=
  match field.default, field.factory with
  | some code, _ => (readExpression code).toOption.map meaning.given
  | none, some code => (readExpression code).toOption.map meaning.made
  | none, none => none

section
variable (meaning : Meaning)

theorem declared_given (field : Field) : (declared? field).map meaning.given = declaredValue meaning field := by
  unfold declared? declaredValue
  cases field.default with
  | some code => rfl
  | none =>
      cases field.factory with
      | none => rfl
      | some code =>
          dsimp only
          cases readExpression code <;> rfl

theorem declared_some (field : Field) (reads : FieldReads field) (given : field.hasDefault = true) :
    ∃ value, declaredValue meaning field = some value := by
  unfold declaredValue
  cases default : field.default with
  | some code =>
      obtain ⟨tree, read⟩ := reads.default code default
      dsimp only
      rw [read]
      exact ⟨_, rfl⟩
  | none =>
      cases factory : field.factory with
      | some code =>
          obtain ⟨tree, read⟩ := reads.factory code factory
          dsimp only
          rw [read]
          exact ⟨_, rfl⟩
      | none => simp [Field.hasDefault, default, factory] at given

theorem default_given (hidden : Bool) (code : Option Code.Expr) (default : Option Value)
    (defined : default? meaning hidden code = some default) : default = code.map meaning.given := by
  unfold default? at defined
  cases code with
  | none => exact (Option.some.inj defined).symm
  | some code =>
      rw [Option.map_some, Meaning.given]
      cases called : factory? code with
      | some factory =>
          simp only [called] at defined
          split at defined
          · cases defined
          · exact (Option.some.inj defined).symm
      | none =>
          simp only [called] at defined
          split at defined
          · exact (Option.some.inj defined).symm
          · cases defined

/-! ## Slots -/

-- What the line of a field should make of it, unless a comment at the end of its type goes on with its default.
def slotFor (owner : Text) (field : Field) : Slot Value :=
  ⟨nameWithin owner field.name, if commented field.type then none else declaredValue meaning field⟩

-- A field of a state that is made from defaults alone. A tuple is no factory, as it cannot be called.
structure Defaulted (field : Field) : Prop where
  named : isName field.name = true
  reads : FieldReads field
  given : field.hasDefault = true
  callable : ∀ code ∈ field.factory, ∀ items, readExpression code ≠ .ok (.sequence items .round)

theorem slots_declared (owner : Text) (hidden : Bool) (fields : List Field) (slots : List (Slot Value))
    (each : ∀ field ∈ fields, Defaulted field) (defined : slotsOf meaning owner hidden fields = some slots) :
    slots = fields.map (slotFor meaning owner) := by
  induction fields generalizing hidden slots with
  | nil => exact (Option.some.inj defined).symm
  | cons field rest ih =>
      obtain ⟨first, others⟩ := List.forall_mem_cons.mp each
      unfold slotsOf at defined
      split at defined
      · cases defined
      · rename_i declared read
        split at defined
        · obtain ⟨default, valued, after⟩ := Option.bind_eq_some_iff.mp defined
          obtain ⟨more, below, same⟩ := Option.bind_eq_some_iff.mp after
          obtain rfl := Option.some.inj same
          obtain ⟨name, value⟩ := field_line_read field first.named first.reads first.given first.callable declared read
          rw [ih _ more others below, List.map_cons, slotFor, name, default_given meaning hidden _ default valued, value,
            apply_ite (Option.map meaning.given), declared_given]
          rfl
        · cases defined

theorem merged_distinct (slots : List (Slot Value)) (distinct : (slots.map (·.name)).Nodup) : merged slots = slots := by
  induction slots with
  | nil => rfl
  | cons slot rest ih =>
      obtain ⟨apart, distinct⟩ := List.nodup_cons.mp distinct
      have others : ∀ other ∈ rest, other.name ≠ slot.name := fun other member same =>
        apart (List.mem_map.mpr ⟨other, member, same⟩)
      have fresh : rest.find? (·.name == slot.name) = none := by simpa using others
      have kept : rest.filter (·.name != slot.name) = rest := by simpa using others
      rw [merged, ih distinct, fresh, kept]
      rfl

theorem class_slots (name : Text) (isAbstract : Bool) (fields : List Field) (dataClass : DataClass)
    (defined : classOf? meaning name isAbstract fields = some dataClass) :
    ∃ slots, slotsOf meaning name false fields = some slots ∧ dataClass = ⟨name, merged slots, isAbstract⟩ := by
  obtain ⟨slots, slotted, ordered⟩ := Option.bind_eq_some_iff.mp defined
  dsimp only at ordered
  split at ordered
  · exact ⟨slots, slotted, (Option.some.inj ordered).symm⟩
  · cases ordered

-- No two fields have one name inside their class.
def Apart (owner : Text) (fields : List Field) : Prop := (fields.map fun field => nameWithin owner field.name).Nodup

instance (owner : Text) (fields : List Field) : Decidable (Apart owner fields) :=
  inferInstanceAs (Decidable (List.Nodup _))

theorem class_declared (name : Text) (isAbstract : Bool) (fields : List Field) (dataClass : DataClass)
    (each : ∀ field ∈ fields, Defaulted field) (apart : Apart name fields)
    (defined : classOf? meaning name isAbstract fields = some dataClass) :
    dataClass = ⟨name, fields.map (slotFor meaning name), isAbstract⟩ := by
  obtain ⟨slots, slotted, rfl⟩ := class_slots meaning name isAbstract fields dataClass defined
  have same := slots_declared meaning name false fields slots each slotted
  have distinct : (slots.map (·.name)).Nodup := by
    rw [same, List.map_map]
    exact apart
  rw [merged_distinct slots distinct, same]

theorem class_name (name : Text) (isAbstract : Bool) (fields : List Field) (dataClass : DataClass)
    (defined : classOf? meaning name isAbstract fields = some dataClass) : dataClass.name = name := by
  obtain ⟨slots, -, rfl⟩ := class_slots meaning name isAbstract fields dataClass defined
  rfl

end

/-! ## Classes -/

theorem mapM_finds {α β : Type} (f : α → Option β) (name : α → Text) (name' : β → Text)
    (kept : ∀ item other, f item = some other → name' other = name item) (items : List α) (others : List β)
    (made : items.mapM f = some others) (item : α) (member : item ∈ items) (distinct : (items.map name).Nodup) :
    ∃ other, f item = some other ∧ others.find? (name' · == name item) = some other := by
  induction items generalizing others with
  | nil => cases member
  | cons first rest ih =>
      rw [List.mapM_cons] at made
      obtain ⟨one, first_, after⟩ := Option.bind_eq_some_iff.mp made
      obtain ⟨more, rest_, same⟩ := Option.bind_eq_some_iff.mp after
      obtain rfl := Option.some.inj same
      obtain ⟨apart, distinct⟩ := List.nodup_cons.mp distinct
      rcases List.mem_cons.mp member with rfl | member
      · exact ⟨one, first_, by simp [kept _ _ first_]⟩
      · obtain ⟨other, found, finds⟩ := ih more rest_ member distinct
        have differs : name first ≠ name item := fun same => apart (same ▸ List.mem_map_of_mem member)
        exact ⟨other, found, by simp [kept _ _ first_, differs, finds]⟩

theorem class_found (meaning : Meaning) (spec : Spec) (distinct : (spec.states.map (·.name)).Nodup) (state : State)
    (declared : state ∈ spec.states) (classes : List DataClass) (loaded : classes? meaning spec = some classes) :
    ∃ dataClass,
      classOf? meaning state.name (staysAbstract spec .state state.name state.impls) state.fields = some dataClass ∧
        classes.find? (·.name == state.name) = some dataClass := by
  obtain ⟨states, made, after⟩ := Option.bind_eq_some_iff.mp loaded
  obtain ⟨events, -, same⟩ := Option.bind_eq_some_iff.mp after
  obtain ⟨dataClass, found, finds⟩ := mapM_finds _ State.name DataClass.name
    (fun item other => class_name meaning _ _ _ other) spec.states states made state declared distinct
  refine ⟨dataClass, found, ?_⟩
  rw [← Option.some.inj same, List.find?_append, finds]
  rfl

theorem bind_nothing (slots : List (Slot Value)) : ({ positional := slots } : Formals Value).bind {} = fillSlots [] [] slots := by
  unfold Formals.bind
  simp [fillSlots, fillPositions, Formals.frontNames]

/-! ## Objects -/

section
variable (meaning : Meaning) (owner : Text) (fields : List Field)

-- The fields of an object that is made without arguments.
def defaults : Locals :=
  fields.map fun field => (nameWithin owner field.name, (declaredValue meaning field).getD .none_)

theorem filled_declared (plain : ∀ field ∈ fields, commented field.type = false) (each : ∀ field ∈ fields, Defaulted field) :
    ∃ bindings, fillSlots [] [] (fields.map (slotFor meaning owner)) = some bindings ∧
      locals bindings = defaults meaning owner fields := by
  induction fields with
  | nil => exact ⟨[], rfl, rfl⟩
  | cons field rest ih =>
      obtain ⟨uncommented, plain⟩ := List.forall_mem_cons.mp plain
      obtain ⟨first, others⟩ := List.forall_mem_cons.mp each
      obtain ⟨bindings, filled, same⟩ := ih plain others
      obtain ⟨value, declared⟩ := declared_some meaning field first.reads first.given
      refine ⟨(nameWithin owner field.name, .one value) :: bindings, ?_, ?_⟩
      · rw [List.map_cons, fillSlots, filled]
        simp [slotFor, uncommented, declared, named?]
      · rw [defaults, List.map_cons, declared]
        exact congrArg _ same

theorem filled_plain (bindings : List (Text × Bound Value))
    (filled : fillSlots [] [] (fields.map (slotFor meaning owner)) = some bindings) :
    ∀ field ∈ fields, commented field.type = false := by
  induction fields generalizing bindings with
  | nil => exact nofun
  | cons field rest ih =>
      rw [List.map_cons, fillSlots] at filled
      cases comment : commented field.type with
      | true => simp [slotFor, comment, named?] at filled
      | false =>
          split at filled
          · obtain ⟨more, below, -⟩ := Option.map_eq_some_iff.mp filled
            exact List.forall_mem_cons.mpr ⟨comment, ih more below⟩
          · cases filled

-- Where all fields have names of their own, each has its declared value.
theorem default_found (apart : Apart owner fields) (field : Field) (member : field ∈ fields) (value : Value)
    (declared : declaredValue meaning field = some value) :
    named? (defaults meaning owner fields) (nameWithin owner field.name) = some value := by
  unfold named? defaults
  have found : fields.find? (nameWithin owner ·.name == nameWithin owner field.name) = some field :=
    find_named (fun field : Field => nameWithin owner field.name) fields apart field member
  rw [List.find?_map, Option.map_map]
  change Option.map _ (fields.find? (nameWithin owner ·.name == nameWithin owner field.name)) = _
  rw [found, Option.map_some]
  simp [declared]

end

theorem created_bare (dataClass : DataClass) :
    dataClass.create {} =
      if dataClass.isAbstract then .error .mismatch
      else match fillSlots [] [] dataClass.slots with
        | some bindings => .ok (.object dataClass.name (locals bindings))
        | none => .error .mismatch := by
  have bound : dataClass.formals.bind {} = fillSlots [] [] dataClass.slots := bind_nothing dataClass.slots
  unfold DataClass.create
  cases filled : fillSlots [] [] dataClass.slots <;> simp [bound, filled]

-- A state as a bare target makes it, from the class that stands under its name.
theorem state_created (meaning : Meaning) (spec : Spec) (distinct : (spec.states.map (·.name)).Nodup) (state : State)
    (declared : state ∈ spec.states) (classes : List DataClass) (loaded : classes? meaning spec = some classes)
    (each : ∀ field ∈ state.fields, Defaulted field) (apart : Apart state.name state.fields) :
    createIn classes state.name {} =
      if staysAbstract spec .state state.name state.impls then .error .mismatch
      else match fillSlots [] [] (state.fields.map (slotFor meaning state.name)) with
        | some bindings => .ok (.object state.name (locals bindings))
        | none => .error .mismatch := by
  obtain ⟨dataClass, defined, found⟩ := class_found meaning spec distinct state declared classes loaded
  rw [createIn, found]
  dsimp only
  rw [created_bare, class_declared meaning _ _ _ dataClass each apart defined]

theorem target_defaulted (spec : Spec) (valid : spec.validate = .ok ()) (source state : State)
    (stated : source ∈ spec.states) (declared : state ∈ spec.states) (transition : Transition)
    (carried : transition ∈ source.transitions) (bare : Text.blank transition.body = true)
    (aims : transition.target = some state.name)
    (callable : ∀ field ∈ state.fields, ∀ code ∈ field.factory, ∀ items, readExpression code ≠ .ok (.sequence items .round)) :
    ∀ field ∈ state.fields, Defaulted field := by
  obtain ⟨names, -, -, fragments⟩ := (validate_eq_ok spec).mp valid
  have coded := (fragments_eq_ok spec).mp fragments
  intro field member
  exact ⟨((names_eq_ok spec).mp names).fields state declared field member, (coded.states state declared).fields.each field member,
    bare_target_constructible spec valid source state stated declared transition carried bare aims field member,
    callable field member⟩

-- A jar is filled from its defaults.
def grams : Field := { name := "grams", type := "int", default := some "3" }

def labels : Field := { name := "labels", type := "list  ", factory := some "list" }

def fullJar : State := { name := "Full", fields := [grams, labels] }

def fill : Transition := { source := "Empty", trigger := "fill", target := some "Full" }

def emptyJar : State := { name := "Empty", transitions := [fill] }

def jarSpec (full : State) : Spec :=
  { kind := .deterministic, name := "Jar", context := "list", states := [emptyJar, full] }

-- A comment at the end of the type hides the default from the class.
def unsureJar : State := { name := "Full", fields := [{ name := "grams", type := "int  # net", default := some "3" }] }

end Machine

end Statewright
