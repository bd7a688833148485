import Statewright.Machine.Stage
import Statewright.Proofs.DispatchCases
import Statewright.Proofs.DispatchRules
import Statewright.Proofs.ModuleClasses

/-!
Laws of the enumerations around states and events: what they wrap and what they refuse, which of their values are equal,
and that a machine does the same with an event and with its wrapped form.
-/
set_option autoImplicit false

namespace Statewright.Machine

open Emission.EventDriven (Parts)

/-! Equality. -/

-- Two lists of fields have equal values under the same names.
def EqualFields : List (Text × Value) → List (Text × Value) → Prop :=
  List.Forall₂ fun one other => one.1 = other.1 ∧ one.2.same other.2 = true

theorem same_fields_iff (one other : List (Text × Value)) : Value.sameFields one other = true ↔ EqualFields one other := by
  induction one generalizing other with
  | nil =>
      cases other with
      | nil => simp [Value.sameFields, EqualFields]
      | cons field rest => simp [Value.sameFields, EqualFields]
  | cons field rest ih =>
      cases other with
      | nil => simp [Value.sameFields, EqualFields]
      | cons field' rest' =>
          rw [EqualFields, List.forall₂_cons, Value.sameFields]
          simp only [Bool.and_eq_true, beq_iff_eq, ih]
          exact Iff.rfl

-- Equality is an equivalence among the values of a kind.
def Comparable (kind : Value → Prop) : Prop :=
  Equivalence fun one other : { value // kind value } => one.1.same other.1 = true

namespace EqualFields

variable {kind : Value → Prop} (comparable : Comparable kind)

include comparable

theorem refl (fields : List (Text × Value)) (within : ∀ field ∈ fields, kind field.2) : EqualFields fields fields :=
  List.forall₂_same.mpr fun field member => ⟨rfl, comparable.refl ⟨field.2, within field member⟩⟩

theorem symm (one other : List (Text × Value)) (first : ∀ field ∈ one, kind field.2)
    (second : ∀ field ∈ other, kind field.2) (equal : EqualFields one other) : EqualFields other one := by
  induction equal with
  | nil => exact .nil
  | cons same rest ih =>
      obtain ⟨head, first⟩ := List.forall_mem_cons.mp first
      obtain ⟨head', second⟩ := List.forall_mem_cons.mp second
      have back := @Equivalence.symm _ _ comparable ⟨_, head⟩ ⟨_, head'⟩ same.2
      exact .cons ⟨same.1.symm, back⟩ (ih first second)

theorem trans (one other third : List (Text × Value)) (first : ∀ field ∈ one, kind field.2)
    (second : ∀ field ∈ other, kind field.2) (last : ∀ field ∈ third, kind field.2) (equal : EqualFields one other)
    (following : EqualFields other third) : EqualFields one third := by
  induction equal generalizing third with
  | nil => exact following
  | cons same rest ih =>
      cases following with
      | cons same' rest' =>
          obtain ⟨head, first⟩ := List.forall_mem_cons.mp first
          obtain ⟨head', second⟩ := List.forall_mem_cons.mp second
          obtain ⟨head'', last⟩ := List.forall_mem_cons.mp last
          have across := @Equivalence.trans _ _ comparable ⟨_, head⟩ ⟨_, head'⟩ ⟨_, head''⟩ same.2 same'.2
          exact .cons ⟨same.1.trans same'.1, across⟩ (ih _ first second last rest')

end EqualFields

theorem wrapped_same_iff (enumeration enumeration' : Text) (one other : Variant) :
    (one.wrapped enumeration).same (other.wrapped enumeration') = true ↔
      enumeration = enumeration' ∧ one.type = other.type ∧ EqualFields one.fields other.fields := by
  simp only [Variant.wrapped, Value.same, Bool.and_eq_true, beq_iff_eq, same_fields_iff, and_assoc]

theorem bare_never_same (enumeration : Text) (variant : Variant) :
    (variant.wrapped enumeration).same variant.bare = false ∧
      variant.bare.same (variant.wrapped enumeration) = false := by
  simp only [Variant.wrapped, Variant.bare, Value.same, and_self]

theorem wrapped_comparable (enumeration : Text) (kind : Value → Prop) (comparable : Comparable kind) :
    Equivalence fun one other : { variant : Variant // ∀ field ∈ variant.fields, kind field.2 } =>
      (one.1.wrapped enumeration).same (other.1.wrapped enumeration) = true := by
  constructor
  · intro one
    exact (wrapped_same_iff _ _ _ _).mpr ⟨rfl, rfl, .refl comparable one.1.fields one.2⟩
  · intro one other equal
    obtain ⟨_, types, fields⟩ := (wrapped_same_iff _ _ _ _).mp equal
    exact (wrapped_same_iff _ _ _ _).mpr ⟨rfl, types.symm, .symm comparable _ _ one.2 other.2 fields⟩
  · intro one other third equal following
    obtain ⟨_, types, fields⟩ := (wrapped_same_iff _ _ _ _).mp equal
    obtain ⟨_, types', fields'⟩ := (wrapped_same_iff _ _ _ _).mp following
    exact (wrapped_same_iff _ _ _ _).mpr
      ⟨rfl, types.trans types', .trans comparable _ _ _ one.2 other.2 third.2 fields fields'⟩

/-! Members. -/

theorem members_distinct (parts : Parts) (valid : ValidParts parts) (side : Side) :
    (Registry.ofParts parts side).members.Nodup := by
  cases side with
  | state => exact Validation.state_names_distinct parts.spec ((validate_eq_ok parts.spec).mp valid.accepted).1
  | event => exact firsts_distinct Event.name [] _

theorem enumerations_apart (parts : Parts) (valid : ValidParts parts) : parts.stateName ≠ parts.eventName := by
  have distinct := (module_classes_distinct parts.spec valid.accepted).1
  have machine := (List.nodup_append.mp distinct).1
  simp only [Spec.machineClasses, valid.kind, valid.stateEnum, valid.eventEnum, Option.toList_some, List.map_cons,
    List.map_nil, List.cons_append, List.nil_append, List.nodup_cons, List.mem_singleton] at machine
  exact machine.2.1

/-! Conversion. -/

-- Nothing hides the names either that two values of an enumeration are compared by.
structure ResolvableComparison (parts : Parts) : Prop extends Resolvable parts where
  hashes : parts.spec.hides "hash" = false
  declines : parts.spec.hides "NotImplemented" = false
  operands : parts.stateName ≠ "other" ∧ parts.eventName ≠ "other"

theorem resolvable_operands (parts : Parts) (resolvable : ResolvableComparison parts) (side : Side) :
    Stage.comparisonVariables.contains (Registry.ofParts parts side).name = false := by
  have apart : (Registry.ofParts parts side).name ∉ routineVariables ∧ (Registry.ofParts parts side).name ≠ "other" := by
    cases side with
    | state => exact ⟨resolvable.state, resolvable.operands.1⟩
    | event => exact ⟨resolvable.event, resolvable.operands.2⟩
  have first : (Registry.ofParts parts side).name ≠ "self" := fun same => apart.1 (same ▸ List.mem_cons_self)
  rw [← Bool.not_eq_true, List.contains_iff_mem]
  simp [Stage.comparisonVariables, first, apart.2]

-- An enumeration wraps objects of its members only, so a value of it is one of those.
def Registry.Genuine (registry : Registry) (value : Value) : Prop :=
  ∀ type fields, value = .variant registry.name type fields → type ∈ registry.members

section Wrapping

variable (stage : Stage) (parts : Parts) (running : stage.eventDriven? = some parts) (resolvable : Resolvable parts)

include running resolvable

theorem registry_found (side : Side) : stage.registry? side = .ok (Registry.ofParts parts side) := by
  have types := resolvable.language "type" (by decide)
  have instances := resolvable.language "isinstance" (by decide)
  simp only [Stage.registry?, Registry.open?, running, types, instances]
  rfl

theorem wrap_eq (side : Side) (value : Value) :
    stage.wrap side value = ((Registry.ofParts parts side).of value).map
      (·.wrapped (Registry.ofParts parts side).name) := by
  rw [Stage.wrap, registry_found stage parts running resolvable side]
  change ((Registry.ofParts parts side).of value >>= fun variant => .ok _) = _
  cases (Registry.ofParts parts side).of value with
  | error fault => rfl
  | ok variant => rfl

end Wrapping

-- What an enumeration makes of a value.
structure Wraps (registry : Registry) (of : Value → Except Fault Value) (value : Value) : Prop where
  refuses : ∀ fault, of value = .error fault ↔
    (∀ variant, ¬ Denotes registry.members registry.name value variant) ∧
      fault = .noVariant (value.typeName fun _ => registry.machine) registry.noun registry.machine
  makes : ∀ made, of value = .ok made ↔
    ∃ variant, Denotes registry.members registry.name value variant ∧ made = variant.wrapped registry.name
  again : ∀ made, of value = .ok made → of made = .ok made
  shows : registry.Genuine value → ∀ made, of value = .ok made → ∃ variant : Variant,
    (value = variant.bare ∨ value = made) ∧ made.part "value" = .ok variant.bare ∧
      made.part "variant" = .ok (.text variant.type) ∧ registry.members.count variant.type = 1

theorem wraps_of_map (registry : Registry) (distinct : registry.members.Nodup) (of : Value → Except Fault Value)
    (own : ∀ value, of value = (registry.of value).map (·.wrapped registry.name)) (value : Value) :
    Wraps registry of value := by
  have made_iff : ∀ value made, of value = .ok made ↔
      ∃ variant, Denotes registry.members registry.name value variant ∧ made = variant.wrapped registry.name := by
    intro value made
    rw [own]
    simp only [← registry_of_ok_iff]
    cases registry.of value <;> simp [Except.map, eq_comm]
  constructor
  case makes => exact made_iff value
  case refuses =>
    intro fault
    constructor
    · intro failed
      have strange : ∀ variant, ¬ Denotes registry.members registry.name value variant := by
        intro variant denoted
        rw [(made_iff value _).mpr ⟨variant, denoted, rfl⟩] at failed
        cases failed
      rw [own, registry_of_foreign registry value strange] at failed
      exact ⟨strange, (Except.error.inj failed).symm⟩
    · rintro ⟨strange, rfl⟩
      rw [own, registry_of_foreign registry value strange]
      rfl
  case again =>
    intro made given
    obtain ⟨variant, _, rfl⟩ := (made_iff value made).mp given
    exact (made_iff _ _).mpr ⟨variant, .wrapped variant.type variant.fields, rfl⟩
  case shows =>
    intro genuine made given
    obtain ⟨variant, denoted, rfl⟩ := (made_iff value made).mp given
    refine ⟨variant, ?_, rfl, rfl, ?_⟩
    · cases denoted with
      | bare type fields member => exact .inl rfl
      | wrapped type fields => exact .inr rfl
    · refine List.count_eq_one_of_mem distinct ?_
      cases denoted with
      | bare type fields member => exact member
      | wrapped type fields => exact genuine type fields rfl

-- How the values of an enumeration compare, and what they are never equal to.
structure Compares (stage : Stage) (parts : Parts) (side : Side) (name : Text) : Prop where
  equal : ∀ one other : Variant, (one.wrapped name).same (other.wrapped name) = true ↔
    one.type = other.type ∧ EqualFields one.fields other.fields
  equivalence : ∀ kind, Comparable kind →
    Equivalence fun one other : { variant : Variant // ∀ field ∈ variant.fields, kind field.2 } =>
      (one.1.wrapped name).same (other.1.wrapped name) = true
  hashed : ∀ (ofText : Text → Int) (one other : Variant), (one.wrapped name).same (other.wrapped name) = true →
    one.hash ofText = other.hash ofText
  bare : ∀ variant : Variant, (variant.wrapped name).same variant.bare = false ∧
    variant.bare.same (variant.wrapped name) = false
  apart : ∀ other, side ≠ other → ∀ one two : Variant,
    (one.wrapped name).same (two.wrapped (Registry.ofParts parts other).name) = false
  told : ∀ (ofText : Text → Int) (value value' : Value) (one other : Variant),
    stage.wrap side value = .ok (one.wrapped name) → stage.wrap side value' = .ok (other.wrapped name) →
      stage.compare ofText side value value' =
        .ok ⟨(one.wrapped name).same (other.wrapped name), one.hash ofText == other.hash ofText, false⟩

section Comparing

variable (stage : Stage) (parts : Parts) (running : stage.eventDriven? = some parts)
  (resolvable : ResolvableComparison parts)

include running resolvable

theorem registry_of_wrap (side : Side) (value : Value) (variant : Variant)
    (made : stage.wrap side value = .ok (variant.wrapped (Registry.ofParts parts side).name)) :
    (Registry.ofParts parts side).of value = .ok variant := by
  rw [wrap_eq stage parts running resolvable.toResolvable] at made
  cases converted : (Registry.ofParts parts side).of value with
  | error fault =>
      rw [converted] at made
      cases made
  | ok other =>
      rw [converted] at made
      obtain ⟨_, types, fields⟩ := Value.variant.inj (Except.ok.inj made)
      exact congrArg Except.ok (by cases other; cases variant; simp_all)

theorem compare_told (ofText : Text → Int) (side : Side) (value value' : Value) (one other : Variant)
    (first : (Registry.ofParts parts side).of value = .ok one)
    (second : (Registry.ofParts parts side).of value' = .ok other) :
    let name := (Registry.ofParts parts side).name
    stage.compare ofText side value value' =
      .ok ⟨(one.wrapped name).same (other.wrapped name), one.hash ofText == other.hash ofText, false⟩ := by
  have hashes : stage.hides "hash" = false := by
    rw [Stage.hides, running]
    exact resolvable.hashes
  have operands := resolvable_operands parts resolvable side
  rw [Stage.compare, registry_found stage parts running resolvable.toResolvable side]
  change ((Registry.ofParts parts side).of value >>= fun one => (Registry.ofParts parts side).of value' >>= fun other =>
    if (Stage.comparisonVariables.contains (Registry.ofParts parts side).name || stage.hides "hash") = true then _
    else _) = _
  rw [first, second, operands, hashes]
  change Except.ok (Stage.Comparison.mk _ _ _) = _
  rw [(bare_never_same _ one).1]

theorem enumeration_compares (valid : ValidParts parts) (side : Side) :
    Compares stage parts side (Registry.ofParts parts side).name := by
  constructor
  case equal =>
    intro one other
    rw [wrapped_same_iff]
    exact and_iff_right rfl
  case equivalence => exact fun kind comparable => wrapped_comparable _ kind comparable
  case hashed =>
    intro ofText one other equal
    exact congrArg ofText ((wrapped_same_iff _ _ _ _).mp equal).2.1
  case bare => exact bare_never_same _
  case apart =>
    intro other different one two
    have names := enumerations_apart parts valid
    rw [Bool.eq_false_iff]
    intro equal
    have same := ((wrapped_same_iff _ _ _ _).mp equal).1
    cases side <;> cases other
    · exact different rfl
    · exact names same
    · exact names same.symm
    · exact different rfl
  case told =>
    intro ofText value value' one other first second
    exact compare_told stage parts running resolvable ofText side value value' one other
      (registry_of_wrap stage parts running resolvable side value one first)
      (registry_of_wrap stage parts running resolvable side value' other second)

end Comparing

-- A machine does the same with an event and with what the enumeration of the events makes of it.
structure Handles {γ : Type} (parts : Parts) (conduct : Conduct γ) (of : Value → Except Fault Value) (value : Value) :
    Prop where
  known : ∀ made, of value = .ok made → Reactor.dispatch parts conduct value = Reactor.dispatch parts conduct made
  foreign : ∀ fault, of value = .error fault → ∀ (machine : Reactor) (contents : γ), machine.step = none →
    Reactor.dispatch parts conduct value (machine, contents) = .failed fault (machine, contents)

theorem handles_of_map {γ : Type} (parts : Parts) (resolvable : Resolvable parts) (conduct : Conduct γ)
    (of : Value → Except Fault Value)
    (own : ∀ value, of value = ((Registry.ofParts parts .event).of value).map
      (·.wrapped (Registry.ofParts parts .event).name)) (value : Value) : Handles parts conduct of value := by
  constructor
  case known =>
    intro made given
    rw [own] at given
    cases converted : (Registry.ofParts parts .event).of value with
    | error fault =>
        rw [converted] at given
        cases given
    | ok event =>
        rw [converted] at given
        obtain rfl := Except.ok.inj given
        have again : (Registry.ofParts parts .event).of (event.wrapped (Registry.ofParts parts .event).name) =
            .ok event := (registry_of_ok_iff _ _ _).mpr (.wrapped event.type event.fields)
        unfold Reactor.dispatch
        simp only [convert_event parts resolvable, converted, again]
  case foreign =>
    intro fault refused machine contents idle
    rw [own] at refused
    cases converted : (Registry.ofParts parts .event).of value with
    | ok event =>
        rw [converted] at refused
        cases refused
    | error other =>
        rw [converted] at refused
        obtain rfl := Except.error.inj refused
        rw [dispatch_idle parts conduct value machine contents idle, convert_event parts resolvable, converted]
        rfl

-- A keyboard that counts its keys, and an event of some name.
def keyboardSpec (event : Text) : Spec :=
  { kind := .eventDriven, name := "Keyboard", context := "list"
    stateEnum := some { name := "KeyboardState" }, eventEnum := some { name := "KeyboardEvent" }
    states := [{ name := "Idle", fields := [{ name := "keys", type := "int" }]
                 transitions := [{ source := "Idle", trigger := event, body := "return Idle(1)" }] }] }

def keyboardParts (event : Text) : Parts :=
  partsOf (keyboardSpec event) { name := "KeyboardState" } { name := "KeyboardEvent" }

def keyboard (event : Text) : Stage := Stage.ofSpec (keyboardSpec event) (some (keyboardParts event).table)

def idle (keys : Int) : Variant := ⟨"Idle", [("keys", .number keys)]⟩

end Statewright.Machine
