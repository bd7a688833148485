import Statewright.Machine.Naming
import Statewright.Proofs.CompleteTables
import Statewright.Proofs.Generation
import Statewright.Proofs.ModuleSections

/-!
Classes of a generated module. Each has a name of its own there, and a line that defines it. The module exports the
classes that states and events are made of, and those that make up the machine if the machine is public.
-/
set_option autoImplicit false

namespace Statewright

open Validation
open Emission (Lines)

namespace Spec

def exports (spec : Spec) (table : Option Table) : List Text :=
  match spec.kind, spec.stateEnum, spec.eventEnum, table with
  | .eventDriven, some stateEnum, some eventEnum, some table =>
    Emission.EventDriven.exports ⟨spec, stateEnum, eventEnum, table⟩
  | _, _, _, _ => Emission.Deterministic.exports spec

end Spec

/-! Names of events. -/

-- A trigger is declared, or checked where it is first met.
theorem reference_eq_ok (spec : Spec) (transition : Transition) :
    checkReference spec transition = .ok () ↔
      (∃ event ∈ spec.declaredEvents, event.name = transition.trigger) ∨
        Code.isName transition.trigger = true ∧ eventClashes spec transition.trigger = false := by
  by_cases declared : spec.declaredEvents.any (·.name == transition.trigger) = true
  · have found : ∃ event ∈ spec.declaredEvents, event.name = transition.trigger := by simpa using declared
    simp [checkReference, declared, found]
  · have absent : ¬ ∃ event ∈ spec.declaredEvents, event.name = transition.trigger := by simpa using declared
    simp [checkReference, declared, absent, then_eq_ok, ensure_eq_ok]

structure EventsAccepted (spec : Spec) : Prop where
  references : ∀ owned ∈ spec.ownedTransitions, checkReference spec owned.2 = .ok ()
  apart : ∀ event ∈ spec.declaredEvents, eventClashes spec event.name = false

theorem events_accepted (spec : Spec) (valid : spec.validate = .ok ()) (kind : spec.kind = .eventDriven) :
    EventsAccepted spec := by
  obtain ⟨_, kinds, _, _⟩ := (validate_eq_ok spec).mp valid
  obtain ⟨⟨_, reactions⟩, apart, _⟩ := (event_driven_kind_eq_ok spec kind).mp kinds
  exact ⟨fun owned member => (reactions owned member).reference, apart⟩

theorem event_names_apart (spec : Spec) (valid : spec.validate = .ok ()) (kind : spec.kind = .eventDriven) :
    ∀ name ∈ spec.events.map (·.name), eventClashes spec name = false := by
  intro name member
  have accepted := events_accepted spec valid kind
  rcases (mem_event_names spec name).mp member with ⟨transition, referred, rfl⟩ | ⟨event, declared, rfl⟩
  · obtain ⟨state, stated, inState⟩ := List.mem_flatMap.mp referred
    have owned := owned_transition spec state stated transition inState
    rcases (reference_eq_ok spec transition).mp (accepted.references _ owned) with ⟨event, declared, same⟩ | ⟨_, free⟩
    · exact same ▸ accepted.apart event declared
    · exact free
  · exact accepted.apart event declared

-- What an event is compared with is what the other classes are called.
theorem clashes_of_class (spec : Spec) (kind : spec.kind = .eventDriven) (name : Text)
    (taken : name ∈ classNames spec ∨ name ∈ moduleNames) : eventClashes spec name = true := by
  simp only [classNames, kind, List.mem_append, List.mem_cons, List.mem_map] at taken
  simp only [eventClashes, otherClassNames, Bool.or_eq_true, List.any_eq_true, beq_iff_eq, List.contains_iff_mem,
    List.mem_append, List.mem_cons, List.mem_map]
  rcases taken with (((machine | state) | trait_) | (trait_ | enumeration)) | reserved <;>
    simp only [*, true_or, or_true]

/-! Distinct names. -/

-- The names that are claimed, and the events of an event-driven machine.
theorem module_classes_perm (spec : Spec) :
    spec.moduleClasses.Perm (classNames spec ++ match spec.kind with
      | .deterministic => []
      | .eventDriven => spec.events.map (·.name)) := by
  rw [List.perm_iff_count]
  intro name
  cases kind : spec.kind <;>
    simp only [Spec.moduleClasses, Spec.machineClasses, Spec.valueClasses, classNames, kind, List.count_append,
      List.count_cons, List.count_nil] <;> omega

theorem module_classes_distinct (spec : Spec) (valid : spec.validate = .ok ()) :
    spec.moduleClasses.Nodup ∧ ∀ name ∈ spec.moduleClasses, name ∉ moduleNames := by
  have names := names_of_valid spec valid
  have claimed := names.distinct
  have unreserved := names.unreserved
  have perm := module_classes_perm spec
  cases kind : spec.kind with
  | deterministic =>
      rw [kind, List.append_nil] at perm
      exact ⟨perm.nodup_iff.mpr claimed, fun name member => unreserved name (perm.mem_iff.mp member)⟩
  | eventDriven =>
      rw [kind] at perm
      have apart := event_names_apart spec valid kind
      have free : ∀ name ∈ spec.events.map (·.name), ¬ (name ∈ classNames spec ∨ name ∈ moduleNames) := by
        intro name member taken
        have clash := clashes_of_class spec kind name taken
        rw [apart name member] at clash
        cases clash
      constructor
      · rw [perm.nodup_iff, List.nodup_append]
        refine ⟨claimed, firsts_distinct Event.name [] _, ?_⟩
        rintro name inClaimed other inEvents rfl
        exact free name inEvents (.inl inClaimed)
      · intro name member
        rcases List.mem_append.mp (perm.mem_iff.mp member) with inClaimed | inEvents
        · exact unreserved name inClaimed
        · exact fun reserved => free name inEvents (.inr reserved)

/-! Lines. -/

namespace Emission

-- A line opens the class of a name; a colon follows the name, or the classes that it is made from.
def Defines (lines : Lines) (name : Text) : Prop :=
  ∃ rest : Text, (rest.head? = some '(' ∨ rest.head? = some ':') ∧ "class " ++ name ++ rest ∈ lines

theorem defines_within (lines more : Lines) (name : Text) (defined : Defines lines name) (within : lines <:+: more) :
    Defines more name := by
  obtain ⟨rest, shape, member⟩ := defined
  exact ⟨rest, shape, within.subset member⟩

theorem stands_between (part lines : Lines) (stands : part <:+: lines) :
    ∃ before after, lines = before ++ part ++ after := by
  obtain ⟨before, after, same⟩ := stands
  exact ⟨before, after, same.symm⟩

theorem trait_class_defines (name : Text) (bases : List Text) (methods : List Resolved) (doc : Text) :
    Defines (traitClass name bases methods doc) name :=
  ⟨"(" ++ Text.join ", " (bases ++ [Text.fixed "abc.ABC"]) ++ "):", .inl rfl, by simp [traitClass]⟩

theorem data_class_defines (name : Text) (base : Option Text) (fields : List Field) (impls : List Method)
    (methods : List Resolved) : Defines (dataClass name base fields impls methods) name := by
  cases base with
  | none => exact ⟨":", .inr rfl, by simp [dataClass]⟩
  | some base => exact ⟨"(" ++ base ++ ")" ++ ":", .inl rfl, by simp [dataClass]⟩

theorem enumeration_class_defines (wrapping : Wrapping) (lines : Lines)
    (written : enumerationClass wrapping = .ok lines) : Defines lines wrapping.name := by
  unfold enumerationClass at written
  cases delegated : delegates wrapping.methods with
  | error line => simp [delegated, Except.map] at written
  | ok methods =>
      simp only [delegated, Except.map, Except.ok.injEq] at written
      refine ⟨":", .inr rfl, ?_⟩
      simp [← written, Wrapping.fixedLines, Wrapping.heading]

namespace Deterministic

theorem machine_class_defines (spec : Spec) (state : State) (lines : Lines)
    (written : machineClass spec state = .ok lines) : Defines lines (spec.name ++ state.name) := by
  unfold machineClass at written
  cases methods : machineMethods spec state.name state.transitions with
  | error line => simp [methods, Except.map] at written
  | ok methods =>
      simp only [methods, Except.map, Except.ok.injEq] at written
      refine ⟨"(" ++ spec.name ++ "[" ++ state.name ++ "]):", .inl rfl, ?_⟩
      simp [← written]

theorem trait_lines_define (spec : Spec) (kind : spec.kind = .deterministic) :
    ∀ name ∈ spec.traitName? .state, Defines (traitLines spec) name := by
  intro name named
  cases declared : spec.stateTrait with
  | none => simp [Spec.traitName?, Spec.declaredTrait, declared, Spec.isEventDriven, kind] at named
  | some trait_ =>
      obtain rfl : trait_.name = name := by simpa [Spec.traitName?, Spec.declaredTrait, declared] using named
      exact defines_within _ _ _ (trait_class_defines _ _ _ _) (trait_class_stands spec trait_ declared)

theorem base_machine_defines (spec : Spec) : Defines (baseMachine spec) spec.name :=
  ⟨"(Generic[_S]):", .inl rfl, by simp [baseMachine, machineHeading]⟩

-- The export list stands after the prelude; the classes stand behind it.
theorem module_written (spec : Spec) (kind : spec.kind = .deterministic) (lines : Lines)
    (written : module spec = .ok lines) :
    (∃ before after, lines = before ++ exportList (exports spec) ++ after) ∧
      ∀ name ∈ spec.moduleClasses, Defines lines name := by
  have sections := module_sections spec lines written
  refine ⟨stands_between _ _ sections.exports, ?_⟩
  intro name member
  simp only [Spec.moduleClasses, Spec.machineClasses, Spec.valueClasses, kind, List.append_nil, List.mem_append,
    List.mem_cons, List.mem_map] at member
  rcases member with (rfl | ⟨state, declared, rfl⟩) | (trait_ | ⟨state, declared, rfl⟩)
  · exact defines_within _ _ _ (base_machine_defines spec) sections.base
  · obtain ⟨own, formed, within⟩ := sections.classes state declared
    exact defines_within _ _ _ (machine_class_defines spec state own formed) within
  · exact defines_within _ _ _ (trait_lines_define spec kind name (by simpa using trait_)) sections.traits
  · have stands := state_class_stands spec state declared
    exact defines_within _ _ _ (data_class_defines _ _ _ _ _) (stands.trans sections.states)

end Deterministic

namespace EventDriven

variable (parts : Parts)

theorem machine_class_defines : Defines (machineClass parts) parts.spec.name :=
  ⟨":", .inr rfl, by simp [machineClass, machineHeading, Parts.name]⟩

theorem module_written (kind : parts.spec.kind = .eventDriven) (states : parts.spec.stateEnum = some parts.stateEnum)
    (events : parts.spec.eventEnum = some parts.eventEnum) (lines : Lines) (written : module parts = .ok lines) :
    (∃ before after, lines = before ++ exportList (exports parts) ++ after) ∧
      ∀ name ∈ parts.spec.moduleClasses, Defines lines name := by
  have sections := module_sections parts lines written
  have enumeration : ∀ side, Defines lines (wrapping parts side).name := by
    intro side
    obtain ⟨own, formed, within⟩ := sections.enumerations side
    exact defines_within _ _ _ (enumeration_class_defines _ own formed) within
  have trait_defined : ∀ side, Defines lines ((parts.spec.traitName? side).getD []) := by
    intro side
    have stands := trait_class_stands parts side
    exact defines_within _ _ _ (trait_class_defines _ _ _ _) (stands.trans (sections.traits side))
  refine ⟨stands_between _ _ sections.exports, ?_⟩
  intro name member
  simp only [Spec.moduleClasses, Spec.machineClasses, Spec.valueClasses, kind, states, events, Option.toList_some,
    List.mem_append, List.mem_cons, List.mem_map, List.not_mem_nil, or_false, Option.mem_toList] at member
  rcases member with (rfl | ⟨_, rfl | rfl, rfl⟩) | (trait_ | ⟨state, declared, rfl⟩) | (trait_ | ⟨event, known, rfl⟩)
  · exact defines_within _ _ _ (machine_class_defines parts) sections.machine
  · exact enumeration .state
  · exact enumeration .event
  · simpa [trait_] using trait_defined .state
  · have stands := state_class_stands parts state declared
    exact defines_within _ _ _ (data_class_defines _ _ _ _ _) (stands.trans sections.states)
  · simpa [trait_] using trait_defined .event
  · have stands := event_class_stands parts event known
    exact defines_within _ _ _ (data_class_defines _ _ _ _ _) (stands.trans sections.events)

end EventDriven

end Emission

/-! Exports. -/

theorem exports_perm (spec : Spec) (valid : spec.validate = .ok ()) (table : Option Table)
    (prepared : spec.prepare = .ok table) :
    (spec.exports table).Perm (spec.valueClasses ++ if spec.isPublic then spec.machineClasses else []) := by
  rw [List.perm_iff_count]
  intro name
  cases kind : spec.kind with
  | deterministic =>
      have listed : spec.exports table = Emission.Deterministic.exports spec := by simp [Spec.exports, kind]
      rw [listed]
      by_cases shown : spec.isPublic = true <;>
        simp [Emission.Deterministic.exports, Spec.valueClasses, Spec.machineClasses, machineClass, kind, shown,
          Function.comp_def]
  | eventDriven =>
      obtain ⟨parts, rfl, accepted, rfl⟩ := prepared_parts spec valid kind table prepared
      have listed : parts.spec.exports (some parts.table) = Emission.EventDriven.exports parts := by
        simp [Spec.exports, kind, accepted.stateEnum, accepted.eventEnum]
      rw [listed]
      by_cases shown : parts.spec.isPublic = true <;>
        simp [Emission.EventDriven.exports, Spec.valueClasses, Spec.machineClasses, kind, shown, accepted.stateEnum,
          accepted.eventEnum, List.count_cons, Emission.EventDriven.Parts.stateName,
          Emission.EventDriven.Parts.eventName, Emission.EventDriven.Parts.name] <;>
        omega

theorem module_written (spec : Spec) (valid : spec.validate = .ok ()) (table : Option Table)
    (prepared : spec.prepare = .ok table) (lines : Lines) (written : spec.moduleLines table = .ok lines) :
    (∃ before after, lines = before ++ Emission.exportList (spec.exports table) ++ after) ∧
      ∀ name ∈ spec.moduleClasses, Emission.Defines lines name := by
  cases kind : spec.kind with
  | deterministic =>
      rw [deterministic_lines spec kind] at written
      have listed : spec.exports table = Emission.Deterministic.exports spec := by simp [Spec.exports, kind]
      rw [listed]
      exact Emission.Deterministic.module_written spec kind lines written
  | eventDriven =>
      obtain ⟨parts, rfl, accepted, rfl⟩ := prepared_parts spec valid kind table prepared
      rw [parts_lines parts accepted] at written
      have listed : parts.spec.exports (some parts.table) = Emission.EventDriven.exports parts := by
        simp [Spec.exports, kind, accepted.stateEnum, accepted.eventEnum]
      rw [listed]
      exact Emission.EventDriven.module_written parts kind accepted.stateEnum accepted.eventEnum lines written

-- A private bell, whose only event is never declared and whose traits are not either.
def bellSpec : Spec :=
  { kind := .eventDriven, name := "Bell", visibility := "private", context := "list"
    stateEnum := some { name := "BellState" }, eventEnum := some { name := "BellEvent" }
    states := [{ name := "Still", transitions := [{ source := "Still", trigger := "Pull", target := some "Still" }] }] }

end Statewright
