import Statewright.Emission.Module
import Statewright.Proofs.Checks

/-!
The sections that the modules of both kinds are written from, and the classes within them. Each stands in the lines of
the module as it is written by itself.
-/
set_option autoImplicit false

namespace Statewright.Emission

open Validation (bind_eq_ok pure_eq_ok)

theorem flatMap_holds {α : Type} (write : α → Lines) (items : List α) (item : α) (member : item ∈ items) :
    write item <:+: items.flatMap write := by
  rw [List.flatMap_def]
  exact List.infix_of_mem_flatten (List.mem_map_of_mem member)

-- A walk that writes the lines of each item after reading what they need holds what it has written for each.
theorem walk_holds {α β : Type} (read : α → Code.Reading β) (write : α → β → Lines) (walk : List α → Code.Reading Lines)
    (walked : ∀ item rest, walk (item :: rest) = do
      let value ← read item
      return write item value ++ (← walk rest))
    (items : List α) (lines : Lines) (written : walk items = .ok lines) :
    ∀ item ∈ items, ∃ value, read item = .ok value ∧ write item value <:+: lines := by
  induction items generalizing lines with
  | nil => simp
  | cons item rest ih =>
      simp only [walked, bind_eq_ok, pure_eq_ok] at written
      obtain ⟨value, first, others, remaining, rfl⟩ := written
      rw [List.forall_mem_cons]
      constructor
      · exact ⟨value, first, (List.prefix_append _ others).isInfix⟩
      · intro other member
        obtain ⟨own, found, within⟩ := ih others remaining other member
        exact ⟨own, found, within.trans (List.suffix_append _ others).isInfix⟩

-- Classes stand two empty lines apart.
theorem after_gap (block : Lines) : block <:+: [] :: [] :: block := (List.suffix_append [[], []] block).isInfix

namespace Deterministic

variable (spec : Spec)

theorem trait_class_stands (trait_ : Trait) (declared : spec.stateTrait = some trait_) :
    traitClass trait_.name trait_.bases (spec.traitMethods .state) ("State trait of " ++ spec.name) <:+:
      traitLines spec := by
  rw [traitLines, declared]
  exact after_gap _

theorem state_class_stands (state : State) (declared : state ∈ spec.states) :
    dataClass state.name (spec.traitName? .state) state.fields state.impls (spec.traitMethods .state) <:+:
      stateLines spec :=
  (after_gap _).trans (flatMap_holds (fun (state : State) => [] :: [] :: dataClass state.name
    (spec.traitName? .state) state.fields state.impls (spec.traitMethods .state)) spec.states state declared)

theorem machine_classes_hold (states : List State) (lines : Lines) (written : machineClasses spec states = .ok lines) :
    ∀ state ∈ states, ∃ own, machineClass spec state = .ok own ∧ own <:+: lines :=
  walk_holds (machineClass spec) (fun _ own => own) (machineClasses spec) (fun _ _ => rfl) states lines written

structure Sections (lines : Lines) : Prop where
  exports : exportList (exports spec) <:+: lines
  traits : traitLines spec <:+: lines
  states : stateLines spec <:+: lines
  base : baseMachine spec <:+: lines
  classes : ∀ state ∈ spec.states, ∃ own, machineClass spec state = .ok own ∧ own <:+: lines

theorem module_sections (lines : Lines) (written : module spec = .ok lines) : Sections spec lines := by
  unfold module at written
  cases formed : machineClasses spec spec.states with
  | error line => simp [formed, Except.map] at written
  | ok classes =>
      simp only [formed, Except.map, Except.ok.injEq] at written
      have sections : [opening spec, imports spec, preludeLines spec.prelude, [[]], exportList (exports spec),
          traitLines spec, stateLines spec, [[], [], "_S = TypeVar('_S')", [], []], decorators spec.attributes,
          baseMachine spec, classes, registry spec].flatten = lines := by
        simp [← written]
      rw [← sections]
      constructor
      case classes =>
        intro state declared
        obtain ⟨own, opened, within⟩ := machine_classes_hold spec spec.states classes formed state declared
        exact ⟨own, opened, within.trans (List.infix_of_mem_flatten (by simp))⟩
      all_goals exact List.infix_of_mem_flatten (by simp)

end Deterministic

namespace EventDriven

variable (parts : Parts)

theorem trait_class_stands (side : Side) :
    traitClass ((parts.spec.traitName? side).getD []) (((parts.spec.declaredTrait side).map (·.bases)).getD [])
      (parts.methods side) (side.label ++ " trait of " ++ parts.spec.name) <:+: traitLines parts side := after_gap _

theorem state_class_stands (state : State) (declared : state ∈ parts.spec.states) :
    dataClass state.name (parts.spec.traitName? .state) state.fields state.impls (parts.methods .state) <:+:
      stateLines parts :=
  (after_gap _).trans (flatMap_holds (fun (state : State) => [] :: [] :: dataClass state.name
    (parts.spec.traitName? .state) state.fields state.impls (parts.methods .state)) parts.spec.states state declared)

theorem event_class_stands (event : Event) (known : event ∈ parts.spec.events) :
    dataClass event.name (parts.spec.traitName? .event) event.fields event.impls (parts.methods .event) <:+:
      eventLines parts :=
  (after_gap _).trans (flatMap_holds (fun (event : Event) => [] :: [] :: dataClass event.name
    (parts.spec.traitName? .event) event.fields event.impls (parts.methods .event)) parts.spec.events event known)

structure Sections (lines : Lines) : Prop where
  exports : exportList (exports parts) <:+: lines
  traits : ∀ side, traitLines parts side <:+: lines
  states : stateLines parts <:+: lines
  events : eventLines parts <:+: lines
  enumerations : ∀ side, ∃ own, enumerationClass (wrapping parts side) = .ok own ∧ own <:+: lines
  handlers : parts.table.explicitEntries.flatMap (handler parts) <:+: lines
  catchAll : catchAllLines parts <:+: lines
  machine : machineClass parts <:+: lines

theorem module_sections (lines : Lines) (written : module parts = .ok lines) : Sections parts lines := by
  simp only [module, bind_eq_ok, pure_eq_ok] at written
  obtain ⟨stateEnum, states, eventEnum, events, formed⟩ := written
  have sections : [opening parts, imports, preludeLines parts.spec.prelude, [[]], exportList (exports parts),
      traitLines parts .event, traitLines parts .state, stateLines parts, eventLines parts, [[], []], stateEnum,
      [[], []], eventEnum, [[], []], variants "_STATE_VARIANTS" (parts.spec.states.map (·.name)), [[]],
      variants "_EVENT_VARIANTS" (parts.spec.events.map (·.name)),
      parts.table.explicitEntries.flatMap (handler parts), catchAllLines parts, tableLines parts, [[], []],
      decorators parts.spec.attributes, machineClass parts].flatten = lines := by
    simp [← formed]
  rw [← sections]
  constructor
  case traits =>
    intro side
    cases side <;> exact List.infix_of_mem_flatten (by simp)
  case enumerations =>
    intro side
    cases side with
    | state => exact ⟨stateEnum, states, List.infix_of_mem_flatten (by simp)⟩
    | event => exact ⟨eventEnum, events, List.infix_of_mem_flatten (by simp)⟩
  all_goals exact List.infix_of_mem_flatten (by simp)

end EventDriven

end Statewright.Emission
