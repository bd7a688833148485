import Statewright.Emission.Module
import Statewright.Proofs.UnlinedChecks

/-!
Modules without lines. What is written of a specification is written of it without its lines, to the last character.
-/
set_option autoImplicit false

namespace Statewright

def Resolution.unlined : Resolution → Resolution
  | explicit transition => .explicit transition.unlined
  | other => other

def Entry.unlined (entry : Entry) : Entry := { entry with resolution := entry.resolution.unlined }

def Table.unlined (table : Table) : Table := { table with entries := table.entries.map Entry.unlined }

def Failure.unlined : Failure → Failure
  | shape misshape => .shape misshape.unlined
  | rejected rejection => .rejected rejection.unlined
  | other => other

namespace Emission

section

variable (methods : List Resolved)

theorem trait_class_unlined (name : Text) (bases : List Text) (doc : Text) :
    traitClass name bases (methods.map Resolved.unlined) doc = traitClass name bases methods doc := by
  unfold traitClass
  rw [List.flatMap_map]
  rfl

theorem impl_method_unlined (impl : Method) :
    implMethod (methods.map Resolved.unlined) impl.unlined = implMethod methods impl := by
  unfold implMethod
  rw [Validation.find_unlined, show impl.unlined.name = impl.name from rfl]
  cases methods.find? (·.name == impl.name) <;> rfl

theorem data_class_unlined (name : Text) (base : Option Text) (fields : List Field) (impls : List Method) :
    dataClass name base (fields.map Field.unlined) (impls.map Method.unlined) (methods.map Resolved.unlined) =
      dataClass name base fields impls methods := by
  unfold dataClass
  rw [List.isEmpty_map, List.isEmpty_map, List.map_map, List.flatMap_map, funext (impl_method_unlined methods)]
  rfl

theorem delegates_unlined : delegates (methods.map Resolved.unlined) = delegates methods := by
  induction methods with
  | nil => rfl
  | cons method rest ih =>
      rw [List.map_cons, delegates, delegates, ih]
      rfl

end

theorem state_names_unlined (spec : Spec) : spec.unlined.states.map (·.name) = spec.states.map (·.name) := List.map_map

theorem event_names_unlined (spec : Spec) : spec.unlined.events.map (·.name) = spec.events.map (·.name) := by
  rw [unlined_events]
  exact List.map_map

/-! Deterministic machines. -/

namespace Deterministic

variable (spec : Spec)

theorem machine_methods_unlined (state : Text) (transitions : List Transition) :
    machineMethods spec.unlined state (transitions.map Transition.unlined) = machineMethods spec state transitions := by
  induction transitions with
  | nil => rfl
  | cons transition rest ih =>
      rw [List.map_cons, machineMethods, machineMethods, ih]
      rfl

theorem machine_class_unlined (state : State) : machineClass spec.unlined state.unlined = machineClass spec state := by
  unfold machineClass
  rw [show state.unlined.transitions = state.transitions.map Transition.unlined from rfl, List.flatMap_map]
  exact congrArg (Except.map _) (machine_methods_unlined spec state.name state.transitions)

theorem machine_classes_unlined (states : List State) :
    machineClasses spec.unlined (states.map State.unlined) = machineClasses spec states := by
  induction states with
  | nil => rfl
  | cons state rest ih => rw [List.map_cons, machineClasses, machineClasses, ih, machine_class_unlined]

theorem trait_lines_unlined : traitLines spec.unlined = traitLines spec := by
  unfold traitLines
  rw [unlined_trait_methods, show spec.unlined.stateTrait = spec.stateTrait.map Trait.unlined from rfl]
  cases spec.stateTrait with
  | none => rfl
  | some one => exact congrArg ([] :: [] :: ·) (trait_class_unlined _ _ _ _)

theorem state_lines_unlined : stateLines spec.unlined = stateLines spec := by
  unfold stateLines
  rw [unlined_trait_methods, unlined_trait_name, show spec.unlined.states = spec.states.map State.unlined from rfl,
    List.flatMap_map]
  exact congrArg (List.flatMap · _) (funext fun state => congrArg ([] :: [] :: ·) (data_class_unlined _ _ _ _ _))

theorem module_unlined : module spec.unlined = module spec := by
  have exported : exports spec.unlined = exports spec := by
    unfold exports
    rw [state_names_unlined, unlined_trait_name]
    rfl
  have imported : imports spec.unlined = imports spec := by
    unfold imports
    rw [show spec.unlined.stateTrait.isSome = spec.stateTrait.isSome from Option.isSome_map]
  have registered : registry spec.unlined = registry spec := by
    unfold registry
    rw [show spec.unlined.states = spec.states.map State.unlined from rfl, List.map_map]
    rfl
  unfold module
  rw [exported, imported, registered, trait_lines_unlined, state_lines_unlined]
  exact congrArg (Except.map _) (machine_classes_unlined spec spec.states)

end Deterministic

/-! Event-driven machines. -/

namespace EventDriven

def Parts.unlined (parts : Parts) : Parts :=
  ⟨parts.spec.unlined, parts.stateEnum.unlined, parts.eventEnum.unlined, parts.table.unlined⟩

variable (parts : Parts)

theorem methods_unlined (side : Side) : parts.unlined.methods side = (parts.methods side).map Resolved.unlined :=
  unlined_trait_methods parts.spec side

theorem awaited_unlined : parts.unlined.awaited = parts.awaited := by
  funext hook
  unfold Parts.awaited Parts.awaits
  rw [methods_unlined, methods_unlined, ← List.map_append, ← List.map_reverse, Validation.find_unlined]
  cases ((parts.methods .state ++ parts.methods .event).reverse).find? (·.name == hook.name) <;> rfl

theorem event_trait_lines_unlined (side : Side) : traitLines parts.unlined side = traitLines parts side := by
  have bases : ((parts.unlined.spec.declaredTrait side).map (·.bases)).getD [] =
      ((parts.spec.declaredTrait side).map (·.bases)).getD [] := by
    rw [show parts.unlined.spec = parts.spec.unlined from rfl, unlined_declared_trait]
    cases parts.spec.declaredTrait side <;> rfl
  unfold traitLines
  dsimp only
  rw [bases, methods_unlined, trait_class_unlined, show parts.unlined.spec = parts.spec.unlined from rfl,
    unlined_trait_name]
  rfl

theorem data_lines_unlined : stateLines parts.unlined = stateLines parts ∧ eventLines parts.unlined = eventLines parts := by
  unfold stateLines eventLines
  rw [show parts.unlined.spec = parts.spec.unlined from rfl, methods_unlined, methods_unlined, unlined_trait_name,
    unlined_trait_name, unlined_events, show parts.spec.unlined.states = parts.spec.states.map State.unlined from rfl,
    List.flatMap_map, List.flatMap_map]
  exact ⟨congrArg (List.flatMap · _) (funext fun state => congrArg ([] :: [] :: ·) (data_class_unlined _ _ _ _ _)),
    congrArg (List.flatMap · _) (funext fun event => congrArg ([] :: [] :: ·) (data_class_unlined _ _ _ _ _))⟩

theorem members_unlined (side : Side) : (wrapping parts.unlined side).members = (wrapping parts side).members := by
  cases side with
  | state => exact state_names_unlined parts.spec
  | event => exact event_names_unlined parts.spec

theorem enumeration_class_unlined (side : Side) :
    enumerationClass (wrapping parts.unlined side) = enumerationClass (wrapping parts side) := by
  have fixed_ : (wrapping parts.unlined side).fixedLines = (wrapping parts side).fixedLines := by
    have whole : wrapping parts.unlined side =
        { enumeration := (wrapping parts side).enumeration.unlined, members := (wrapping parts side).members
          methods := (wrapping parts.unlined side).methods, side, machine := parts.name } := by
      rw [← members_unlined]
      cases side <;> rfl
    rw [whole]
    rfl
  unfold enumerationClass
  rw [fixed_, show (wrapping parts.unlined side).methods = (wrapping parts side).methods.map Resolved.unlined from
    methods_unlined parts side, delegates_unlined]

theorem handler_unlined (entry : Entry) : handler parts.unlined entry.unlined = handler parts entry := by
  unfold handler
  rw [show entry.unlined.resolution = entry.resolution.unlined from rfl]
  cases entry.resolution <;> rfl

theorem explicit_unlined (table : Table) :
    table.unlined.explicitEntries = table.explicitEntries.map Entry.unlined := by
  unfold Table.explicitEntries
  rw [show table.unlined.entries = table.entries.map Entry.unlined from rfl, List.filter_map]
  refine congrArg (List.map _) (List.filter_congr fun entry _ => ?_)
  change entry.resolution.unlined.isExplicit = entry.resolution.isExplicit
  cases entry.resolution <;> rfl

theorem handlers_unlined :
    parts.unlined.table.explicitEntries.flatMap (handler parts.unlined) =
      parts.table.explicitEntries.flatMap (handler parts) := by
  rw [show parts.unlined.table = parts.table.unlined from rfl, explicit_unlined, List.flatMap_map,
    funext (handler_unlined parts)]

theorem table_lines_unlined : tableLines parts.unlined = tableLines parts := by
  have row (entry : Entry) : tableRow entry.unlined = tableRow entry := by
    unfold tableRow
    rw [show entry.unlined.resolution = entry.resolution.unlined from rfl]
    cases entry.resolution <;> rfl
  unfold tableLines
  rw [show parts.unlined.table.entries = parts.table.entries.map Entry.unlined from rfl, List.map_map]
  exact congrArg (fun rows => [] :: [] :: _ :: rows ++ _) (List.map_congr_left fun entry _ => row entry)

theorem catch_all_lines_unlined : catchAllLines parts.unlined = catchAllLines parts := by
  unfold catchAllLines
  rw [show parts.unlined.spec = parts.spec.unlined from rfl, unlined_catch_all]
  cases parts.spec.catchAll? <;> rfl

theorem machine_class_lines_unlined : machineClass parts.unlined = machineClass parts := by
  unfold machineClass dispatchStart dispatchChoice dispatchMove dispatchEnd
  rw [awaited_unlined]
  rfl

theorem module_parts_unlined : module parts.unlined = module parts := by
  have exported : exports parts.unlined = exports parts := by
    unfold exports
    dsimp only
    rw [show parts.unlined.spec = parts.spec.unlined from rfl, state_names_unlined, event_names_unlined,
      unlined_trait_name, unlined_trait_name]
    rfl
  unfold module
  dsimp only
  rw [exported, enumeration_class_unlined, enumeration_class_unlined, event_trait_lines_unlined,
    event_trait_lines_unlined, (data_lines_unlined parts).1, (data_lines_unlined parts).2, handlers_unlined,
    table_lines_unlined, catch_all_lines_unlined, machine_class_lines_unlined,
    show parts.unlined.spec = parts.spec.unlined from rfl, state_names_unlined, event_names_unlined]
  rfl

end EventDriven

end Emission

/-! Modules. -/

section

variable (spec : Spec)

theorem repeated_unlined (seen : List (Text × Text)) (owned : List (Text × Transition)) :
    Spec.repeatedPair? seen (owned.map unlinedOwned) = (Spec.repeatedPair? seen owned).map unlinedOwned := by
  induction owned generalizing seen with
  | nil => rfl
  | cons item rest ih =>
      obtain ⟨state, transition⟩ := item
      rw [List.map_cons, Spec.repeatedPair?]
      change (if seen.contains (state, transition.trigger) = true then some (unlinedOwned (state, transition))
        else Spec.repeatedPair? ((state, transition.trigger) :: seen) (rest.map unlinedOwned)) = _
      rw [ih, Spec.repeatedPair?]
      split <;> rfl

theorem found_unlined (owned : List (Text × Transition)) (wanted : Text × Transition → Bool)
    (same : ∀ state transition, wanted (state, transition.unlined) = wanted (state, transition)) :
    (owned.map unlinedOwned).find? wanted = (owned.find? wanted).map unlinedOwned := by
  have blind : wanted ∘ unlinedOwned = wanted := funext fun one => same one.1 one.2
  rw [List.find?_map, blind]

theorem resolution_unlined (state event : Text) :
    spec.unlined.resolution state event = (spec.resolution state event).unlined := by
  unfold Spec.resolution
  rw [unlined_owned, found_unlined _ _ fun _ _ => rfl, unlined_catch_all, Option.isSome_map]
  generalize spec.ownedTransitions.find? _ = found
  cases found with
  | some one => rfl
  | none =>
      dsimp only [Option.map]
      split <;> rfl

-- The table, or the transition that there is none for, without its line.
def unlinedTable : Except TableFault Table → Except TableFault Table
  | .ok table => .ok table.unlined
  | .error (.repeated state transition) => .error (.repeated state transition.unlined)
  | .error fault => .error fault

theorem table_unlined : spec.unlined.table = unlinedTable spec.table := by
  unfold Spec.table
  rw [show spec.unlined.isEventDriven = spec.isEventDriven from rfl, unlined_owned, repeated_unlined]
  cases spec.isEventDriven with
  | false => rfl
  | true =>
      dsimp only [Bool.not_true]
      rw [if_neg (by decide), if_neg (by decide)]
      cases Spec.repeatedPair? [] spec.ownedTransitions with
      | some item => rfl
      | none =>
          dsimp only [Option.map]
          rw [Emission.state_names_unlined, Emission.event_names_unlined]
          simp only [resolution_unlined, unlinedTable, Table.unlined, List.map_flatMap, List.map_map]
          rfl

-- What is prepared is the same table without its lines, or the same rejection but for the line.
theorem prepare_unlined :
    spec.unlined.prepare.mapError Rejection.unlined =
      (spec.prepare.map (Option.map Table.unlined)).mapError Rejection.unlined := by
  have verdict := Validation.verdict_alike spec
  unfold Spec.prepare
  rw [table_unlined, show spec.unlined.isEventDriven = spec.isEventDriven from rfl]
  unfold Validation.Alike at verdict
  cases found : spec.validate with
  | error rejection =>
      cases bare : spec.unlined.validate with
      | error other =>
          rw [found, bare] at verdict
          exact congrArg Except.error (Except.error.inj verdict)
      | ok value =>
          rw [found, bare] at verdict
          cases verdict
  | ok value =>
      cases bare : spec.unlined.validate with
      | error other =>
          rw [found, bare] at verdict
          cases verdict
      | ok other =>
          cases spec.isEventDriven with
          | false => rfl
          | true =>
              cases spec.table with
              | ok table => rfl
              | error fault => cases fault <;> rfl

theorem module_lines_unlined (table : Option Table) :
    spec.unlined.moduleLines (table.map Table.unlined) = spec.moduleLines table := by
  have plain := Emission.Deterministic.module_unlined spec
  unfold Spec.moduleLines
  rw [show spec.unlined.kind = spec.kind from rfl,
    show spec.unlined.stateEnum = spec.stateEnum.map Enumeration.unlined from rfl,
    show spec.unlined.eventEnum = spec.eventEnum.map Enumeration.unlined from rfl]
  cases spec.kind with
  | deterministic => exact plain
  | eventDriven =>
      cases states : spec.stateEnum with
      | none => exact plain
      | some stateEnum =>
          cases events : spec.eventEnum with
          | none => exact plain
          | some eventEnum =>
              cases table with
              | none => exact plain
              | some table => exact Emission.EventDriven.module_parts_unlined ⟨spec, stateEnum, eventEnum, table⟩

theorem render_unlined : spec.unlined.render.mapError Failure.unlined = spec.render.mapError Failure.unlined := by
  have prepared := prepare_unlined spec
  unfold Spec.render
  cases found : spec.prepare with
  | error rejection =>
      cases bare : spec.unlined.prepare with
      | error other =>
          rw [found, bare] at prepared
          have same : other.unlined = rejection.unlined := Except.error.inj prepared
          exact congrArg (Except.error ∘ Failure.rejected) same
      | ok other =>
          rw [found, bare] at prepared
          cases prepared
  | ok table =>
      cases bare : spec.unlined.prepare with
      | error other =>
          rw [found, bare] at prepared
          cases prepared
      | ok other =>
          rw [found, bare] at prepared
          obtain rfl : other = table.map Table.unlined := Except.ok.inj prepared
          dsimp only
          unfold Spec.emit
          rw [module_lines_unlined]
          rfl

end

end Statewright
