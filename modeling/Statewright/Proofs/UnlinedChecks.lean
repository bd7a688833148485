import Statewright.Proofs.FragmentChecks
import Statewright.Proofs.UnlinedReaders

/-!
Verdicts without lines. Every check reaches the same verdict on a specification and on the specification without its
lines, and reports the same violation but for the line.
-/
set_option autoImplicit false

namespace Statewright

def Resolved.unlined (method : Resolved) : Resolved := { method with line := 0 }

def Violation.unlined (violation : Violation) : Violation := { violation with line := 0 }

def Rejection.unlined : Rejection → Rejection
  | violation value => .violation value.unlined
  | noEnumeration => .noEnumeration

/-! Parts of specifications. -/

section

variable (spec : Spec)

@[simp] theorem unlined_declared_trait (side : Side) :
    spec.unlined.declaredTrait side = (spec.declaredTrait side).map Trait.unlined := by
  cases side <;> rfl

@[simp] theorem unlined_trait_name (side : Side) : spec.unlined.traitName? side = spec.traitName? side := by
  unfold Spec.traitName?
  rw [unlined_declared_trait]
  cases spec.declaredTrait side <;> rfl

@[simp] theorem unlined_trait_methods (side : Side) :
    spec.unlined.traitMethods side = (spec.traitMethods side).map Resolved.unlined := by
  have methods : ((spec.unlined.declaredTrait side).map (·.methods)).getD [] =
      (((spec.declaredTrait side).map (·.methods)).getD []).map Method.unlined := by
    rw [unlined_declared_trait]
    cases spec.declaredTrait side <;> rfl
  unfold Spec.traitMethods
  rw [methods]
  simp only [List.map_append, List.map_map, List.any_map]
  rfl

@[simp] theorem unlined_state (name : Text) : spec.unlined.state? name = (spec.state? name).map State.unlined :=
  List.find?_map

@[simp] theorem unlined_declared (name : Text) :
    spec.unlined.declared? name = (spec.declared? name).map Event.unlined := List.find?_map

@[simp] theorem unlined_catch_all : spec.unlined.catchAll? = spec.catchAll?.map CatchAll.unlined := List.head?_map

@[simp] theorem unlined_transitions : spec.unlined.transitions = spec.transitions.map Transition.unlined := by
  simp only [Spec.transitions, Spec.unlined, List.flatMap_map, List.map_flatMap]
  rfl

def unlinedOwned (owned : Text × Transition) : Text × Transition := (owned.1, owned.2.unlined)

@[simp] theorem unlined_owned : spec.unlined.ownedTransitions = spec.ownedTransitions.map unlinedOwned := by
  simp only [Spec.ownedTransitions, Spec.unlined, List.flatMap_map, List.map_flatMap]
  refine congrArg (List.flatMap · _) (funext fun state => ?_)
  simp only [State.unlined, List.map_map]
  rfl

theorem firsts_map {α β : Type} (change : α → β) (name : α → Text) (other : β → Text)
    (same : ∀ item, other (change item) = name item) (seen : List Text) (items : List α) :
    firstsBy other seen (items.map change) = (firstsBy name seen items).map change := by
  induction items generalizing seen with
  | nil => rfl
  | cons item rest ih =>
      rw [List.map_cons, firstsBy, firstsBy, same]
      split
      · exact ih seen
      · rw [List.map_cons, ih]

@[simp] theorem unlined_events : spec.unlined.events = spec.events.map Event.unlined := by
  have referred : ∀ transition : Transition, spec.unlined.referred transition.unlined = (spec.referred transition).unlined := by
    intro transition
    unfold Spec.referred
    rw [show transition.unlined.trigger = transition.trigger from rfl, unlined_declared]
    cases spec.declared? transition.trigger <;> rfl
  unfold Spec.events
  rw [unlined_transitions, List.map_map, ← firsts_map Event.unlined (·.name) (·.name) fun _ => rfl]
  refine congrArg _ ?_
  rw [List.map_append, List.map_map]
  refine congrArg (· ++ _) (List.map_congr_left fun transition _ => referred transition)

end

namespace Validation

-- Two checks end alike: with the same value, or with the same violation but for its line.
def Alike {α : Type} (first second : Check α) : Prop :=
  first.mapError Rejection.unlined = second.mapError Rejection.unlined

section

variable {α β γ : Type}

theorem alike_ensure (condition : Bool) (breach : Breach) (element : Text) (line other : Nat) :
    Alike (ensure condition breach element line) (ensure condition breach element other) := by
  cases condition <;> rfl

theorem alike_bind {first second : Check α} {next then_ : α → Check β} (one : Alike first second)
    (rest : ∀ value, Alike (next value) (then_ value)) : Alike (first >>= next) (second >>= then_) := by
  unfold Alike at one
  cases first with
  | error rejection =>
      cases second with
      | error other => exact congrArg Except.error (Except.error.inj one)
      | ok value => cases one
  | ok value =>
      cases second with
      | error other => cases one
      | ok other =>
          obtain rfl := Except.ok.inj one
          exact rest value

theorem alike_forM (items : List α) (change : α → β) (bare : β → Check Unit) (check : α → Check Unit)
    (each : ∀ item, Alike (bare (change item)) (check item)) :
    Alike ((items.map change).forM bare) (items.forM check) := by
  induction items with
  | nil => rfl
  | cons item rest ih => exact alike_bind (each item) fun _ => ih

theorem alike_foldlM (items : List α) (change : α → β) (bare : γ → β → Check γ) (step : γ → α → Check γ) (start : γ)
    (each : ∀ state item, Alike (bare state (change item)) (step state item)) :
    Alike ((items.map change).foldlM bare start) (items.foldlM step start) := by
  induction items generalizing start with
  | nil => rfl
  | cons item rest ih => exact alike_bind (each start item) ih

theorem alike_filled (text : Text) {check other : Check Unit} (same : Alike check other) :
    Alike (whenFilled text check) (whenFilled text other) := by
  unfold whenFilled
  cases text.isEmpty with
  | true => rfl
  | false => exact same

theorem alike_given (code : Option Text) {check other : Text → Check Unit}
    (same : ∀ text, Alike (check text) (other text)) : Alike (whenGiven code check) (whenGiven code other) := by
  cases code with
  | none => rfl
  | some text => exact same text

/-! Names. -/

theorem claim_alike (claims : Claims) (name : Text) (role : Role) (line other : Nat) :
    Alike (claim claims name role line) (claim claims name role other) := by
  refine alike_bind (alike_ensure _ _ _ _ _) fun _ => ?_
  cases claims.lookup name <;> rfl

theorem field_names_alike (owner : Text) (fields : List Field) :
    Alike (checkFieldNames owner (fields.map Field.unlined)) (checkFieldNames owner fields) :=
  alike_forM _ _ _ _ fun _ => alike_ensure _ _ _ _ _

theorem claim_state_alike (claims : Claims) (state : State) :
    Alike (claimState claims state.unlined) (claimState claims state) :=
  alike_bind (alike_ensure _ _ _ _ _) fun _ => alike_bind (claim_alike _ _ _ _ _) fun _ =>
    alike_bind (field_names_alike _ _) fun _ => rfl

theorem event_names_alike (seen : List Text) (events : List Event) :
    Alike (checkEventNames seen (events.map Event.unlined)) (checkEventNames seen events) := by
  induction events generalizing seen with
  | nil => rfl
  | cons event rest ih =>
      exact alike_bind (alike_ensure _ _ _ _ _) fun _ => alike_bind (field_names_alike _ _) fun _ => ih _

theorem claim_enumeration_alike (claims : Claims) (enumeration : Option Enumeration) (role : Role) :
    Alike (claimEnumeration claims (enumeration.map Enumeration.unlined) role)
      (claimEnumeration claims enumeration role) := by
  cases enumeration with
  | none => rfl
  | some one => exact claim_alike _ _ _ _ _

theorem claim_trait_alike (spec : Spec) (claims : Claims) (side : Side) (role : Role) :
    Alike (claimTrait spec.unlined claims side role) (claimTrait spec claims side role) := by
  unfold claimTrait
  rw [unlined_trait_name]
  exact claim_alike _ _ _ _ _

theorem names_alike (spec : Spec) : Alike (checkNames spec.unlined) (checkNames spec) := by
  refine alike_bind (alike_ensure _ _ _ _ _) fun _ => alike_bind (alike_ensure _ _ _ _ _) fun _ => ?_
  refine alike_bind ?_ fun _ => alike_bind (claim_alike _ _ _ _ _) fun claims => ?_
  · rw [show spec.unlined.states.isEmpty = spec.states.isEmpty from List.isEmpty_map]
    exact alike_ensure _ _ _ _ _
  refine alike_bind (alike_foldlM _ _ _ _ _ claim_state_alike) fun claims => ?_
  rw [show spec.unlined.kind = spec.kind from rfl]
  cases spec.kind with
  | deterministic =>
      have machines (claims : Claims) :
          Alike (do let _ ← spec.unlined.states.foldlM (claimMachineClass spec.unlined) claims)
            (do let _ ← spec.states.foldlM (claimMachineClass spec) claims) :=
        alike_bind (alike_foldlM _ _ _ _ _ fun _ _ => claim_alike _ _ _ _ _) fun _ => rfl
      dsimp only
      rw [show spec.unlined.stateTrait.isSome = spec.stateTrait.isSome from Option.isSome_map]
      cases spec.stateTrait.isSome with
      | true => exact alike_bind (claim_trait_alike spec _ _ _) machines
      | false => exact machines claims
  | eventDriven =>
      exact alike_bind (claim_trait_alike spec _ _ _) fun _ => alike_bind (claim_trait_alike spec _ _ _) fun _ =>
        alike_bind (claim_enumeration_alike _ _ _) fun _ => alike_bind (claim_enumeration_alike _ _ _) fun _ =>
          event_names_alike _ _

/-! Code. -/

theorem fragment_alike (reading : Code.Reading α) (breach : Breach) (element : Text) (line other : Nat → Nat) :
    Alike (fragment reading breach element line) (fragment reading breach element other) := by
  cases reading <;> rfl

theorem params_alike (text element : Text) (line other : Nat) :
    Alike (params text element line) (params text element other) := fragment_alike _ _ _ _ _

theorem expression_alike (code element : Text) (line other : Nat) :
    Alike (checkExpression code element line) (checkExpression code element other) :=
  alike_bind (fragment_alike _ _ _ _ _) fun _ => rfl

theorem statements_alike (code element : Text) (line other : Nat) :
    Alike (checkStatements code element line) (checkStatements code element other) :=
  alike_bind (fragment_alike _ _ _ _ _) fun _ => rfl

theorem body_alike (body : Text) (isAsync : Bool) (element : Text) (line other : Nat) :
    Alike (checkBody body isAsync element line) (checkBody body isAsync element other) := by
  unfold checkBody
  cases Text.blank body with
  | true => rfl
  | false => exact alike_bind (fragment_alike _ _ _ _ _) fun _ => rfl

theorem fields_alike (owner : Text) (seen : List Text) (defaults : Bool) (fields : List Field) :
    Alike (checkFields owner seen defaults (fields.map Field.unlined)) (checkFields owner seen defaults fields) := by
  induction fields generalizing seen defaults with
  | nil => rfl
  | cons field rest ih =>
      rw [List.map_cons, checkFields_cons, checkFields_cons]
      exact alike_bind (alike_ensure _ _ _ _ _) fun _ =>
        alike_bind (alike_filled _ (expression_alike _ _ _ _)) fun _ =>
          alike_bind (alike_given _ fun _ => expression_alike _ _ _ _) fun _ =>
            alike_bind (alike_given _ fun _ => expression_alike _ _ _ _) fun _ =>
              alike_bind (alike_ensure _ _ _ _ _) fun _ => ih _ _

theorem decorators_alike (owner : Text) (decorators : List Text) (line other : Nat) :
    Alike (checkDecorators owner decorators line) (checkDecorators owner decorators other) := by
  have each := alike_forM decorators id (fun code => checkExpression code (owner ++ " attribute") line)
    (fun code => checkExpression code (owner ++ " attribute") other) fun _ => expression_alike _ _ _ _
  rwa [List.map_id] at each

theorem method_code_alike (owner : Text) (method : Resolved) :
    Alike (methodCode owner method.unlined) (methodCode owner method) :=
  alike_bind (params_alike _ _ _ _) fun _ => alike_bind (alike_filled _ (expression_alike _ _ _ _)) fun _ =>
    body_alike _ _ _ _ _

theorem trait_code_alike (spec : Spec) (side : Side) :
    Alike (checkTraitCode spec.unlined side) (checkTraitCode spec side) := by
  rw [checkTraitCode_eq, checkTraitCode_eq, unlined_trait_methods, unlined_trait_name]
  exact alike_forM _ _ _ _ (method_code_alike _)

theorem async_names_unlined (spec : Spec) (side : Side) : asyncNames spec.unlined side = asyncNames spec side := by
  unfold asyncNames
  rw [unlined_trait_methods, List.filter_map, List.map_map]
  rfl

theorem impls_alike (owner : Text) (asyncNames : List Text) (impls : List Method) :
    Alike (checkImpls owner asyncNames (impls.map Method.unlined)) (checkImpls owner asyncNames impls) :=
  alike_forM _ _ _ _ fun _ => body_alike _ _ _ _ _

theorem transition_code_alike (owner : Text) (isAsync : Bool) (transition : Transition) :
    Alike (transitionCode owner isAsync transition.unlined) (transitionCode owner isAsync transition) :=
  alike_bind (alike_filled _ (alike_bind (params_alike _ _ _ _) fun _ => rfl)) fun _ => body_alike _ _ _ _ _

theorem state_code_alike (spec : Spec) (state : State) :
    Alike (checkStateCode spec.unlined state.unlined) (checkStateCode spec state) := by
  rw [checkStateCode_eq, checkStateCode_eq, async_names_unlined]
  exact alike_bind (fields_alike _ _ _ _) fun _ => alike_bind (impls_alike _ _ _) fun _ =>
    alike_forM _ _ _ _ (transition_code_alike _ _)

theorem event_code_alike (spec : Spec) (event : Event) :
    Alike (checkEventCode spec.unlined event.unlined) (checkEventCode spec event) := by
  unfold checkEventCode
  rw [async_names_unlined]
  exact alike_bind (fields_alike _ _ _ _) fun _ => impls_alike _ _ _

theorem event_driven_code_alike (spec : Spec) : Alike (eventDrivenCode spec.unlined) (eventDrivenCode spec) := by
  unfold eventDrivenCode
  rw [show spec.unlined.isEventDriven = spec.isEventDriven from rfl, unlined_catch_all]
  cases spec.isEventDriven with
  | false => rfl
  | true =>
      refine alike_bind (alike_forM _ _ _ _ (event_code_alike spec)) fun _ => ?_
      cases spec.catchAll? with
      | none => rfl
      | some one => exact body_alike _ _ _ _ _

theorem fragments_alike (spec : Spec) : Alike (checkFragments spec.unlined) (checkFragments spec) := by
  have enumerations : spec.unlined.stateEnum.toList ++ spec.unlined.eventEnum.toList =
      (spec.stateEnum.toList ++ spec.eventEnum.toList).map Enumeration.unlined := by
    rw [List.map_append, ← Option.toList_map, ← Option.toList_map]
    rfl
  rw [checkFragments_eq, checkFragments_eq, enumerations]
  refine alike_bind (alike_filled _ (statements_alike _ _ _ _)) fun _ => ?_
  refine alike_bind (decorators_alike _ _ _ _) fun _ => ?_
  refine alike_bind (alike_forM _ _ _ _ fun one => decorators_alike _ _ _ _) fun _ => ?_
  refine alike_bind (trait_code_alike spec .state) fun _ => alike_bind (trait_code_alike spec .event) fun _ => ?_
  exact alike_bind (alike_forM _ _ _ _ (state_code_alike spec)) fun _ => event_driven_code_alike spec

/-! Transitions. -/

theorem constructible_unlined (state : State) : state.unlined.isDefaultConstructible = state.isDefaultConstructible :=
  List.all_map

theorem destination_alike (spec : Spec) (transition : Transition) (element : Text) :
    Alike (checkDestination spec.unlined transition.unlined element) (checkDestination spec transition element) := by
  unfold checkDestination
  rw [show transition.unlined.target = transition.target from rfl]
  cases transition.target with
  | none => rfl
  | some target =>
      dsimp only
      rw [unlined_state]
      cases spec.state? target with
      | none => rfl
      | some state =>
          dsimp only [Option.map]
          rw [constructible_unlined]
          exact alike_ensure _ _ _ _ _

theorem method_params_alike (transition : Transition) (element : Text) :
    Alike (checkMethodParams transition.unlined element) (checkMethodParams transition element) := by
  unfold checkMethodParams
  rw [show transition.unlined.params = transition.params from rfl]
  cases transition.params.isEmpty with
  | true => rfl
  | false =>
      refine alike_bind (params_alike _ _ _ _) fun params => ?_
      cases bodyArguments.find? params.names.contains <;> rfl

theorem methods_alike (spec : Spec) (state : State) (seen : List Text) (transitions : List Transition) :
    Alike (checkMethods spec.unlined state.unlined seen (transitions.map Transition.unlined))
      (checkMethods spec state seen transitions) := by
  induction transitions generalizing seen with
  | nil => rfl
  | cons transition rest ih =>
      exact alike_bind (alike_ensure _ _ _ _ _) fun _ => alike_bind (alike_ensure _ _ _ _ _) fun _ =>
        alike_bind (alike_ensure _ _ _ _ _) fun _ => alike_bind (destination_alike _ _ _) fun _ =>
          alike_bind (method_params_alike _ _) fun _ => ih _

theorem clashes_unlined (spec : Spec) (name : Text) : eventClashes spec.unlined name = eventClashes spec name := by
  have enumerations : (spec.unlined.stateEnum.toList ++ spec.unlined.eventEnum.toList).map (·.name) =
      (spec.stateEnum.toList ++ spec.eventEnum.toList).map (·.name) := by
    unfold Spec.unlined
    cases spec.stateEnum <;> cases spec.eventEnum <;> rfl
  unfold eventClashes otherClassNames
  rw [enumerations, unlined_trait_name, unlined_trait_name]
  exact congrArg (· || _) List.any_map

theorem reference_alike (spec : Spec) (transition : Transition) :
    Alike (checkReference spec.unlined transition.unlined) (checkReference spec transition) := by
  unfold checkReference
  rw [clashes_unlined, show (spec.unlined.declaredEvents.any (·.name == transition.unlined.trigger)) =
    spec.declaredEvents.any (·.name == transition.trigger) from List.any_map]
  cases spec.declaredEvents.any (·.name == transition.trigger) with
  | true => rfl
  | false => exact alike_bind (alike_ensure _ _ _ _ _) fun _ => alike_ensure _ _ _ _ _

theorem target_alike (spec : Spec) (transition : Transition) (element : Text) :
    Alike (checkTarget spec.unlined transition.unlined element) (checkTarget spec transition element) := by
  unfold checkTarget
  rw [show transition.unlined.target = transition.target from rfl]
  cases transition.target with
  | none => rfl
  | some target =>
      dsimp only
      rw [unlined_state]
      cases spec.state? target with
      | none => rfl
      | some state =>
          dsimp only [Option.map]
          rw [constructible_unlined]
          exact alike_ensure _ _ _ _ _

theorem reactions_alike (spec : Spec) (seen : List (Text × Text)) (owned : List (Text × Transition)) :
    Alike (checkReactions spec.unlined seen (owned.map unlinedOwned)) (checkReactions spec seen owned) := by
  induction owned generalizing seen with
  | nil => rfl
  | cons item rest ih =>
      exact alike_bind (reference_alike spec item.2) fun _ => alike_bind (alike_ensure _ _ _ _ _) fun _ =>
        alike_bind (target_alike _ _ _) fun _ => ih _

theorem event_driven_alike (spec : Spec) : Alike (checkEventDriven spec.unlined) (checkEventDriven spec) := by
  unfold checkEventDriven
  rw [unlined_owned, unlined_events, List.isEmpty_map]
  refine alike_bind (reactions_alike spec [] _) fun _ => alike_bind (alike_forM _ _ _ _ fun event => ?_) fun _ => ?_
  · rw [clashes_unlined]
    exact alike_ensure _ _ _ _ _
  · rw [show spec.unlined.catchAlls = spec.catchAlls.map CatchAll.unlined from rfl]
    rcases spec.catchAlls with _ | ⟨first, _ | ⟨second, rest⟩⟩
    · exact alike_ensure _ _ _ _ _
    · exact alike_ensure _ _ _ _ _
    · rfl

/-! Traits. -/

theorem hook_params_alike (spec : Spec) (hook : Hook) (params : Code.Params) (element : Text) (line other : Nat) :
    Alike (checkHookParams spec.unlined hook params element line) (checkHookParams spec hook params element other) := by
  refine alike_bind (alike_ensure _ _ _ _ _) fun _ => ?_
  cases (params.positionalOnly ++ params.positional).head?.bind (·.hint) with
  | none => rfl
  | some hint => exact alike_ensure _ _ _ _ _

theorem hook_alike (spec : Spec) (hook : Hook) (method : Method) (element : Text) :
    Alike (checkHook spec.unlined hook method.unlined element) (checkHook spec hook method element) := by
  unfold checkHook
  rw [show method.unlined.params = method.params from rfl]
  cases method.params with
  | none => exact alike_ensure _ _ _ _ _
  | some text =>
      exact alike_bind (params_alike _ _ _ _) fun _ => alike_bind (hook_params_alike _ _ _ _ _ _) fun _ =>
        alike_ensure _ _ _ _ _

theorem trait_methods_alike (spec : Spec) (side : Side) (owner : Text) (seen : List Text) (methods : List Method) :
    Alike (checkTraitMethods spec.unlined side owner seen (methods.map Method.unlined))
      (checkTraitMethods spec side owner seen methods) := by
  induction methods generalizing seen with
  | nil => rfl
  | cons method rest ih =>
      refine alike_bind (alike_ensure _ _ _ _ _) fun _ => alike_bind (alike_ensure _ _ _ _ _) fun _ => ?_
      refine alike_bind (alike_ensure _ _ _ _ _) fun _ => alike_bind (alike_ensure _ _ _ _ _) fun _ => ?_
      rw [show (spec.unlined.hooks side).find? (·.name == method.unlined.name) =
        (spec.hooks side).find? (·.name == method.name) from rfl]
      cases (spec.hooks side).find? (·.name == method.name) with
      | none => exact ih _
      | some hook => exact alike_bind (hook_alike _ _ _ _) fun _ => ih _

theorem trait_alike (spec : Spec) (side : Side) : Alike (checkTrait spec.unlined side) (checkTrait spec side) := by
  unfold checkTrait
  rw [unlined_declared_trait]
  cases spec.declaredTrait side with
  | none => rfl
  | some one =>
      refine alike_bind ?_ fun _ => trait_methods_alike _ _ _ _ _
      have bases := alike_forM one.bases id
        (fun base => ensure (Code.isPath base) .invalidBase (one.name ++ '(' :: base ++ [')']) 0)
        (fun base => ensure (Code.isPath base) .invalidBase (one.name ++ '(' :: base ++ [')']) one.line)
        fun _ => alike_ensure _ _ _ _ _
      rwa [List.map_id] at bases

theorem find_unlined (methods : List Resolved) (name : Text) :
    (methods.map Resolved.unlined).find? (·.name == name) = (methods.find? (·.name == name)).map Resolved.unlined :=
  List.find?_map

theorem impl_alike (traitName : Text) (methods : List Resolved) (owner : Text) (seen : List Text)
    (impls : List Method) :
    Alike (checkImpl traitName (methods.map Resolved.unlined) owner seen (impls.map Method.unlined))
      (checkImpl traitName methods owner seen impls) := by
  induction impls generalizing seen with
  | nil => rfl
  | cons impl rest ih =>
      rw [List.map_cons, checkImpl, checkImpl, find_unlined, show impl.unlined.name = impl.name from rfl]
      cases methods.find? (·.name == impl.name) with
      | none => rfl
      | some method => exact alike_bind (alike_ensure _ _ _ _ _) fun _ => alike_bind (alike_ensure _ _ _ _ _) fun _ => ih _

theorem field_clash_alike (methods : List Resolved) (owner : Text) (fields : List Field) :
    Alike (checkFieldClash (methods.map Resolved.unlined) owner (fields.map Field.unlined))
      (checkFieldClash methods owner fields) := by
  refine alike_forM _ _ _ _ fun field => ?_
  rw [List.any_map]
  exact alike_ensure _ _ _ _ _

theorem implemented_alike (traitName : Text) (methods : List Resolved) (owner : Text) (impls : List Method)
    (line other : Nat) :
    Alike (checkImplemented traitName (methods.map Resolved.unlined) owner (impls.map Method.unlined) line)
      (checkImplemented traitName methods owner impls other) := by
  refine alike_bind (impl_alike _ _ _ _ _) fun _ => alike_forM _ _ _ _ fun method => ?_
  rw [List.any_map]
  exact alike_ensure _ _ _ _ _

def unlinedOwner (owner : Text × List Field × List Method × Nat) : Text × List Field × List Method × Nat :=
  (owner.1, owner.2.1.map Field.unlined, owner.2.2.1.map Method.unlined, 0)

theorem side_alike (spec : Spec) (side : Side) (owners : List (Text × List Field × List Method × Nat)) :
    Alike (checkSide spec.unlined side (owners.map unlinedOwner)) (checkSide spec side owners) := by
  unfold checkSide
  rw [unlined_trait_methods, unlined_trait_name]
  refine alike_bind (trait_alike spec side) fun _ => alike_forM _ _ _ _ fun owner => ?_
  exact alike_bind (field_clash_alike _ _ _) fun _ => implemented_alike _ _ _ _ _ _

theorem traits_alike (spec : Spec) : Alike (checkTraits spec.unlined) (checkTraits spec) := by
  unfold checkTraits
  rw [show spec.unlined.stateTrait.isNone = spec.stateTrait.isNone from Option.isNone_map, unlined_events,
    show spec.unlined.isEventDriven = spec.isEventDriven from rfl,
    show spec.unlined.states = spec.states.map State.unlined from rfl, List.map_map, List.map_map]
  split
  · refine alike_forM _ _ _ _ fun state => ?_
    rw [show state.unlined.impls = state.impls.map Method.unlined from rfl]
    cases state.impls <;> rfl
  · have states := side_alike spec .state (spec.states.map fun state => (state.name, state.fields, state.impls, state.line))
    have events := side_alike spec .event (spec.events.map fun event => (event.name, event.fields, event.impls, event.line))
    rw [List.map_map] at states events
    refine alike_bind states fun _ => ?_
    split
    · exact events
    · rfl

theorem verdict_alike (spec : Spec) : Alike spec.unlined.validate spec.validate := by
  refine alike_bind (names_alike spec) fun _ => ?_
  have rest : Alike (do checkTraits spec.unlined; checkFragments spec.unlined) (do checkTraits spec; checkFragments spec) :=
    alike_bind (traits_alike spec) fun _ => fragments_alike spec
  rw [show spec.unlined.kind = spec.kind from rfl]
  cases spec.kind with
  | deterministic => exact alike_bind (alike_forM _ _ _ _ fun state => methods_alike spec state [] _) fun _ => rest
  | eventDriven => exact alike_bind (event_driven_alike spec) fun _ => rest

end

end Validation

end Statewright
