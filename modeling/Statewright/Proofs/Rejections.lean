import Statewright.Proofs.FragmentChecks
import Statewright.Proofs.Names

/-!
Rejections. Every check that refuses a specification names a violation, except the one that wants the enumerations of
an event-driven machine. A violation is reported at a part of the specification and on its line, or, for a body that
cannot be read, as many lines below as the mistake stands below its first line.
-/
set_option autoImplicit false

namespace Statewright.Validation

-- What has fields and methods of its own: a state or an event.
inductive Owns (spec : Spec) : Text → List Field → List Method → Nat → Prop
  | state (one : State) (member : one ∈ spec.states) : Owns spec one.name one.fields one.impls one.line
  | event (one : Event) (member : one ∈ spec.declaredEvents ∨ one ∈ spec.events) :
      Owns spec one.name one.fields one.impls one.line

-- Where a violation can be reported: what names the place, and the line.
inductive Site (spec : Spec) : Text → Nat → Prop
  | machine : Site spec spec.name spec.line
  | context : Site spec spec.context spec.line
  | code : Site spec "prelude" spec.line
  | trait_ (side : Side) (name : Text) (named : spec.traitName? side = some name) :
      Site spec name (((spec.declaredTrait side).map (·.line)).getD spec.line)
  | base (side : Side) (one : Trait) (declared : spec.declaredTrait side = some one) (base : Text) :
      Site spec (one.name ++ '(' :: base ++ [')']) one.line
  | method (side : Side) (one : Trait) (declared : spec.declaredTrait side = some one) (method : Method)
      (member : method ∈ one.methods) : Site spec (one.name ++ '.' :: method.name) method.line
  | enumeration (one : Enumeration) (member : one ∈ spec.stateEnum.toList ++ spec.eventEnum.toList) :
      Site spec one.name one.line
  | decorator (owner : Text) (line : Nat) (site : Site spec owner line) : Site spec (owner ++ " attribute") line
  | owner (name : Text) (fields : List Field) (impls : List Method) (line : Nat)
      (owns : Owns spec name fields impls line) :
      Site spec name line
  | field (name : Text) (fields : List Field) (impls : List Method) (line : Nat)
      (owns : Owns spec name fields impls line)
      (field : Field) (member : field ∈ fields) : Site spec (name ++ '.' :: field.name) field.line
  | impl (name : Text) (fields : List Field) (impls : List Method) (line : Nat)
      (owns : Owns spec name fields impls line)
      (impl : Method) (member : impl ∈ impls) : Site spec (name ++ '.' :: impl.name) impl.line
  | machineClass (state : State) (member : state ∈ spec.states) : Site spec (machineClass spec state.name) state.line
  | transition (state : State) (member : state ∈ spec.states) (one : Transition) (own : one ∈ state.transitions) :
      Site spec (state.name ++ '.' :: one.trigger) one.line
  | trigger (state : State) (member : state ∈ spec.states) (one : Transition) (own : one ∈ state.transitions) :
      Site spec one.trigger one.line
  | pair (state : State) (member : state ∈ spec.states) (one : Transition) (own : one ∈ state.transitions) :
      Site spec (pairElement state.name one.trigger) one.line
  | catchAll (one : CatchAll) (member : one ∈ spec.catchAlls) : Site spec "_" one.line

-- A body, with what names it and its line.
inductive Carries (spec : Spec) : Text → Text → Nat → Prop
  | method (side : Side) (one : Trait) (declared : spec.declaredTrait side = some one) (method : Method)
      (member : method ∈ one.methods) : Carries spec (one.name ++ '.' :: method.name) method.body method.line
  | impl (name : Text) (fields : List Field) (impls : List Method) (line : Nat)
      (owns : Owns spec name fields impls line)
      (impl : Method) (member : impl ∈ impls) : Carries spec (name ++ '.' :: impl.name) impl.body impl.line
  | transition (state : State) (member : state ∈ spec.states) (one : Transition) (own : one ∈ state.transitions) :
      Carries spec (state.name ++ '.' :: one.trigger) one.body one.line
  | catchAll (one : CatchAll) (member : one ∈ spec.catchAlls) : Carries spec "_" one.body one.line

inductive Reported (spec : Spec) : Violation → Prop
  | site (breach : Breach) (element : Text) (line : Nat) (apart : breach ≠ .badBody) (site : Site spec element line) :
      Reported spec ⟨breach, element, line⟩
  | body (element body : Text) (line : Nat) (carries : Carries spec element body line)
      (filled : Text.blank body = false)
      (isAsync : Bool) (at_ : Nat) (broken : Code.readBody isAsync body = .error at_) :
      Reported spec ⟨.badBody, element, line + (at_ - 2)⟩

-- A check that refuses says what is violated, and reports it where it can be.
def Explains {α : Type} (spec : Spec) (check : Check α) : Prop :=
  ∀ rejection, check = .error rejection → ∃ violation, rejection = .violation violation ∧ Reported spec violation

section

variable {α β : Type} {spec : Spec}

theorem explains_ok (value : α) : Explains spec (.ok value) := fun _ refused => by cases refused

theorem explains_violate (breach : Breach) (apart : breach ≠ .badBody) (element : Text) (line : Nat)
    (site : Site spec element line) : Explains spec (violate breach element line : Check α) := by
  intro rejection refused
  exact ⟨⟨breach, element, line⟩, (Except.error.inj refused).symm, .site breach element line apart site⟩

theorem explains_ensure (condition : Bool) (breach : Breach) (apart : breach ≠ .badBody) (element : Text) (line : Nat)
    (site : Site spec element line) : Explains spec (ensure condition breach element line) := by
  cases condition with
  | true => exact explains_ok ()
  | false => exact explains_violate breach apart element line site

theorem explains_bind (first : Check α) (next : α → Check β) (before : Explains spec first)
    (after : ∀ value, Explains spec (next value)) : Explains spec (first >>= next) := by
  intro rejection refused
  cases one : first with
  | error other =>
      rw [one] at refused
      obtain rfl := Except.error.inj refused
      exact before other one
  | ok value =>
      rw [one] at refused
      exact after value rejection refused

theorem explains_forM (items : List α) (check : α → Check Unit) (each : ∀ item ∈ items, Explains spec (check item)) :
    Explains spec (items.forM check) := by
  induction items with
  | nil => exact explains_ok ()
  | cons item rest ih =>
      rw [List.forall_mem_cons] at each
      exact explains_bind _ _ each.1 fun _ => ih each.2

theorem explains_foldlM (items : List α) (step : β → α → Check β) (start : β)
    (each : ∀ state, ∀ item ∈ items, Explains spec (step state item)) : Explains spec (items.foldlM step start) := by
  induction items generalizing start with
  | nil => exact explains_ok start
  | cons item rest ih =>
      exact explains_bind _ _ (each start item List.mem_cons_self) fun next =>
        ih next fun state other member => each state other (List.mem_cons_of_mem _ member)

/-! Names. -/

theorem field_names_explain (name : Text) (fields : List Field) (impls : List Method) (line : Nat)
    (owns : Owns spec name fields impls line) : Explains spec (checkFieldNames name fields) :=
  explains_forM _ _ fun one member => explains_ensure _ _ (by nofun) _ _ (.field name fields impls line owns one member)

theorem claim_explains (claims : Claims) (name : Text) (role : Role) (line : Nat) (site : Site spec name line) :
    Explains spec (claim claims name role line) := by
  refine explains_bind _ _ (explains_ensure _ _ (by nofun) _ _ site) fun _ => ?_
  cases claims.lookup name with
  | some other => exact explains_violate _ (by nofun) _ _ site
  | none => exact explains_ok _

theorem claim_trait_explains (claims : Claims) (side : Side) (role : Role)
    (known : (spec.declaredTrait side).isSome = true ∨ spec.isEventDriven = true) :
    Explains spec (claimTrait spec claims side role) := by
  obtain ⟨name, named⟩ : ∃ name, spec.traitName? side = some name := by
    unfold Spec.traitName?
    cases declared : spec.declaredTrait side with
    | some one => exact ⟨one.name, rfl⟩
    | none =>
        rw [declared] at known
        exact ⟨_, if_pos (known.resolve_left nofun)⟩
  rw [claimTrait, named]
  exact claim_explains _ _ _ _ (.trait_ side name named)

theorem enumeration_explains (claims : Claims) (enumeration : Option Enumeration) (role : Role)
    (present : enumeration.isSome = true) (site : ∀ one ∈ enumeration, Site spec one.name one.line) :
    Explains spec (claimEnumeration claims enumeration role) := by
  cases enumeration with
  | none => cases present
  | some enumeration => exact claim_explains _ _ _ _ (site enumeration rfl)

theorem event_names_explain (seen : List Text) (events : List Event)
    (declared : ∀ one ∈ events, one ∈ spec.declaredEvents) :
    Explains spec (checkEventNames seen events) := by
  induction events generalizing seen with
  | nil => exact explains_ok ()
  | cons event rest ih =>
      rw [List.forall_mem_cons] at declared
      have owns : Owns spec event.name event.fields event.impls event.line := .event event (.inl declared.1)
      exact explains_bind _ _ (explains_ensure _ _ (by nofun) _ _ (.owner _ _ _ _ owns)) fun _ =>
        explains_bind _ _ (field_names_explain _ _ _ _ owns) fun _ => ih _ declared.2

theorem claim_state_explains (claims : Claims) (state : State) (member : state ∈ spec.states) :
    Explains spec (claimState claims state) := by
  have owns : Owns spec state.name state.fields state.impls state.line := .state state member
  have site : Site spec state.name state.line := .owner _ _ _ _ owns
  exact explains_bind _ _ (explains_ensure _ _ (by nofun) _ _ site) fun _ =>
    explains_bind _ _ (claim_explains _ _ _ _ site) fun _ =>
      explains_bind _ _ (field_names_explain _ _ _ _ owns) fun _ => explains_ok _

theorem enumeration_listed (one : Enumeration) (among : one ∈ spec.stateEnum ∨ one ∈ spec.eventEnum) :
    Site spec one.name one.line :=
  .enumeration one (List.mem_append.mpr (among.imp Option.mem_toList.mpr Option.mem_toList.mpr))

theorem names_explain (enumerated : Enumerated spec) : Explains spec (checkNames spec) := by
  refine explains_bind _ _ (explains_ensure _ _ (by nofun) _ _ .machine) fun _ => ?_
  refine explains_bind _ _ (explains_ensure _ _ (by nofun) _ _ .context) fun _ => ?_
  refine explains_bind _ _ (explains_ensure _ _ (by nofun) _ _ .machine) fun _ => ?_
  refine explains_bind _ _ (claim_explains _ _ _ _ .machine) fun _ => ?_
  refine explains_bind _ _ (explains_foldlM _ _ _ claim_state_explains) fun claims => ?_
  cases kind : spec.kind with
  | deterministic =>
      have machines (claims : Claims) :
          Explains spec (do let _ ← spec.states.foldlM (claimMachineClass spec) claims) :=
        explains_bind _ _ (explains_foldlM _ _ _ fun _ state member =>
          claim_explains _ _ _ _ (.machineClass state member)) fun _ => explains_ok ()
      simp only
      cases declared : spec.stateTrait.isSome with
      | true => exact explains_bind _ _ (claim_trait_explains _ .state _ (.inl declared)) fun _ => machines _
      | false => exact explains_bind _ _ (explains_ok claims) fun _ => machines _
  | eventDriven =>
      obtain ⟨states, events⟩ := enumerated kind
      have both : spec.isEventDriven = true := by simp [Spec.isEventDriven, kind]
      exact explains_bind _ _ (claim_trait_explains _ .state _ (.inr both)) fun _ =>
        explains_bind _ _ (claim_trait_explains _ .event _ (.inr both)) fun _ =>
          explains_bind _ _ (enumeration_explains _ _ _ states fun one present =>
              enumeration_listed one (.inl present)) fun _ =>
            explains_bind _ _ (enumeration_explains _ _ _ events fun one present =>
                enumeration_listed one (.inr present)) fun _ => event_names_explain _ _ fun _ member => member

/-! Code. -/

theorem fragment_explains (reading : Code.Reading α) (breach : Breach) (apart : breach ≠ .badBody) (element : Text)
    (line : Nat) (site : Site spec element line) : Explains spec (fragment reading breach element fun _ => line) := by
  cases reading with
  | ok value => exact explains_ok value
  | error at_ => exact explains_violate _ apart _ _ site

theorem params_explain (text element : Text) (line : Nat) (site : Site spec element line) :
    Explains spec (params text element line) :=
  fragment_explains _ _ (by nofun) _ _ site

theorem expression_explains (code element : Text) (line : Nat) (site : Site spec element line) :
    Explains spec (checkExpression code element line) :=
  explains_bind _ _ (fragment_explains _ _ (by nofun) _ _ site) fun _ => explains_ok ()

theorem statements_explain (code element : Text) (line : Nat) (site : Site spec element line) :
    Explains spec (checkStatements code element line) :=
  explains_bind _ _ (fragment_explains _ _ (by nofun) _ _ site) fun _ => explains_ok ()

theorem body_explains (body : Text) (isAsync : Bool) (element : Text) (line : Nat)
    (carries : Carries spec element body line) :
    Explains spec (checkBody body isAsync element line) := by
  unfold checkBody
  cases filled : Text.blank body with
  | true => exact explains_ok ()
  | false =>
      refine explains_bind _ _ ?_ fun _ => explains_ok ()
      cases broken : Code.readBody isAsync body with
      | ok value => exact explains_ok value
      | error at_ =>
          intro rejection refused
          exact ⟨_, (Except.error.inj refused).symm, .body element body line carries filled isAsync at_ broken⟩

theorem filled_explains (text : Text) (check : Check Unit) (explained : Explains spec check) :
    Explains spec (whenFilled text check) := by
  unfold whenFilled
  cases text.isEmpty with
  | true => exact explains_ok ()
  | false => exact explained

theorem given_explains (code : Option Text) (check : Text → Check Unit)
    (explained : ∀ text, Explains spec (check text)) :
    Explains spec (whenGiven code check) := by
  cases code with
  | none => exact explains_ok ()
  | some text => exact explained text

theorem fields_explain (owner : Text) (seen : List Text) (defaults : Bool) (fields : List Field)
    (sites : ∀ one ∈ fields, Site spec (owner ++ '.' :: one.name) one.line) :
    Explains spec (checkFields owner seen defaults fields) := by
  induction fields generalizing seen defaults with
  | nil => exact explains_ok ()
  | cons field rest ih =>
      rw [List.forall_mem_cons] at sites
      rw [checkFields_cons]
      exact explains_bind _ _ (explains_ensure _ _ (by nofun) _ _ sites.1) fun _ =>
        explains_bind _ _ (filled_explains _ _ (expression_explains _ _ _ sites.1)) fun _ =>
          explains_bind _ _ (given_explains _ _ fun _ => expression_explains _ _ _ sites.1) fun _ =>
            explains_bind _ _ (given_explains _ _ fun _ => expression_explains _ _ _ sites.1) fun _ =>
              explains_bind _ _ (explains_ensure _ _ (by nofun) _ _ sites.1) fun _ => ih _ _ sites.2

theorem decorators_explain (owner : Text) (decorators : List Text) (line : Nat) (site : Site spec owner line) :
    Explains spec (checkDecorators owner decorators line) :=
  explains_forM _ _ fun _ _ => expression_explains _ _ _ (.decorator owner line site)

theorem impls_explain (name : Text) (fields : List Field) (impls : List Method) (line : Nat)
    (owns : Owns spec name fields impls line) (asyncNames : List Text) :
    Explains spec (checkImpls name asyncNames impls) :=
  explains_forM _ _ fun one member => body_explains _ _ _ _ (.impl name fields impls line owns one member)

theorem method_code_explains (owner : Text) (method : Resolved)
    (carries : Carries spec (owner ++ '.' :: method.name) method.body method.line)
    (site : Site spec (owner ++ '.' :: method.name) method.line) : Explains spec (methodCode owner method) :=
  explains_bind _ _ (params_explain _ _ _ site) fun _ =>
    explains_bind _ _ (filled_explains _ _ (expression_explains _ _ _ site)) fun _ => body_explains _ _ _ _ carries

-- The hooks that are added can be read, so that nothing is reported at them.
theorem hooks_read (hook : Hook) (side : Side) (member : hook ∈ Hook.ofSide side) (isAsync : Bool) :
    (Code.readMethodParams hook.paramText).toBool = true ∧ (Code.readExpression hook.returns).toBool = true ∧
      (Code.readBody isAsync hook.body).toBool = true := by
  have each : ∀ hook ∈ Hook.ofSide .state ++ Hook.ofSide .event, ∀ isAsync : Bool,
      (Code.readMethodParams hook.paramText).toBool = true ∧ (Code.readExpression hook.returns).toBool = true ∧
        (Code.readBody isAsync hook.body).toBool = true := by decide +kernel
  refine each hook ?_ isAsync
  cases side with
  | state => exact List.mem_append_left _ member
  | event => exact List.mem_append_right _ member

theorem reads_of_bool (reading : Code.Reading α) (reads : reading.toBool = true) : Code.Reads reading := by
  cases reading with
  | ok value => exact ⟨value, rfl⟩
  | error at_ => cases reads

theorem hook_listed (side : Side) (hook : Hook) (member : hook ∈ spec.hooks side) : hook ∈ Hook.ofSide side := by
  unfold Spec.hooks at member
  split at member
  · exact member
  · cases member

theorem generated_passes (side : Side) (hook : Hook) (member : hook ∈ spec.hooks side) (owner : Text) :
    methodCode owner (spec.generate hook) = .ok () := by
  obtain ⟨params, returns, body⟩ := hooks_read hook side (hook_listed side hook member) spec.isAsync
  rw [methodCode, params_then_eq_ok, then_eq_ok, whenFilled_eq_ok, expression_eq_ok, body_eq_ok]
  exact ⟨reads_of_bool _ params, fun _ => reads_of_bool _ returns, fun _ => reads_of_bool _ body⟩

theorem trait_code_explains (side : Side) : Explains spec (checkTraitCode spec side) := by
  rw [checkTraitCode_eq]
  refine explains_forM _ _ fun method member => ?_
  rcases List.mem_append.mp member with declared | generated
  · obtain ⟨own, among, rfl⟩ := List.mem_map.mp declared
    cases given : spec.declaredTrait side with
    | none =>
        rw [given] at among
        cases among
    | some one =>
        rw [given] at among
        have name : (spec.traitName? side).getD [] = one.name := by rw [Spec.traitName?, given]; rfl
        rw [name]
        exact method_code_explains _ _ (.method side one given own among) (.method side one given own among)
  · obtain ⟨hook, among, rfl⟩ := List.mem_map.mp generated
    rw [generated_passes side hook (List.mem_filter.mp among).1]
    exact explains_ok ()

theorem transition_code_explains (state : State) (member : state ∈ spec.states) (isAsync : Bool) (one : Transition)
    (own : one ∈ state.transitions) : Explains spec (transitionCode state.name isAsync one) :=
  explains_bind _ _ (filled_explains _ _ (explains_bind _ _ (params_explain _ _ _ (.transition state member one own))
    fun _ => explains_ok ())) fun _ => body_explains _ _ _ _ (.transition state member one own)

theorem state_code_explains (state : State) (member : state ∈ spec.states) :
    Explains spec (checkStateCode spec state) := by
  have owns : Owns spec state.name state.fields state.impls state.line := .state state member
  rw [checkStateCode_eq]
  exact explains_bind _ _ (fields_explain _ _ _ _ (.field _ _ _ _ owns)) fun _ =>
    explains_bind _ _ (impls_explain _ _ _ _ owns _) fun _ =>
      explains_forM _ _ fun one own => transition_code_explains state member _ one own

theorem event_code_explains (event : Event) (member : event ∈ spec.declaredEvents) :
    Explains spec (checkEventCode spec event) := by
  have owns : Owns spec event.name event.fields event.impls event.line := .event event (.inl member)
  exact explains_bind _ _ (fields_explain _ _ _ _ (.field _ _ _ _ owns)) fun _ => impls_explain _ _ _ _ owns _

theorem event_driven_code_explains : Explains spec (eventDrivenCode spec) := by
  unfold eventDrivenCode
  cases spec.isEventDriven with
  | false => exact explains_ok ()
  | true =>
      refine explains_bind _ _ (explains_forM _ _ event_code_explains) fun _ => ?_
      cases first : spec.catchAll? with
      | none => exact explains_ok ()
      | some one => exact body_explains _ _ _ _ (.catchAll one (List.mem_of_mem_head? first))

theorem fragments_explain : Explains spec (checkFragments spec) := by
  rw [checkFragments_eq]
  refine explains_bind _ _ (filled_explains _ _ (statements_explain _ _ _ .code)) fun _ => ?_
  refine explains_bind _ _ (decorators_explain _ _ _ .machine) fun _ => ?_
  refine explains_bind _ _ (explains_forM _ _ fun one member => ?_) fun _ => ?_
  · exact decorators_explain _ _ _ (.enumeration one member)
  refine explains_bind _ _ (trait_code_explains .state) fun _ => ?_
  refine explains_bind _ _ (trait_code_explains .event) fun _ => ?_
  exact explains_bind _ _ (explains_forM _ _ state_code_explains) fun _ => event_driven_code_explains

/-! Transitions. -/

theorem destination_explains (transition : Transition) (element : Text) (site : Site spec element transition.line) :
    Explains spec (checkDestination spec transition element) := by
  unfold checkDestination
  split
  · exact explains_ok ()
  · split
    · exact explains_violate _ (by nofun) _ _ site
    · exact explains_ensure _ _ (by nofun) _ _ site

theorem method_params_explain (transition : Transition) (element : Text) (site : Site spec element transition.line) :
    Explains spec (checkMethodParams transition element) := by
  unfold checkMethodParams
  cases transition.params.isEmpty with
  | true => exact explains_ok ()
  | false =>
      refine explains_bind _ _ (params_explain _ _ _ site) fun params => ?_
      cases bodyArguments.find? params.names.contains with
      | none => exact explains_ok ()
      | some name => exact explains_violate _ (by nofun) _ _ site

theorem methods_explain (state : State) (member : state ∈ spec.states) (seen : List Text)
    (transitions : List Transition)
    (own : ∀ one ∈ transitions, one ∈ state.transitions) :
    Explains spec (checkMethods spec state seen transitions) := by
  induction transitions generalizing seen with
  | nil => exact explains_ok ()
  | cons one rest ih =>
      rw [List.forall_mem_cons] at own
      have site : Site spec (state.name ++ '.' :: one.trigger) one.line := .transition state member one own.1
      exact explains_bind _ _ (explains_ensure _ _ (by nofun) _ _ site) fun _ =>
        explains_bind _ _ (explains_ensure _ _ (by nofun) _ _ site) fun _ =>
          explains_bind _ _ (explains_ensure _ _ (by nofun) _ _ site) fun _ =>
            explains_bind _ _ (destination_explains _ _ site) fun _ =>
              explains_bind _ _ (method_params_explain _ _ site) fun _ => ih _ own.2

theorem reference_explains (transition : Transition) (site : Site spec transition.trigger transition.line) :
    Explains spec (checkReference spec transition) := by
  unfold checkReference
  cases spec.declaredEvents.any (·.name == transition.trigger) with
  | true => exact explains_ok ()
  | false =>
      exact explains_bind _ _ (explains_ensure _ _ (by nofun) _ _ site) fun _ => explains_ensure _ _ (by nofun) _ _ site

theorem target_explains (transition : Transition) (element : Text) (site : Site spec element transition.line) :
    Explains spec (checkTarget spec transition element) := by
  unfold checkTarget
  split
  · exact explains_ok ()
  · split
    · exact explains_violate _ (by nofun) _ _ site
    · exact explains_ensure _ _ (by nofun) _ _ site

theorem reactions_explain (seen : List (Text × Text)) (owned : List (Text × Transition))
    (listed : ∀ item ∈ owned, item ∈ spec.ownedTransitions) : Explains spec (checkReactions spec seen owned) := by
  induction owned generalizing seen with
  | nil => exact explains_ok ()
  | cons item rest ih =>
      rw [List.forall_mem_cons] at listed
      obtain ⟨state, member, own⟩ := List.mem_flatMap.mp listed.1
      obtain ⟨one, among, rfl⟩ := List.mem_map.mp own
      have site : Site spec (pairElement state.name one.trigger) one.line := .pair state member one among
      exact explains_bind _ _ (reference_explains _ (.trigger state member one among)) fun _ =>
        explains_bind _ _ (explains_ensure _ _ (by nofun) _ _ site) fun _ =>
          explains_bind _ _ (target_explains _ _ site) fun _ => ih _ listed.2

theorem event_driven_explains : Explains spec (checkEventDriven spec) := by
  refine explains_bind _ _ (reactions_explain _ _ fun _ member => member) fun _ => ?_
  refine explains_bind _ _ (explains_forM _ _ fun event member => explains_ensure _ _ (by nofun) _ _
    (.owner _ _ _ _ (.event event (.inl member)))) fun _ => ?_
  split
  · rename_i first second rest several
    exact explains_violate _ (by nofun) _ _ (.catchAll second (by simp [several]))
  · exact explains_ensure _ _ (by nofun) _ _ .machine

/-! Traits. -/

theorem hook_params_explain (hook : Hook) (params : Code.Params) (element : Text) (line : Nat)
    (site : Site spec element line) : Explains spec (checkHookParams spec hook params element line) := by
  refine explains_bind _ _ (explains_ensure _ _ (by nofun) _ _ site) fun _ => ?_
  cases (params.positionalOnly ++ params.positional).head?.bind (·.hint) with
  | none => exact explains_ok ()
  | some hint => exact explains_ensure _ _ (by nofun) _ _ site

theorem hook_explains (hook : Hook) (method : Method) (element : Text) (site : Site spec element method.line) :
    Explains spec (checkHook spec hook method element) := by
  unfold checkHook
  cases method.params with
  | none => exact explains_ensure _ _ (by nofun) _ _ site
  | some text =>
      exact explains_bind _ _ (params_explain _ _ _ site) fun _ =>
        explains_bind _ _ (hook_params_explain _ _ _ _ site) fun _ => explains_ensure _ _ (by nofun) _ _ site

theorem trait_methods_explain (side : Side) (owner : Text) (seen : List Text) (methods : List Method)
    (sites : ∀ one ∈ methods, Site spec (owner ++ '.' :: one.name) one.line) :
    Explains spec (checkTraitMethods spec side owner seen methods) := by
  induction methods generalizing seen with
  | nil => exact explains_ok ()
  | cons method rest ih =>
      rw [List.forall_mem_cons] at sites
      refine explains_bind _ _ (explains_ensure _ _ (by nofun) _ _ sites.1) fun _ => ?_
      refine explains_bind _ _ (explains_ensure _ _ (by nofun) _ _ sites.1) fun _ => ?_
      refine explains_bind _ _ (explains_ensure _ _ (by nofun) _ _ sites.1) fun _ => ?_
      refine explains_bind _ _ (explains_ensure _ _ (by nofun) _ _ sites.1) fun _ => ?_
      cases (spec.hooks side).find? (·.name == method.name) with
      | none => exact ih _ sites.2
      | some hook => exact explains_bind _ _ (hook_explains _ _ _ sites.1) fun _ => ih _ sites.2

theorem trait_explains (side : Side) : Explains spec (checkTrait spec side) := by
  unfold checkTrait
  cases declared : spec.declaredTrait side with
  | none => exact explains_ok ()
  | some one =>
      exact explains_bind _ _ (explains_forM _ _ fun base _ =>
          explains_ensure _ _ (by nofun) _ _ (.base side one declared base))
        fun _ => trait_methods_explain _ _ _ _ (.method side one declared)

theorem impl_explains (traitName : Text) (methods : List Resolved) (owner : Text) (seen : List Text)
    (impls : List Method) (sites : ∀ one ∈ impls, Site spec (owner ++ '.' :: one.name) one.line) :
    Explains spec (checkImpl traitName methods owner seen impls) := by
  induction impls generalizing seen with
  | nil => exact explains_ok ()
  | cons impl rest ih =>
      rw [List.forall_mem_cons] at sites
      rw [checkImpl]
      cases methods.find? (·.name == impl.name) with
      | none => exact explains_violate _ (by nofun) _ _ sites.1
      | some method =>
          exact explains_bind _ _ (explains_ensure _ _ (by nofun) _ _ sites.1) fun _ =>
            explains_bind _ _ (explains_ensure _ _ (by nofun) _ _ sites.1) fun _ => ih _ sites.2

theorem side_explains (side : Side) (owners : List (Text × List Field × List Method × Nat))
    (owned : ∀ one ∈ owners, Owns spec one.1 one.2.1 one.2.2.1 one.2.2.2) :
    Explains spec (checkSide spec side owners) := by
  refine explains_bind _ _ (trait_explains _) fun _ => explains_forM _ _ fun one member => ?_
  have owns := owned one member
  refine explains_bind _ _ (explains_forM _ _ fun field among => explains_ensure _ _ (by nofun) _ _
    (.field _ _ _ _ owns field among)) fun _ => ?_
  exact explains_bind _ _ (impl_explains _ _ _ _ _ (.impl _ _ _ _ owns)) fun _ =>
    explains_forM _ _ fun _ _ => explains_ensure _ _ (by nofun) _ _ (.owner _ _ _ _ owns)

theorem traits_explain : Explains spec (checkTraits spec) := by
  unfold checkTraits
  split
  · refine explains_forM _ _ fun state member => ?_
    cases listed : state.impls with
    | nil => exact explains_ok ()
    | cons impl rest =>
        exact explains_violate _ (by nofun) _ _ (.impl _ _ _ _ (.state state member) impl (listed ▸ List.mem_cons_self))
  · refine explains_bind _ _ (side_explains _ _ ?_) fun _ => ?_
    · exact List.forall_mem_map.mpr fun state member => .state state member
    split
    · exact side_explains _ _ (List.forall_mem_map.mpr fun event member => .event event (.inr member))
    · exact explains_ok ()

/-- A specification that is refused has a violation at one of its parts, if it has the enumerations of its kind. -/
theorem validate_reports (enumerated : Enumerated spec) : Explains spec spec.validate := by
  have rest : Explains spec (do checkTraits spec; checkFragments spec) :=
    explains_bind _ _ traits_explain fun _ => fragments_explain
  refine explains_bind _ _ (names_explain enumerated) fun _ => ?_
  cases spec.kind with
  | deterministic =>
      exact explains_bind _ _ (explains_forM _ _ fun state member => methods_explain state member _ _ fun _ own => own)
        fun _ => rest
  | eventDriven => exact explains_bind _ _ event_driven_explains fun _ => rest

end

theorem validate_explains (spec : Spec) (enumerated : Enumerated spec) (rejection : Rejection)
    (refused : spec.validate = .error rejection) : ∃ violation, rejection = .violation violation := by
  obtain ⟨violation, whole, _⟩ := validate_reports enumerated rejection refused
  exact ⟨violation, whole⟩

end Statewright.Validation
