import Statewright.Proofs.Checks
import Statewright.Validation.Verdict

/-!
What the checks of code texts establish: each text can be read by the rule of its place. A text that is left out, and a
body that is blank, asks for nothing.
-/
set_option autoImplicit false

namespace Statewright

def Code.Reads {α : Type} (reading : Code.Reading α) : Prop := ∃ value, reading = .ok value

namespace Validation

open Code (Reading Reads readExpression readStatements readBody readMethodParams)

def whenFilled (text : Text) (check : Check Unit) : Check Unit := if text.isEmpty then .ok () else check

def whenGiven (code : Option Text) (check : Text → Check Unit) : Check Unit :=
  match code with
  | some code => check code
  | none => .ok ()

theorem whenFilled_eq_ok (text : Text) (check : Check Unit) :
    whenFilled text check = .ok () ↔ (text ≠ [] → check = .ok ()) := by
  cases text <;> simp [whenFilled]

theorem whenGiven_eq_ok (code : Option Text) (check : Text → Check Unit) :
    whenGiven code check = .ok () ↔ ∀ text ∈ code, check text = .ok () := by
  cases code <;> simp [whenGiven]

theorem fragment_eq_ok {α : Type} (reading : Reading α) (breach : Breach) (element : Text) (line : Nat → Nat)
    (value : α) :
    fragment reading breach element line = .ok value ↔ reading = .ok value := by
  cases reading <;> simp [fragment, violate]

theorem fragment_reads {α : Type} (reading : Reading α) (breach : Breach) (element : Text) (line : Nat → Nat) :
    (fragment reading breach element line >>= fun _ => .ok ()) = .ok () ↔ Reads reading := by
  rw [bind_eq_ok]
  simp [fragment_eq_ok, Reads]

theorem expression_eq_ok (code element : Text) (line : Nat) :
    checkExpression code element line = .ok () ↔ Reads (readExpression code) :=
  fragment_reads _ _ _ _

theorem statements_eq_ok (code element : Text) (line : Nat) :
    checkStatements code element line = .ok () ↔ Reads (readStatements code) :=
  fragment_reads _ _ _ _

theorem body_eq_ok (body : Text) (isAsync : Bool) (element : Text) (line : Nat) :
    checkBody body isAsync element line = .ok () ↔ (Text.blank body = false → Reads (readBody isAsync body)) := by
  unfold checkBody
  cases Text.blank body with
  | true => simp
  | false =>
      rw [if_neg Bool.false_ne_true]
      exact (fragment_reads _ _ _ _).trans ⟨fun reads _ => reads, fun reads => reads rfl⟩

theorem decorators_eq_ok (owner : Text) (decorators : List Text) (line : Nat) :
    checkDecorators owner decorators line = .ok () ↔ ∀ code ∈ decorators, Reads (readExpression code) := by
  rw [checkDecorators, forM_eq_ok]
  simp only [expression_eq_ok]

/-! Fields. -/

theorem checkFields_cons (owner : Text) (seen : List Text) (defaults : Bool) (field : Field) (rest : List Field) :
    checkFields owner seen defaults (field :: rest) = (do
      let element := owner ++ '.' :: field.name
      ensure (!seen.contains field.name) .duplicateField element field.line
      whenFilled field.type (checkExpression field.type element field.line)
      whenGiven field.default fun code => checkExpression code element field.line
      whenGiven field.factory fun code => checkExpression code element field.line
      ensure (field.hasDefault || !defaults) .fieldOrder element field.line
      checkFields owner (field.name :: seen) (defaults || field.hasDefault) rest) := by
  rw [checkFields]
  refine bind_congr fun _ => ?_
  unfold whenFilled whenGiven
  cases field.type.isEmpty <;> cases field.default <;> cases field.factory <;> rfl

-- The code texts of a field.
structure FieldReads (field : Field) : Prop where
  type : field.type ≠ [] → Reads (readExpression field.type)
  default : ∀ code ∈ field.default, Reads (readExpression code)
  factory : ∀ code ∈ field.factory, Reads (readExpression code)

structure FieldsRead (fields : List Field) : Prop where
  each : ∀ field ∈ fields, FieldReads field
  distinct : (fields.map (·.name)).Nodup
  ordered : fields.Pairwise fun first second => first.hasDefault = true → second.hasDefault = true

-- The walk carries the names it has seen and whether one of their fields has a default.
theorem fields_walked (owner : Text) (seen : List Text) (defaults : Bool) (fields : List Field) :
    checkFields owner seen defaults fields = .ok () ↔
      FieldsRead fields ∧ (∀ field ∈ fields, field.name ∉ seen) ∧
        (defaults = true → ∀ field ∈ fields, field.hasDefault = true) := by
  induction fields generalizing seen defaults with
  | nil => exact ⟨fun _ => ⟨⟨by simp, by simp, by simp⟩, by simp, by simp⟩, fun _ => rfl⟩
  | cons field rest ih =>
      rw [checkFields_cons]
      simp only [then_eq_ok, ensure_eq_ok, whenFilled_eq_ok, whenGiven_eq_ok, expression_eq_ok, ih,
        List.forall_mem_cons, Bool.not_eq_true', List.contains_eq_mem, decide_eq_false_iff_not, Bool.or_eq_true]
      constructor
      · rintro ⟨fresh, type, default, factory, order, ⟨each, distinct, ordered⟩, apart, later⟩
        have absent : field.name ∉ rest.map (·.name) := by
          intro again
          obtain ⟨other, member, same⟩ := List.mem_map.mp again
          exact apart other member (same ▸ List.mem_cons_self)
        refine ⟨⟨List.forall_mem_cons.mpr ⟨⟨type, default, factory⟩, each⟩, List.nodup_cons.mpr ⟨absent, distinct⟩,
          List.pairwise_cons.mpr ⟨fun other member given => later (.inr given) other member, ordered⟩⟩, ⟨fresh, ?_⟩, ?_⟩
        · exact fun other member known => apart other member (List.mem_cons_of_mem _ known)
        · intro given
          exact ⟨order.resolve_right (by simp [given]), later (.inl given)⟩
      · rintro ⟨⟨each, distinct, ordered⟩, ⟨fresh, apart⟩, later⟩
        obtain ⟨⟨type, default, factory⟩, each⟩ := List.forall_mem_cons.mp each
        obtain ⟨absent, distinct⟩ := List.nodup_cons.mp distinct
        obtain ⟨after, ordered⟩ := List.pairwise_cons.mp ordered
        refine ⟨fresh, type, default, factory, ?_, ⟨each, distinct, ordered⟩, ?_, ?_⟩
        · cases defaults with
          | true => exact .inl (later rfl).1
          | false => exact .inr rfl
        · intro other member known
          rcases List.mem_cons.mp known with same | known
          · exact absent (List.mem_map.mpr ⟨other, member, same⟩)
          · exact apart other member known
        · rintro (given | given) other member
          · exact (later given).2 other member
          · exact after other member given

theorem fields_eq_ok (owner : Text) (fields : List Field) :
    checkFields owner [] false fields = .ok () ↔ FieldsRead fields := by
  rw [fields_walked]
  simp

/-! Methods, states and events. -/

def methodCode (owner : Text) (method : Resolved) : Check Unit := do
  let element := owner ++ '.' :: method.name
  let _ ← params method.params element method.line
  whenFilled method.returns (checkExpression method.returns element method.line)
  checkBody method.body method.isAsync element method.line

theorem checkTraitCode_eq (spec : Spec) (side : Side) :
    checkTraitCode spec side = (spec.traitMethods side).forM (methodCode ((spec.traitName? side).getD [])) := by
  unfold checkTraitCode
  refine congrArg (List.forM _) (funext fun method => bind_congr fun _ => ?_)
  unfold whenFilled
  cases method.returns.isEmpty <;> rfl

structure MethodReads (method : Resolved) : Prop where
  params : Reads (readMethodParams method.params)
  returns : method.returns ≠ [] → Reads (readExpression method.returns)
  body : Text.blank method.body = false → Reads (readBody method.isAsync method.body)

theorem params_then_eq_ok (text element : Text) (line : Nat) (next : Check Unit) :
    (params text element line >>= fun _ => next) = .ok () ↔ Reads (readMethodParams text) ∧ next = .ok () := by
  simp only [bind_eq_ok, params, fragment_eq_ok, Reads]
  exact ⟨fun ⟨value, read, rest⟩ => ⟨⟨value, read⟩, rest⟩, fun ⟨⟨value, read⟩, rest⟩ => ⟨value, read, rest⟩⟩

theorem trait_code_eq_ok (spec : Spec) (side : Side) :
    checkTraitCode spec side = .ok () ↔ ∀ method ∈ spec.traitMethods side, MethodReads method := by
  rw [checkTraitCode_eq, forM_eq_ok]
  refine forall₂_congr fun method _ => ?_
  rw [methodCode, params_then_eq_ok, then_eq_ok, whenFilled_eq_ok, expression_eq_ok, body_eq_ok]
  exact ⟨fun ⟨params, returns, body⟩ => ⟨params, returns, body⟩,
    fun reads => ⟨reads.params, reads.returns, reads.body⟩⟩

-- The methods that a state or an event puts in the place of its trait's are asynchronous as those are.
def ImplsRead (asyncNames : List Text) (impls : List Method) : Prop :=
  ∀ impl ∈ impls, Text.blank impl.body = false → Reads (readBody (asyncNames.contains impl.name) impl.body)

theorem impls_eq_ok (owner : Text) (asyncNames : List Text) (impls : List Method) :
    checkImpls owner asyncNames impls = .ok () ↔ ImplsRead asyncNames impls := by
  rw [checkImpls, forM_eq_ok]
  simp only [body_eq_ok, ImplsRead]

def transitionCode (owner : Text) (isAsync : Bool) (transition : Transition) : Check Unit := do
  let element := owner ++ '.' :: transition.trigger
  whenFilled transition.params do
    let _ ← params transition.params element transition.line
    .ok ()
  checkBody transition.body isAsync element transition.line

theorem checkStateCode_eq (spec : Spec) (state : State) :
    checkStateCode spec state = (do
      checkFields state.name [] false state.fields
      checkImpls state.name (asyncNames spec .state) state.impls
      state.transitions.forM (transitionCode state.name spec.isAsync)) := by
  unfold checkStateCode
  refine bind_congr fun _ => bind_congr fun _ => congrArg (List.forM _) (funext fun transition => ?_)
  unfold transitionCode whenFilled
  cases transition.params.isEmpty with
  | true => rfl
  | false =>
      simp only [Bool.not_false, if_true, Bool.false_eq_true, if_false, bind_assoc]
      rfl

structure TransitionReads (isAsync : Bool) (transition : Transition) : Prop where
  params : transition.params ≠ [] → Reads (readMethodParams transition.params)
  body : Text.blank transition.body = false → Reads (readBody isAsync transition.body)

structure StateReads (spec : Spec) (state : State) : Prop where
  fields : FieldsRead state.fields
  impls : ImplsRead (asyncNames spec .state) state.impls
  transitions : ∀ transition ∈ state.transitions, TransitionReads spec.isAsync transition

theorem transition_eq_ok (owner : Text) (isAsync : Bool) (transition : Transition) :
    transitionCode owner isAsync transition = .ok () ↔ TransitionReads isAsync transition := by
  rw [transitionCode, then_eq_ok, whenFilled_eq_ok, params_then_eq_ok, body_eq_ok]
  exact ⟨fun ⟨params, body⟩ => ⟨fun filled => (params filled).1, body⟩,
    fun reads => ⟨fun filled => ⟨reads.params filled, rfl⟩, reads.body⟩⟩

theorem state_code_eq_ok (spec : Spec) (state : State) :
    checkStateCode spec state = .ok () ↔ StateReads spec state := by
  rw [checkStateCode_eq, then_eq_ok, then_eq_ok, fields_eq_ok, impls_eq_ok, forM_eq_ok]
  simp only [transition_eq_ok]
  exact ⟨fun ⟨fields, impls, transitions⟩ => ⟨fields, impls, transitions⟩,
    fun reads => ⟨reads.fields, reads.impls, reads.transitions⟩⟩

structure EventReads (spec : Spec) (event : Event) : Prop where
  fields : FieldsRead event.fields
  impls : ImplsRead (asyncNames spec .event) event.impls

theorem event_code_eq_ok (spec : Spec) (event : Event) :
    checkEventCode spec event = .ok () ↔ EventReads spec event := by
  rw [checkEventCode, then_eq_ok, fields_eq_ok, impls_eq_ok]
  exact ⟨fun ⟨fields, impls⟩ => ⟨fields, impls⟩, fun reads => ⟨reads.fields, reads.impls⟩⟩

/-! The whole specification. -/

def enumerationCode (enumeration : Enumeration) : Check Unit :=
  checkDecorators enumeration.name enumeration.attributes enumeration.line

def eventDrivenCode (spec : Spec) : Check Unit :=
  if spec.isEventDriven then do
    spec.declaredEvents.forM (checkEventCode spec)
    match spec.catchAll? with
    | some catchAll => checkBody catchAll.body spec.isAsync "_" catchAll.line
    | none => .ok ()
  else .ok ()

theorem for_eq_forM {α : Type} (items : List α) (check : α → Check Unit) :
    (forIn items PUnit.unit fun item _ => do
      check item
      return ForInStep.yield PUnit.unit) = items.forM check := by
  induction items with
  | nil => rfl
  | cons item rest ih =>
      rw [List.forIn_cons, bind_assoc]
      exact bind_congr fun _ => ih

theorem checkFragments_eq (spec : Spec) :
    checkFragments spec = (do
      whenFilled spec.prelude (checkStatements spec.prelude "prelude" spec.line)
      checkDecorators spec.name spec.attributes spec.line
      (spec.stateEnum.toList ++ spec.eventEnum.toList).forM enumerationCode
      checkTraitCode spec .state
      checkTraitCode spec .event
      spec.states.forM (checkStateCode spec)
      eventDrivenCode spec) := by
  unfold checkFragments whenFilled eventDrivenCode
  simp only [for_eq_forM]
  cases spec.prelude.isEmpty <;> cases spec.catchAll? <;> rfl

-- What an accepted specification has to its code: each text can be read by the rule of its place.
structure WellCoded (spec : Spec) : Prop where
  prelude : spec.prelude ≠ [] → Reads (readStatements spec.prelude)
  decorators : ∀ code ∈ spec.attributes, Reads (readExpression code)
  enumerations : ∀ enumeration ∈ spec.stateEnum.toList ++ spec.eventEnum.toList, ∀ code ∈ enumeration.attributes,
    Reads (readExpression code)
  methods : ∀ side, ∀ method ∈ spec.traitMethods side, MethodReads method
  states : ∀ state ∈ spec.states, StateReads spec state
  events : spec.kind = .eventDriven → ∀ event ∈ spec.declaredEvents, EventReads spec event
  catchAll : spec.kind = .eventDriven → ∀ catchAll ∈ spec.catchAll?, Text.blank catchAll.body = false →
    Reads (readBody spec.isAsync catchAll.body)

theorem event_driven_eq_ok (spec : Spec) :
    eventDrivenCode spec = .ok () ↔ (spec.kind = .eventDriven → ∀ event ∈ spec.declaredEvents, EventReads spec event) ∧
      (spec.kind = .eventDriven → ∀ catchAll ∈ spec.catchAll?, Text.blank catchAll.body = false →
        Reads (readBody spec.isAsync catchAll.body)) := by
  unfold eventDrivenCode
  cases kind : spec.kind with
  | deterministic => simp [Spec.isEventDriven, kind]
  | eventDriven =>
      rw [if_pos (by simp [Spec.isEventDriven, kind]), then_eq_ok, forM_eq_ok]
      simp only [event_code_eq_ok, true_imp_iff]
      refine and_congr_right fun _ => ?_
      cases spec.catchAll? with
      | none => simp
      | some catchAll => simp [body_eq_ok]

theorem fragments_eq_ok (spec : Spec) : checkFragments spec = .ok () ↔ WellCoded spec := by
  rw [checkFragments_eq]
  simp only [then_eq_ok, forM_eq_ok, enumerationCode, whenFilled_eq_ok, statements_eq_ok, decorators_eq_ok,
    trait_code_eq_ok, state_code_eq_ok, event_driven_eq_ok]
  constructor
  · rintro ⟨prelude, decorators, enumerations, stateMethods, eventMethods, states, events, catchAll⟩
    exact ⟨prelude, decorators, enumerations, fun side => by cases side <;> assumption, states, events, catchAll⟩
  · intro coded
    exact ⟨coded.prelude, coded.decorators, coded.enumerations, coded.methods .state, coded.methods .event,
      coded.states, coded.events, coded.catchAll⟩

end Validation

end Statewright
