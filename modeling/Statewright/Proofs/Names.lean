import Statewright.Proofs.Checks
import Statewright.Validation.Names
import Mathlib.Data.List.Nodup

/-!
Names that an accepted specification claims. Claims are made in the order of the specification and stop at the first
violation, but whether there is one depends on no order: they succeed exactly if the claimed names are valid, no two
alike and none reserved.
-/
set_option autoImplicit false

namespace Statewright.Validation

open Code (isName isPath)

/-! Claims. -/

theorem lookup_none_iff (claims : Claims) (name : Text) :
    claims.lookup name = none ↔ name ∉ claims.map Prod.fst := by
  rw [List.lookup_eq_none_iff]
  constructor
  · intro absent member
    obtain ⟨entry, found, rfl⟩ := List.mem_map.mp member
    exact absurd (absent entry found) (by simp)
  · intro absent entry found
    rw [bne_iff_ne]
    intro same
    exact absent (same ▸ List.mem_map_of_mem found)

theorem claim_eq_ok (claims next : Claims) (name : Text) (role : Role) (line : Nat) :
    claim claims name role line = .ok next ↔
      isName name = true ∧ name ∉ claims.map Prod.fst ∧ next = (name, role) :: claims := by
  rw [claim, bind_eq_ok, ← lookup_none_iff]
  simp only [ensure_eq_ok]
  cases claims.lookup name with
  | none => simp [pure_eq_ok, eq_comm (a := next)]
  | some other => simp [violate_ne_ok]

-- A step that claims these names: it succeeds exactly if they are valid, distinct and free, and if whatever else it looks
-- at is in order.
structure Takes (step : Claims → Check Claims) (names : List Text) (besides : Prop) : Prop where
  claimed : ∀ claims next, step claims = .ok next → next.map Prod.fst = names.reverse ++ claims.map Prod.fst
  passes : ∀ claims, (∃ next, step claims = .ok next) ↔
    besides ∧ (∀ name ∈ names, isName name = true) ∧ names.Nodup ∧ ∀ name ∈ names, name ∉ claims.map Prod.fst

theorem takes_none : Takes pure [] True where
  claimed := by simp [pure_eq_ok]
  passes := by simp [pure_eq_ok]

theorem takes_then (first second : Claims → Check Claims) (names more : List Text) (besides further : Prop)
    (before : Takes first names besides) (after : Takes second more further) :
    Takes (fun claims => first claims >>= second) (names ++ more) (besides ∧ further) where
  claimed := by
    intro claims next taken
    obtain ⟨middle, taken, rest⟩ := (bind_eq_ok _ _ _).mp taken
    rw [after.claimed _ _ rest, before.claimed _ _ taken, List.reverse_append, List.append_assoc]
  passes := by
    intro claims
    have apart : ∀ middle, first claims = .ok middle →
        ((∀ name ∈ more, name ∉ middle.map Prod.fst) ↔
          (∀ name ∈ names, ∀ other ∈ more, name ≠ other) ∧ ∀ name ∈ more, name ∉ claims.map Prod.fst) := by
      intro middle taken
      rw [before.claimed _ _ taken]
      constructor
      · intro free
        refine ⟨fun name inNames other inMore same => ?_, fun name inMore old => ?_⟩
        · exact free other inMore (List.mem_append_left _ (List.mem_reverse.mpr (same ▸ inNames)))
        · exact free name inMore (List.mem_append_right _ old)
      · intro ⟨different, free⟩ name inMore old
        rcases List.mem_append.mp old with earlier | older
        · exact different name (List.mem_reverse.mp earlier) name inMore rfl
        · exact free name inMore older
    rw [List.nodup_append, List.forall_mem_append, List.forall_mem_append]
    constructor
    · intro ⟨next, taken⟩
      obtain ⟨middle, taken, rest⟩ := (bind_eq_ok _ _ _).mp taken
      obtain ⟨holds, valid, distinct, free⟩ := (before.passes claims).mp ⟨middle, taken⟩
      obtain ⟨further, moreValid, moreDistinct, moreFree⟩ := (after.passes middle).mp ⟨next, rest⟩
      obtain ⟨different, old⟩ := (apart middle taken).mp moreFree
      exact ⟨⟨holds, further⟩, ⟨valid, moreValid⟩, ⟨distinct, moreDistinct, different⟩, free, old⟩
    · intro ⟨⟨holds, further⟩, ⟨valid, moreValid⟩, ⟨distinct, moreDistinct, different⟩, free, old⟩
      obtain ⟨middle, taken⟩ := (before.passes claims).mpr ⟨holds, valid, distinct, free⟩
      obtain ⟨next, rest⟩ := (after.passes middle).mpr
        ⟨further, moreValid, moreDistinct, (apart middle taken).mpr ⟨different, old⟩⟩
      exact ⟨next, (bind_eq_ok _ _ _).mpr ⟨middle, taken, rest⟩⟩

theorem takes_claim (name : Text) (role : Role) (line : Nat) :
    Takes (fun claims => claim claims name role line) [name] True where
  claimed := by
    intro claims next taken
    obtain ⟨_, _, rfl⟩ := (claim_eq_ok claims next name role line).mp taken
    rfl
  passes := by
    intro claims
    simp [claim_eq_ok]

theorem field_names_eq_ok (owner : Text) (fields : List Field) :
    checkFieldNames owner fields = .ok () ↔ ∀ field ∈ fields, isName field.name = true := by
  rw [checkFieldNames, forM_eq_ok]
  simp only [ensure_eq_ok]

-- That a state is not claimed twice follows from its name being free.
theorem takes_state (state : State) :
    Takes (fun claims => claimState claims state) [state.name] (∀ field ∈ state.fields, isName field.name = true) where
  claimed := by
    intro claims next taken
    simp only [claimState, bind_eq_ok, pure_eq_ok] at taken
    obtain ⟨_, _, after, taken, _, _, rfl⟩ := taken
    exact (takes_claim state.name .state state.line).claimed claims after taken
  passes := by
    intro claims
    have claimed := (takes_claim state.name .state state.line).passes claims
    simp only [List.forall_mem_singleton, true_and] at claimed
    constructor
    · intro ⟨next, taken⟩
      simp only [claimState, bind_eq_ok] at taken
      obtain ⟨_, _, after, taken, _, fields, _⟩ := taken
      have accepted := claimed.mp ⟨after, taken⟩
      simp only [List.forall_mem_singleton]
      exact ⟨(field_names_eq_ok _ _).mp fields, accepted⟩
    · intro ⟨fields, accepted⟩
      simp only [List.forall_mem_singleton] at accepted
      obtain ⟨after, taken⟩ := claimed.mpr accepted
      have free := (lookup_none_iff claims state.name).mpr accepted.2.2
      refine ⟨after, ?_⟩
      simp only [claimState, bind_eq_ok, ensure_eq_ok, free, pure_eq_ok]
      exact ⟨(), by simp, after, taken, (), (field_names_eq_ok _ _).mpr fields, rfl⟩

theorem takes_fold {α : Type} (items : List α) (step : Claims → α → Check Claims) (name : α → Text)
    (besides : α → Prop) (each : ∀ item, Takes (fun claims => step claims item) [name item] (besides item)) :
    Takes (fun claims => items.foldlM step claims) (items.map name) (∀ item ∈ items, besides item) := by
  induction items with
  | nil => simpa using takes_none
  | cons item rest ih =>
      have whole := takes_then _ _ _ _ _ _ (each item) ih
      simpa only [List.foldlM_cons, List.map_cons, List.forall_mem_cons, List.singleton_append] using whole

theorem takes_trait (spec : Spec) (side : Side) (role : Role) (present : (spec.traitName? side).isSome = true) :
    Takes (fun claims => claimTrait spec claims side role) (spec.traitName? side).toList True := by
  obtain ⟨name, found⟩ := Option.isSome_iff_exists.mp present
  simp only [claimTrait, found]
  exact takes_claim name role _

-- A deterministic machine has a trait only if it is declared.
def claimDeclaredTrait (spec : Spec) (claims : Claims) : Check Claims :=
  if spec.stateTrait.isSome then claimTrait spec claims .state .stateTrait else pure claims

theorem takes_declared_trait (spec : Spec) (kind : spec.kind = .deterministic) :
    Takes (fun claims => claimDeclaredTrait spec claims) (spec.traitName? .state).toList True := by
  cases declared : spec.stateTrait with
  | none =>
      have absent : spec.traitName? .state = none := by
        simp [Spec.traitName?, Spec.declaredTrait, declared, Spec.isEventDriven, kind]
      simp only [claimDeclaredTrait, declared, absent]
      exact takes_none
  | some trait_ =>
      simp only [claimDeclaredTrait, declared]
      exact takes_trait spec .state .stateTrait (by simp [Spec.traitName?, Spec.declaredTrait, declared])

theorem takes_enumeration (enumeration : Option Enumeration) (role : Role) :
    Takes (fun claims => claimEnumeration claims enumeration role) (enumeration.toList.map (·.name))
      (enumeration.isSome = true) := by
  cases enumeration with
  | none => exact ⟨by simp [claimEnumeration], by simp [claimEnumeration]⟩
  | some enumeration => simpa [claimEnumeration] using takes_claim enumeration.name role enumeration.line

/-! Classes. -/

-- The names of the classes that a module defines, in the order in which they are claimed; the events apart, whose
-- names are checked with the transitions.
def classNames (spec : Spec) : List Text :=
  spec.name :: spec.states.map (·.name) ++ (spec.traitName? .state).toList ++ match spec.kind with
    | .deterministic => spec.states.map fun state => machineClass spec state.name
    | .eventDriven =>
      (spec.traitName? .event).toList ++ (spec.stateEnum.toList ++ spec.eventEnum.toList).map (·.name)

-- The claims for the kind of the machine, after those for the machine and its states.
def claimKind (spec : Spec) (claims : Claims) : Check Claims :=
  match spec.kind with
  | .deterministic => do
    let claims ← claimDeclaredTrait spec claims
    spec.states.foldlM (claimMachineClass spec) claims
  | .eventDriven => do
    let claims ← claimTrait spec claims .state .stateTrait
    let claims ← claimTrait spec claims .event .eventTrait
    let claims ← claimEnumeration claims spec.stateEnum .stateEnum
    claimEnumeration claims spec.eventEnum .eventEnum

def claimClasses (spec : Spec) (claims : Claims) : Check Claims := do
  let claims ← claim claims spec.name .machine spec.line
  let claims ← spec.states.foldlM claimState claims
  claimKind spec claims

def checkDeclaredEvents (spec : Spec) : Check Unit :=
  if spec.isEventDriven then checkEventNames [] spec.declaredEvents else .ok ()

theorem checkNames_eq (spec : Spec) :
    checkNames spec = (do
      ensure (isName spec.name) (.invalidName .machine) spec.name spec.line
      ensure (isPath spec.context) .invalidContext spec.context spec.line
      ensure (!spec.states.isEmpty) .noStates spec.name spec.line
      let _ ← claimClasses spec reservedClaims
      checkDeclaredEvents spec) := by
  cases kind : spec.kind with
  | deterministic =>
      simp only [checkNames, claimClasses, claimKind, checkDeclaredEvents, Spec.isEventDriven, kind, bind_assoc,
        reduceCtorEq, decide_false, Bool.false_eq_true, if_false]
      refine bind_congr fun _ => bind_congr fun _ => bind_congr fun _ => bind_congr fun _ => bind_congr fun claims => ?_
      unfold claimDeclaredTrait
      cases spec.stateTrait.isSome <;> rfl
  | eventDriven =>
      simp only [checkNames, claimClasses, claimKind, checkDeclaredEvents, Spec.isEventDriven, kind, bind_assoc,
        decide_true, if_true]

-- An event-driven machine has both of its enumerations.
def Enumerated (spec : Spec) : Prop :=
  spec.kind = .eventDriven → spec.stateEnum.isSome = true ∧ spec.eventEnum.isSome = true

theorem trait_name_present (spec : Spec) (kind : spec.kind = .eventDriven) (side : Side) :
    (spec.traitName? side).isSome = true := by
  cases declared : spec.declaredTrait side <;> simp [Spec.traitName?, declared, Spec.isEventDriven, kind]

theorem takes_kind (spec : Spec) :
    Takes (claimKind spec)
      ((spec.traitName? .state).toList ++ match spec.kind with
        | .deterministic => spec.states.map fun state => machineClass spec state.name
        | .eventDriven =>
          (spec.traitName? .event).toList ++ (spec.stateEnum.toList ++ spec.eventEnum.toList).map (·.name))
      (Enumerated spec) := by
  change Takes (fun claims => claimKind spec claims) _ _
  cases kind : spec.kind with
  | deterministic =>
      have machines := takes_fold spec.states (claimMachineClass spec) (fun state => machineClass spec state.name)
        (fun _ => True) fun state => takes_claim _ _ _
      have whole := takes_then _ _ _ _ _ _ (takes_declared_trait spec kind) machines
      simpa [claimKind, Enumerated, kind] using whole
  | eventDriven =>
      have stateTrait := takes_trait spec .state .stateTrait (trait_name_present spec kind .state)
      have eventTrait := takes_trait spec .event .eventTrait (trait_name_present spec kind .event)
      have stateEnum := takes_enumeration spec.stateEnum .stateEnum
      have eventEnum := takes_enumeration spec.eventEnum .eventEnum
      have whole := takes_then _ _ _ _ _ _ stateTrait
        (takes_then _ _ _ _ _ _ eventTrait (takes_then _ _ _ _ _ _ stateEnum eventEnum))
      simpa [claimKind, Enumerated, kind] using whole

theorem takes_classes (spec : Spec) :
    Takes (claimClasses spec) (classNames spec)
      (True ∧ (∀ state ∈ spec.states, ∀ field ∈ state.fields, isName field.name = true) ∧ Enumerated spec) := by
  have machine := takes_claim spec.name .machine spec.line
  have states := takes_fold spec.states claimState (·.name) _ takes_state
  have listed : classNames spec = [spec.name] ++ (spec.states.map (·.name) ++
      ((spec.traitName? .state).toList ++ match spec.kind with
        | .deterministic => spec.states.map fun state => machineClass spec state.name
        | .eventDriven =>
          (spec.traitName? .event).toList ++ (spec.stateEnum.toList ++ spec.eventEnum.toList).map (·.name))) := by
    cases kind : spec.kind <;> simp [classNames, kind]
  rw [listed]
  exact takes_then _ _ _ _ _ _ machine (takes_then _ _ _ _ _ _ states (takes_kind spec))

theorem event_names_eq_ok (events : List Event) :
    checkEventNames [] events = .ok () ↔
      (events.map (·.name)).Nodup ∧ ∀ event ∈ events, ∀ field ∈ event.fields, isName field.name = true := by
  refine walk_eq_ok checkEventNames (·.name) (fun event => ∀ field ∈ event.fields, isName field.name = true)
    (fun _ => rfl) ?_ events
  intro seen event rest
  simp only [checkEventNames, then_eq_ok, ensure_eq_ok, field_names_eq_ok, Bool.not_eq_true', List.contains_eq_mem,
    decide_eq_false_iff_not]

structure NamesAccepted (spec : Spec) : Prop where
  context : isPath spec.context = true
  states : spec.states ≠ []
  valid : ∀ name ∈ classNames spec, isName name = true
  distinct : (classNames spec).Nodup
  unreserved : ∀ name ∈ classNames spec, name ∉ moduleNames
  fields : ∀ state ∈ spec.states, ∀ field ∈ state.fields, isName field.name = true
  enumerated : Enumerated spec
  events : spec.kind = .eventDriven → (spec.declaredEvents.map (·.name)).Nodup ∧
    ∀ event ∈ spec.declaredEvents, ∀ field ∈ event.fields, isName field.name = true

theorem declared_events_eq_ok (spec : Spec) :
    checkDeclaredEvents spec = .ok () ↔ (spec.kind = .eventDriven → (spec.declaredEvents.map (·.name)).Nodup ∧
      ∀ event ∈ spec.declaredEvents, ∀ field ∈ event.fields, isName field.name = true) := by
  cases kind : spec.kind <;> simp [checkDeclaredEvents, Spec.isEventDriven, kind, event_names_eq_ok]

theorem names_eq_ok (spec : Spec) : checkNames spec = .ok () ↔ NamesAccepted spec := by
  have reserved : reservedClaims.map Prod.fst = moduleNames := by simp [reservedClaims, Function.comp_def]
  have claimed : (claimClasses spec reservedClaims >>= fun _ => checkDeclaredEvents spec) = .ok () ↔
      (∃ next, claimClasses spec reservedClaims = .ok next) ∧ checkDeclaredEvents spec = .ok () := by
    rw [bind_eq_ok]
    exact exists_and_right
  rw [checkNames_eq]
  simp only [then_eq_ok, ensure_eq_ok, claimed, (takes_classes spec).passes, reserved, declared_events_eq_ok,
    Bool.not_eq_true', List.isEmpty_eq_false_iff]
  constructor
  · intro ⟨_, context, states, ⟨⟨_, fields, enumerated⟩, valid, distinct, unreserved⟩, events⟩
    exact ⟨context, states, valid, distinct, unreserved, fields, enumerated, events⟩
  · intro accepted
    have machine : spec.name ∈ classNames spec := by simp [classNames]
    exact ⟨accepted.valid _ machine, accepted.context, accepted.states,
      ⟨⟨trivial, accepted.fields, accepted.enumerated⟩, accepted.valid, accepted.distinct, accepted.unreserved⟩, accepted.events⟩

theorem state_names_distinct (spec : Spec) (accepted : checkNames spec = .ok ()) :
    (spec.states.map (·.name)).Nodup := by
  have nodup := ((names_eq_ok spec).mp accepted).distinct
  simp only [classNames, List.cons_append, List.nodup_cons] at nodup
  exact (List.Nodup.of_append_left nodup.2).of_append_left

end Statewright.Validation
