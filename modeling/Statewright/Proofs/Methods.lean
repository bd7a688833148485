import Statewright.Proofs.Accepted

/-!
Methods of the traits of accepted specifications. A trait has each of its hooks once, declared or added, and only a
machine that is asynchronous itself has asynchronous methods.
-/
set_option autoImplicit false

namespace Statewright

open Validation

-- What is asked of one method that a trait declares.
structure DeclarationAccepted (spec : Spec) (side : Side) (owner : Text) (method : Method) : Prop where
  named : Code.isName method.name = true
  unreserved : (spec.isEventDriven && (enumerationNames.contains method.name || method.name.head? = some '_')) = false
  manner : (method.isAsync != some true || spec.isAsync) = true
  hook : ∀ hook, (spec.hooks side).find? (·.name == method.name) = some hook →
    checkHook spec hook method (owner ++ '.' :: method.name) = .ok ()

theorem trait_methods_eq_ok (spec : Spec) (side : Side) (owner : Text) (methods : List Method) :
    checkTraitMethods spec side owner [] methods = .ok () ↔
      (methods.map (·.name)).Nodup ∧ ∀ method ∈ methods, DeclarationAccepted spec side owner method := by
  refine walk_eq_ok (checkTraitMethods spec side owner) (·.name) (DeclarationAccepted spec side owner) (fun _ => rfl)
    ?_ methods
  intro seen method rest
  have split : checkTraitMethods spec side owner seen (method :: rest) = .ok () ↔
      Code.isName method.name = true ∧ method.name ∉ seen ∧
        (spec.isEventDriven && (enumerationNames.contains method.name || method.name.head? = some '_')) = false ∧
        (method.isAsync != some true || spec.isAsync) = true ∧
        (∀ hook, (spec.hooks side).find? (·.name == method.name) = some hook →
          checkHook spec hook method (owner ++ '.' :: method.name) = .ok ()) ∧
        checkTraitMethods spec side owner (method.name :: seen) rest = .ok () := by
    cases found : (spec.hooks side).find? (·.name == method.name) <;>
      simp only [checkTraitMethods, found, then_eq_ok, ensure_eq_ok, Bool.not_eq_true', List.contains_eq_mem,
        decide_eq_false_iff_not, reduceCtorEq, Option.some.injEq, forall_eq', false_imp_iff, implies_true, true_and]
  rw [split]
  constructor
  · rintro ⟨named, fresh, unreserved, manner, hook, remaining⟩
    exact ⟨fresh, ⟨named, unreserved, manner, hook⟩, remaining⟩
  · rintro ⟨fresh, ⟨named, unreserved, manner, hook⟩, remaining⟩
    exact ⟨named, fresh, unreserved, manner, hook, remaining⟩

def declaredMethods (spec : Spec) (side : Side) : List Method := ((spec.declaredTrait side).map (·.methods)).getD []

theorem trait_eq_ok (spec : Spec) (side : Side) :
    checkTrait spec side = .ok () ↔ ∀ trait_, spec.declaredTrait side = some trait_ →
      (∀ base ∈ trait_.bases, Code.isPath base = true) ∧ (trait_.methods.map (·.name)).Nodup ∧
        ∀ method ∈ trait_.methods, DeclarationAccepted spec side trait_.name method := by
  unfold checkTrait
  cases spec.declaredTrait side with
  | none => simp
  | some trait_ =>
      simp only [then_eq_ok, forM_eq_ok, ensure_eq_ok, trait_methods_eq_ok, Option.some.injEq, forall_eq']

theorem declared_methods_accepted (spec : Spec) (side : Side) (accepted : checkTrait spec side = .ok ()) :
    ((declaredMethods spec side).map (·.name)).Nodup ∧
      ∀ method ∈ declaredMethods spec side, ∃ owner, DeclarationAccepted spec side owner method := by
  unfold declaredMethods
  cases declared : spec.declaredTrait side with
  | none => simp
  | some trait_ =>
      obtain ⟨_, distinct, each⟩ := (trait_eq_ok spec side).mp accepted trait_ declared
      exact ⟨distinct, fun method member => ⟨_, each method member⟩⟩

/-! Sides. -/

-- What the methods of a trait ask of one that has the trait: its fields are called otherwise, and it gives bodies to
-- methods of the trait only, to none of them twice, in the manner of each, and to all that have none of their own.
structure Fits (methods : List Resolved) (fields : List Field) (impls : List Method) : Prop where
  apart : ∀ field ∈ fields, methods.any (·.name == field.name) = false
  distinct : (impls.map (·.name)).Nodup
  listed : ∀ impl ∈ impls, ∃ method, methods.find? (·.name == impl.name) = some method ∧
    impl.isAsync.all (· == method.isAsync) = true
  complete : ∀ method ∈ methods, method.isAbstract = true → impls.any (·.name == method.name) = true

theorem impls_walk_eq_ok (traitName : Text) (methods : List Resolved) (owner : Text) (impls : List Method) :
    checkImpl traitName methods owner [] impls = .ok () ↔ (impls.map (·.name)).Nodup ∧
      ∀ impl ∈ impls, ∃ method, methods.find? (·.name == impl.name) = some method ∧
        impl.isAsync.all (· == method.isAsync) = true := by
  refine walk_eq_ok (checkImpl traitName methods owner) (·.name) _ (fun _ => rfl) ?_ impls
  intro seen impl rest
  cases found : methods.find? (·.name == impl.name) with
  | none => simp [checkImpl, found, violate_ne_ok]
  | some method => simp [checkImpl, found, then_eq_ok, ensure_eq_ok]

theorem owner_eq_ok (traitName : Text) (methods : List Resolved) (owner : Text) (fields : List Field)
    (impls : List Method) (line : Nat) :
    checkFieldClash methods owner fields = .ok () ∧ checkImplemented traitName methods owner impls line = .ok () ↔
      Fits methods fields impls := by
  have complete : ∀ method : Resolved, (!method.isAbstract || impls.any (·.name == method.name)) = true ↔
      (method.isAbstract = true → impls.any (·.name == method.name) = true) := by
    intro method
    cases method.isAbstract <;> simp
  simp only [checkFieldClash, checkImplemented, then_eq_ok, forM_eq_ok, ensure_eq_ok, impls_walk_eq_ok, complete,
    Bool.not_eq_true']
  constructor
  · intro ⟨apart, ⟨distinct, listed⟩, complete⟩
    exact ⟨apart, distinct, listed, complete⟩
  · intro fits
    exact ⟨fits.apart, ⟨fits.distinct, fits.listed⟩, fits.complete⟩

-- Who puts bodies in the place of a trait's methods, as the check of the trait is told.
def owners (spec : Spec) : Side → List (Text × List Field × List Method × Nat)
  | .state => spec.states.map fun state => (state.name, state.fields, state.impls, state.line)
  | .event => spec.events.map fun event => (event.name, event.fields, event.impls, event.line)

structure SideAccepted (spec : Spec) (side : Side) : Prop where
  trait_ : checkTrait spec side = .ok ()
  owners : ∀ owner ∈ owners spec side, Fits (spec.traitMethods side) owner.2.1 owner.2.2.1

theorem side_eq_ok (spec : Spec) (side : Side) :
    checkSide spec side (owners spec side) = .ok () ↔ SideAccepted spec side := by
  simp only [checkSide, then_eq_ok, forM_eq_ok, owner_eq_ok]
  exact ⟨fun ⟨trait_, owners⟩ => ⟨trait_, owners⟩, fun accepted => ⟨accepted.trait_, accepted.owners⟩⟩

-- Without a trait the states of a deterministic machine may put nothing in the place of its methods.
theorem traits_eq_ok (spec : Spec) :
    checkTraits spec = .ok () ↔
      if spec.stateTrait = none ∧ spec.kind = .deterministic then ∀ state ∈ spec.states, state.impls = []
      else SideAccepted spec .state ∧ (spec.kind = .eventDriven → SideAccepted spec .event) := by
  cases kind : spec.kind with
  | deterministic =>
      cases declared : spec.stateTrait with
      | none =>
          simp only [checkTraits, Spec.isEventDriven, kind, declared, reduceCtorEq, decide_false, Bool.not_false,
            Option.isNone_none, Bool.and_self, and_self, if_true, forM_eq_ok]
          refine forall₂_congr fun state _ => ?_
          cases state.impls <;> simp [violate_ne_ok]
      | some trait_ =>
          simp only [checkTraits, Spec.isEventDriven, kind, declared, reduceCtorEq, decide_false, Bool.not_false,
            Option.isNone_some, Bool.and_true, Bool.false_eq_true, if_false, then_eq_ok, false_imp_iff,
            pure_eq_ok, and_true]
          exact side_eq_ok spec .state
  | eventDriven =>
      simp only [checkTraits, Spec.isEventDriven, kind]
      simp only [decide_true, Bool.not_true, Bool.and_false, Bool.false_eq_true, if_false, if_true, then_eq_ok,
        reduceCtorEq, and_false, true_imp_iff]
      exact and_congr (side_eq_ok spec .state) (side_eq_ok spec .event)

theorem sides_accepted (spec : Spec) (valid : spec.validate = .ok ()) (kind : spec.kind = .eventDriven) (side : Side) :
    SideAccepted spec side := by
  have traits := (traits_eq_ok spec).mp ((validate_eq_ok spec).mp valid).2.2.1
  simp only [kind, reduceCtorEq, and_false, if_false, true_imp_iff] at traits
  cases side with
  | state => exact traits.1
  | event => exact traits.2

/-! Names. -/

theorem trait_methods_eq (spec : Spec) (side : Side) :
    spec.traitMethods side = (declaredMethods spec side).map (spec.resolve side) ++
      ((spec.hooks side).filter fun hook => !(declaredMethods spec side).any (·.name == hook.name)).map spec.generate :=
  rfl

theorem hook_names_distinct (spec : Spec) (side : Side) : ((spec.hooks side).map (·.name)).Nodup := by
  unfold Spec.hooks
  split
  · cases side <;> decide
  · exact List.nodup_nil

theorem method_names_apart (spec : Spec) (side : Side) (accepted : checkTrait spec side = .ok ()) :
    ((spec.traitMethods side).map (·.name)).Nodup := by
  rw [trait_methods_eq, List.map_append, List.map_map, List.map_map]
  have declared := (declared_methods_accepted spec side accepted).1
  have missing : (((spec.hooks side).filter fun hook =>
      !(declaredMethods spec side).any (·.name == hook.name)).map (·.name)).Nodup :=
    (List.filter_sublist.map _).nodup (hook_names_distinct spec side)
  refine List.nodup_append.mpr ⟨declared, missing, ?_⟩
  rintro name inDeclared other inMissing rfl
  obtain ⟨method, found, same⟩ := List.mem_map.mp inDeclared
  obtain ⟨hook, left, named⟩ := List.mem_map.mp inMissing
  have undeclared := (List.mem_filter.mp left).2
  simp only [Bool.not_eq_true', List.any_eq_false, beq_iff_eq] at undeclared
  exact undeclared method found (same.trans named.symm)

theorem trait_method_names_distinct (spec : Spec) (valid : spec.validate = .ok ()) (kind : spec.kind = .eventDriven)
    (side : Side) : ((spec.traitMethods side).map (·.name)).Nodup :=
  method_names_apart spec side (sides_accepted spec valid kind side).trait_

-- A trait that is accepted has no asynchronous method in a machine that is not asynchronous.
theorem accepted_methods_synchronous (spec : Spec) (side : Side) (accepted : checkTrait spec side = .ok ())
    (sync : spec.isAsync = false) (method : Resolved) (member : method ∈ spec.traitMethods side) :
    method.isAsync = false := by
  rw [trait_methods_eq, List.mem_append] at member
  rcases member with declared | missing
  · obtain ⟨own, found, rfl⟩ := List.mem_map.mp declared
    obtain ⟨_, checked⟩ := (declared_methods_accepted spec side accepted).2 own found
    have manner := checked.manner
    rw [sync] at manner
    cases marked : own.isAsync with
    | none => simp [Spec.resolve, marked, sync]
    | some isAsync => cases isAsync <;> simp_all [Spec.resolve]
  · obtain ⟨hook, _, rfl⟩ := List.mem_map.mp missing
    exact sync

theorem methods_synchronous (spec : Spec) (valid : spec.validate = .ok ()) (kind : spec.kind = .eventDriven)
    (sync : spec.isAsync = false) (side : Side) (method : Resolved) (member : method ∈ spec.traitMethods side) :
    method.isAsync = false :=
  accepted_methods_synchronous spec side (sides_accepted spec valid kind side).trait_ sync method member

theorem hook_resolved (spec : Spec) (kind : spec.kind = .eventDriven) (side : Side) (hook : Hook)
    (member : hook ∈ Hook.ofSide side) : ∃ method ∈ spec.traitMethods side, method.name = hook.name := by
  have listed : hook ∈ spec.hooks side := by simpa [Spec.hooks, Spec.isEventDriven, kind] using member
  by_cases declared : (declaredMethods spec side).any (·.name == hook.name) = true
  · obtain ⟨method, found, same⟩ := List.any_eq_true.mp declared
    refine ⟨spec.resolve side method, ?_, by simpa [Spec.resolve] using same⟩
    rw [trait_methods_eq]
    exact List.mem_append_left _ (List.mem_map_of_mem found)
  · refine ⟨spec.generate hook, ?_, rfl⟩
    rw [trait_methods_eq]
    exact List.mem_append_right _ (List.mem_map_of_mem (List.mem_filter.mpr ⟨listed, by simpa using declared⟩))

end Statewright
