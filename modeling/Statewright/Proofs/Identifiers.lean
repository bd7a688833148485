import Statewright.Proofs.Methods
import Statewright.Proofs.ModuleClasses

/-!
Names that the modules of a specification are written with. Each is checked where it is declared, in the part of the
verdict that is about its element, with one exception: nothing looks at how a declared event is spelled.
-/
set_option autoImplicit false

namespace Statewright

open Validation
open Code (isName isPath)

namespace Spec

-- The module of a deterministic machine has no trait for events.
def Shows (spec : Spec) (side : Side) : Prop := spec.kind = .eventDriven ∨ side = .state

-- A name stands where a module needs an identifier: after `class` or `def`, as a field, in a base or a type, or as the
-- class that is called or looked up.
inductive Writes (spec : Spec) : Text → Prop
  | machine : Writes spec spec.name
  | context (part : Text) (member : part ∈ Text.splitAt '.' spec.context) : Writes spec part
  | state (state : State) (declared : state ∈ spec.states) : Writes spec state.name
  | stateField (state : State) (declared : state ∈ spec.states) (field : Field) (member : field ∈ state.fields) :
      Writes spec field.name
  | stateImpl (state : State) (declared : state ∈ spec.states) (impl : Method) (member : impl ∈ state.impls) :
      Writes spec impl.name
  | target (state : State) (declared : state ∈ spec.states) (transition : Transition)
      (member : transition ∈ state.transitions) (target : Text) (leads : transition.target = some target) :
      Writes spec target
  | traitName (side : Side) (shown : spec.Shows side) (name : Text) (named : spec.traitName? side = some name) :
      Writes spec name
  | base (side : Side) (shown : spec.Shows side) (trait_ : Trait) (declared : spec.declaredTrait side = some trait_)
      (base : Text) (member : base ∈ trait_.bases) (part : Text) (within : part ∈ Text.splitAt '.' base) :
      Writes spec part
  | method (side : Side) (shown : spec.Shows side) (method : Resolved) (member : method ∈ spec.traitMethods side) :
      Writes spec method.name
  | machineClass (kind : spec.kind = .deterministic) (state : State) (declared : state ∈ spec.states) :
      Writes spec (Validation.machineClass spec state.name)
  | trigger (kind : spec.kind = .deterministic) (state : State) (declared : state ∈ spec.states)
      (transition : Transition) (member : transition ∈ state.transitions) : Writes spec transition.trigger
  | enumeration (kind : spec.kind = .eventDriven) (enumeration : Enumeration)
      (member : enumeration ∈ spec.stateEnum.toList ++ spec.eventEnum.toList) : Writes spec enumeration.name
  | event (kind : spec.kind = .eventDriven) (event : Event) (known : event ∈ spec.events) : Writes spec event.name
  | eventField (kind : spec.kind = .eventDriven) (event : Event) (known : event ∈ spec.events) (field : Field)
      (member : field ∈ event.fields) : Writes spec field.name
  | eventImpl (kind : spec.kind = .eventDriven) (event : Event) (known : event ∈ spec.events) (impl : Method)
      (member : impl ∈ event.impls) : Writes spec impl.name

end Spec

/-! Classes and fields. -/

theorem path_parts (path : Text) (valid : isPath path = true) : ∀ part ∈ Text.splitAt '.' path, isName part = true :=
  List.all_eq_true.mp valid

/-! Events. -/

theorem mem_of_mem_firsts {α : Type} (name : α → Text) (seen : List Text) (items : List α) (item : α)
    (kept : item ∈ firstsBy name seen items) : item ∈ items := by
  induction items generalizing seen with
  | nil => cases kept
  | cons first rest ih =>
      by_cases known : name first ∈ seen
      · rw [firstsBy, if_pos (by simpa using known)] at kept
        exact List.mem_cons_of_mem _ (ih _ kept)
      · rw [firstsBy, if_neg (by simpa using known)] at kept
        rcases List.mem_cons.mp kept with rfl | later
        · exact List.mem_cons_self
        · exact List.mem_cons_of_mem _ (ih _ later)

-- An event is a declared one, or has the name and the line of what refers to it and nothing else.
theorem event_origin (spec : Spec) (event : Event) (known : event ∈ spec.events) :
    event ∈ spec.declaredEvents ∨
      (∃ owned ∈ spec.ownedTransitions, (event.name = owned.2.trigger ∧ event.line = owned.2.line) ∧
        ∀ other ∈ spec.declaredEvents, other.name ≠ owned.2.trigger) ∧ event.fields = [] ∧ event.impls = [] := by
  rcases List.mem_append.mp (mem_of_mem_firsts _ _ _ _ known) with referred | declared
  · obtain ⟨transition, member, rfl⟩ := List.mem_map.mp referred
    obtain ⟨state, stated, inState⟩ := List.mem_flatMap.mp member
    have owned := owned_transition spec state stated transition inState
    unfold Spec.referred
    cases found : spec.declared? transition.trigger with
    | some event => exact .inl (List.mem_of_find?_eq_some found)
    | none =>
        have undeclared : ∀ other ∈ spec.declaredEvents, other.name ≠ transition.trigger := by
          simpa [Spec.declared?] using found
        exact .inr ⟨⟨_, owned, ⟨rfl, rfl⟩, undeclared⟩, rfl, rfl⟩
  · exact .inl declared

-- A declared event is among the events of the machine as it is declared.
theorem declared_known (spec : Spec) (distinct : (spec.declaredEvents.map (·.name)).Nodup) (event : Event)
    (declared : event ∈ spec.declaredEvents) : event ∈ spec.events := by
  have listed : event.name ∈ spec.events.map (·.name) := (mem_event_names spec _).mpr (.inr ⟨event, declared, rfl⟩)
  obtain ⟨other, known, same⟩ := List.mem_map.mp listed
  rcases event_origin spec other known with also | ⟨⟨owned, _, ⟨named, _⟩, undeclared⟩, _, _⟩
  · rwa [← List.inj_on_of_nodup_map distinct also declared same]
  · exact absurd (same.symm.trans named) (undeclared event declared)

theorem event_names_valid (spec : Spec) (valid : spec.validate = .ok ()) (kind : spec.kind = .eventDriven)
    (event : Event) (known : event ∈ spec.events) :
    isName event.name = true ∨ ∃ declared ∈ spec.declaredEvents, declared.name = event.name := by
  rcases event_origin spec event known with declared | ⟨⟨owned, member, ⟨same, _⟩, undeclared⟩, _, _⟩
  · exact .inr ⟨event, declared, rfl⟩
  · have reference := (events_accepted spec valid kind).references owned member
    rcases (reference_eq_ok spec owned.2).mp reference with ⟨other, declared, named⟩ | ⟨named, _⟩
    · exact absurd named (undeclared other declared)
    · exact .inl (same ▸ named)

theorem event_fields_valid (spec : Spec) (valid : spec.validate = .ok ()) (kind : spec.kind = .eventDriven)
    (event : Event) (known : event ∈ spec.events) : ∀ field ∈ event.fields, isName field.name = true := by
  have names := (names_of_valid spec valid).events kind
  rcases event_origin spec event known with declared | ⟨_, none_, _⟩
  · exact names.2 event declared
  · simp [none_]

/-! Traits. -/

-- A side that is shown is checked, except that without a trait the states of a deterministic machine only may not
-- put anything in the place of its methods.
theorem side_checked (spec : Spec) (valid : spec.validate = .ok ()) (side : Side) (shown : spec.Shows side) :
    SideAccepted spec side ∨ spec.declaredTrait side = none ∧ ∀ owner ∈ owners spec side, owner.2.2.1 = [] := by
  by_cases kind : spec.kind = .eventDriven
  · exact .inl (sides_accepted spec valid kind side)
  · obtain rfl : side = .state := shown.resolve_left kind
    have deterministic : spec.kind = .deterministic := by cases same : spec.kind <;> simp_all
    have traits := (traits_eq_ok spec).mp ((validate_eq_ok spec).mp valid).2.2.1
    by_cases declared : spec.stateTrait = none
    · rw [if_pos ⟨declared, deterministic⟩] at traits
      exact .inr ⟨declared, List.forall_mem_map.mpr traits⟩
    · rw [if_neg (by simp [declared])] at traits
      exact .inl traits.1

theorem side_accepted (spec : Spec) (valid : spec.validate = .ok ()) (side : Side) (shown : spec.Shows side) :
    checkTrait spec side = .ok () := by
  rcases side_checked spec valid side shown with checked | ⟨absent, _⟩
  · exact checked.trait_
  · simp [checkTrait, absent]

theorem hook_names_valid (spec : Spec) (side : Side) : ∀ hook ∈ spec.hooks side, isName hook.name = true := by
  unfold Spec.hooks
  split
  · cases side <;> decide
  · simp

theorem method_names_valid (spec : Spec) (valid : spec.validate = .ok ()) (side : Side) (shown : spec.Shows side) :
    ∀ method ∈ spec.traitMethods side, isName method.name = true := by
  have accepted := (declared_methods_accepted spec side (side_accepted spec valid side shown)).2
  intro method member
  rw [trait_methods_eq, List.mem_append] at member
  rcases member with declared | missing
  · obtain ⟨own, found, rfl⟩ := List.mem_map.mp declared
    obtain ⟨_, checked⟩ := accepted own found
    exact checked.named
  · obtain ⟨hook, listed, rfl⟩ := List.mem_map.mp missing
    exact hook_names_valid spec side hook (List.mem_of_mem_filter listed)

theorem bases_valid (spec : Spec) (valid : spec.validate = .ok ()) (side : Side) (shown : spec.Shows side)
    (trait_ : Trait) (declared : spec.declaredTrait side = some trait_) : ∀ base ∈ trait_.bases, isPath base = true :=
  ((trait_eq_ok spec side).mp (side_accepted spec valid side shown) trait_ declared).1

-- What takes the place of a method is called like it.
theorem impls_listed (spec : Spec) (valid : spec.validate = .ok ()) (side : Side) (shown : spec.Shows side) :
    ∀ owner ∈ owners spec side, ∀ impl ∈ owner.2.2.1, ∃ method ∈ spec.traitMethods side, method.name = impl.name := by
  intro owner member impl inOwner
  rcases side_checked spec valid side shown with checked | ⟨_, none_⟩
  · obtain ⟨method, found, _⟩ := (checked.owners owner member).listed impl inOwner
    exact ⟨method, List.mem_of_find?_eq_some found, by simpa using List.find?_some found⟩
  · simp [none_ owner member] at inOwner

theorem impl_names_valid (spec : Spec) (valid : spec.validate = .ok ()) (side : Side) (shown : spec.Shows side) :
    ∀ owner ∈ owners spec side, ∀ impl ∈ owner.2.2.1, isName impl.name = true := by
  intro owner member impl inOwner
  obtain ⟨method, listed, same⟩ := impls_listed spec valid side shown owner member impl inOwner
  exact same ▸ method_names_valid spec valid side shown method listed

/-! Methods and targets. -/

theorem target_declared (spec : Spec) (transition : Transition) (element target : Text)
    (accepted : checkTarget spec transition element = .ok ()) (leads : transition.target = some target) :
    target ∈ spec.states.map (·.name) := by
  unfold checkTarget at accepted
  cases found : spec.state? target with
  | none => simp [leads, found, violate] at accepted
  | some state =>
      obtain ⟨declared, rfl⟩ := state_found spec target state found
      exact List.mem_map_of_mem declared

theorem targets_declared (spec : Spec) (valid : spec.validate = .ok ()) (state : State) (declared : state ∈ spec.states)
    (transition : Transition) (member : transition ∈ state.transitions) (target : Text)
    (leads : transition.target = some target) : target ∈ spec.states.map (·.name) := by
  cases kind : spec.kind with
  | deterministic =>
      exact deterministic_targets_declared spec valid kind state declared transition member target leads
  | eventDriven =>
      obtain ⟨_, kinds, _, _⟩ := (validate_eq_ok spec).mp valid
      obtain ⟨⟨_, reactions⟩, _⟩ := (event_driven_kind_eq_ok spec kind).mp kinds
      have owned := owned_transition spec state declared transition member
      exact target_declared spec transition _ target (reactions _ owned).target leads

/-! Names. -/

-- A claimed class name, whatever it is claimed for.
theorem class_valid (spec : Spec) (valid : spec.validate = .ok ()) (name : Text) (member : name ∈ classNames spec) :
    isName name = true := (names_of_valid spec valid).valid name member

theorem state_name_valid (spec : Spec) (valid : spec.validate = .ok ()) (name : Text)
    (member : name ∈ spec.states.map (·.name)) : isName name = true := by
  apply class_valid spec valid
  simp only [classNames, List.mem_append, List.mem_cons]
  exact .inl (.inl (.inr member))

theorem trait_name_valid (spec : Spec) (valid : spec.validate = .ok ()) (side : Side) (shown : spec.Shows side)
    (name : Text) (named : spec.traitName? side = some name) : isName name = true := by
  apply class_valid spec valid
  simp only [classNames, List.mem_append, List.mem_cons]
  cases side with
  | state => exact .inl (.inr (by simpa using named))
  | event =>
      have kind : spec.kind = .eventDriven := shown.resolve_right (by simp)
      right
      rw [kind]
      exact List.mem_append_left _ (by simpa using named)

-- A name that a module is written with is an identifier, or the name that some event is declared with.
theorem written_name_valid (spec : Spec) (valid : spec.validate = .ok ()) (name : Text) (written : spec.Writes name) :
    isName name = true ∨ spec.kind = .eventDriven ∧ ∃ event ∈ spec.declaredEvents, event.name = name := by
  have names := names_of_valid spec valid
  cases written with
  | machine => exact .inl (class_valid spec valid _ (by simp [classNames]))
  | context part member => exact .inl (path_parts _ names.context _ member)
  | state state declared => exact .inl (state_name_valid spec valid _ (List.mem_map_of_mem declared))
  | stateField state declared field member => exact .inl (names.fields state declared field member)
  | stateImpl state declared impl member =>
      exact .inl (impl_names_valid spec valid .state (.inr rfl) _ (List.mem_map_of_mem declared) impl member)
  | target state declared transition member target leads =>
      exact .inl (state_name_valid spec valid _ (targets_declared spec valid state declared transition member _ leads))
  | traitName side shown name named => exact .inl (trait_name_valid spec valid side shown _ named)
  | base side shown trait_ declared base member part within =>
      exact .inl (path_parts base (bases_valid spec valid side shown trait_ declared base member) _ within)
  | method side shown method member => exact .inl (method_names_valid spec valid side shown method member)
  | machineClass kind state declared =>
      refine .inl (class_valid spec valid _ ?_)
      simp only [classNames, kind, List.mem_append, List.mem_cons]
      exact .inr (List.mem_map_of_mem declared)
  | trigger kind state declared transition member =>
      obtain ⟨_, kinds, _, _⟩ := (validate_eq_ok spec).mp valid
      exact .inl (((deterministic_kind_eq_ok spec kind).mp kinds state declared).2 transition member).named
  | enumeration kind enumeration member =>
      refine .inl (class_valid spec valid _ ?_)
      simp only [classNames, kind]
      exact List.mem_append_right _ (List.mem_append_right _ (List.mem_map_of_mem member))
  | event kind event known => exact (event_names_valid spec valid kind event known).imp_right fun same => ⟨kind, same⟩
  | eventField kind event known field member => exact .inl (event_fields_valid spec valid kind event known field member)
  | eventImpl kind event known impl member =>
      exact .inl (impl_names_valid spec valid .event (.inl kind) _ (List.mem_map_of_mem known) impl member)

/-- Every name that the module of a valid specification is written with is an identifier and no reserved word, except
that the names of declared events are taken as they are: all names are identifiers exactly if those are. -/
theorem written_names_valid_iff (spec : Spec) (valid : spec.validate = .ok ()) :
    (∀ name, spec.Writes name →
      isName name = true ∨ spec.kind = .eventDriven ∧ ∃ event ∈ spec.declaredEvents, event.name = name) ∧
    ((∀ name, spec.Writes name → isName name = true) ↔
      (spec.kind = .eventDriven → ∀ event ∈ spec.declaredEvents, isName event.name = true)) := by
  refine ⟨written_name_valid spec valid, ?_, ?_⟩
  · intro all kind event declared
    have known : event.name ∈ spec.events.map (·.name) :=
      (mem_event_names spec event.name).mpr (.inr ⟨event, declared, rfl⟩)
    obtain ⟨other, member, same⟩ := List.mem_map.mp known
    exact same ▸ all other.name (.event kind other member)
  · intro spelled name written
    rcases written_name_valid spec valid name written with named | ⟨kind, event, declared, rfl⟩
    · exact named
    · exact spelled kind event declared

-- A barrier with a single declared event. Its two traits are not declared.
def barrierSpec (event : Text) : Spec :=
  { kind := .eventDriven, name := "Barrier", context := "door.Leaf"
    stateEnum := some { name := "BarrierState" }, eventEnum := some { name := "BarrierEvent" }
    states := [{ name := "Open", transitions := [{ source := "Open", trigger := event, target := some "Open" }] }]
    declaredEvents := [{ name := event, fields := [{ name := "by", type := "str" }] }] }

theorem barrier_names_valid :
    (barrierSpec "Knock").validate = .ok () ∧ ∀ name, (barrierSpec "Knock").Writes name → isName name = true := by
  have valid : (barrierSpec "Knock").validate = .ok () := by decide +kernel
  have spelled : ∀ event ∈ (barrierSpec "Knock").declaredEvents, isName event.name = true := by decide +kernel
  exact ⟨valid, (written_names_valid_iff (barrierSpec "Knock") valid).2.mpr fun _ => spelled⟩

-- A declared event may have a reserved word for its name, whether a state reacts to it or not.
theorem class_event_accepted :
    (barrierSpec "class").validate = .ok () ∧
      ¬ ∀ name, (barrierSpec "class").Writes name → isName name = true := by
  have valid : (barrierSpec "class").validate = .ok () := by decide +kernel
  have reserved : isName (Text.fixed "class") = false := by decide +kernel
  refine ⟨valid, fun all => ?_⟩
  have known : (Event.mk (Text.fixed "class") [{ name := "by", type := "str" }] [] false 0) ∈
      (barrierSpec "class").events := by decide +kernel
  have named := all _ (.event rfl _ known)
  rw [reserved] at named
  cases named

end Statewright
