import Statewright.Proofs.FragmentChecks
import Statewright.Proofs.Identifiers
import Mathlib.Data.List.Perm.Basic

/-!
Specifications that differ in the order of their declarations. The verdict is the same for both, though the violation
that is reported may not be; two accepted tables resolve the same pairs, each to the same entry.
-/
set_option autoImplicit false

namespace Statewright

open Validation
open Code (isName isPath Reads)

/-! Order. -/

-- The items of two lists can be paired, each item with the one it is related to; how the lists are ordered is left open.
def Rearranged {α : Type} (related : α → α → Prop) (first second : List α) : Prop :=
  ∃ pairs : List (α × α), (pairs.map Prod.fst).Perm first ∧ (pairs.map Prod.snd).Perm second ∧
    ∀ pair ∈ pairs, related pair.1 pair.2

structure State.Reordered (first second : State) : Prop where
  rest : { first with impls := second.impls, transitions := second.transitions } = second
  impls : first.impls.Perm second.impls
  transitions : first.transitions.Perm second.transitions

structure Event.Reordered (first second : Event) : Prop where
  rest : { first with impls := second.impls } = second
  impls : first.impls.Perm second.impls

structure Trait.Reordered (first second : Trait) : Prop where
  rest : { first with methods := second.methods } = second
  methods : first.methods.Perm second.methods

-- Two specifications that are alike except for the order of states, of transitions and bodies within a state, of
-- declared events, of bodies within an event, and of methods within a trait.
structure Spec.Reordered (first second : Spec) : Prop where
  rest : { first with
    stateTrait := second.stateTrait, eventTrait := second.eventTrait
    states := second.states, declaredEvents := second.declaredEvents } = second
  traits : ∀ side, Option.Rel Trait.Reordered (first.declaredTrait side) (second.declaredTrait side)
  states : Rearranged State.Reordered first.states second.states
  events : Rearranged Event.Reordered first.declaredEvents second.declaredEvents

theorem state_reordered_symm (first second : State) (reordered : first.Reordered second) : second.Reordered first where
  rest := by rw [← reordered.rest]
  impls := reordered.impls.symm
  transitions := reordered.transitions.symm

theorem state_reordered_owner (first second : State) (reordered : first.Reordered second) :
    first.name = second.name ∧ first.fields = second.fields := by
  rw [← reordered.rest]
  exact ⟨rfl, rfl⟩

theorem event_reordered_symm (first second : Event) (reordered : first.Reordered second) : second.Reordered first where
  rest := by rw [← reordered.rest]
  impls := reordered.impls.symm

theorem event_reordered_owner (first second : Event) (reordered : first.Reordered second) :
    first.name = second.name ∧ first.fields = second.fields := by
  rw [← reordered.rest]
  exact ⟨rfl, rfl⟩

theorem trait_reordered_symm (first second : Trait) (reordered : first.Reordered second) : second.Reordered first where
  rest := by rw [← reordered.rest]
  methods := reordered.methods.symm

section Lists

variable {α β : Type} {related : α → α → Prop} {first second : List α}

theorem rearranged_symm (symmetric : ∀ item other, related item other → related other item)
    (rearranged : Rearranged related first second) : Rearranged related second first := by
  obtain ⟨pairs, firsts, seconds, each⟩ := rearranged
  refine ⟨pairs.map Prod.swap, by simpa [Function.comp_def] using seconds, by simpa [Function.comp_def] using firsts, ?_⟩
  intro pair member
  obtain ⟨other, inPairs, rfl⟩ := List.mem_map.mp member
  exact symmetric _ _ (each other inPairs)

theorem rearranged_map (part : α → β) (kept : ∀ item other, related item other → part item = part other)
    (rearranged : Rearranged related first second) : (first.map part).Perm (second.map part) := by
  obtain ⟨pairs, firsts, seconds, each⟩ := rearranged
  have same : (pairs.map Prod.fst).map part = (pairs.map Prod.snd).map part := by
    rw [List.map_map, List.map_map]
    exact List.map_congr_left fun pair member => kept _ _ (each pair member)
  exact (firsts.map part).symm.trans (same ▸ seconds.map part)

theorem rearranged_flatMap (parts : α → List β)
    (kept : ∀ item other, related item other → (parts item).Perm (parts other))
    (rearranged : Rearranged related first second) : (first.flatMap parts).Perm (second.flatMap parts) := by
  obtain ⟨pairs, firsts, seconds, each⟩ := rearranged
  have same : ((pairs.map Prod.fst).flatMap parts).Perm ((pairs.map Prod.snd).flatMap parts) := by
    rw [List.flatMap_map, List.flatMap_map]
    exact List.Perm.flatMap_left pairs fun pair member => kept _ _ (each pair member)
  exact (firsts.flatMap_right parts).symm.trans (same.trans (seconds.flatMap_right parts))

theorem rearranged_mem (rearranged : Rearranged related first second) (other : α) (member : other ∈ second) :
    ∃ item ∈ first, related item other := by
  obtain ⟨pairs, firsts, seconds, each⟩ := rearranged
  obtain ⟨pair, inPairs, rfl⟩ := List.mem_map.mp (seconds.mem_iff.mpr member)
  exact ⟨pair.1, firsts.mem_iff.mp (List.mem_map_of_mem inPairs), each pair inPairs⟩

-- What is found by a name that no two items share is found in either order.
theorem rearranged_find (name : α → Text) (kept : ∀ item other, related item other → name item = name other)
    (rearranged : Rearranged related first second) (distinct : (first.map name).Nodup) (key : Text) :
    Option.Rel related (first.find? (name · == key)) (second.find? (name · == key)) := by
  have names := rearranged_map name kept rearranged
  cases found : second.find? (name · == key) with
  | none =>
      have absent : first.find? (name · == key) = none := by
        rw [List.find?_eq_none] at found ⊢
        intro item member same
        obtain ⟨other, listed, named⟩ := List.mem_map.mp (names.mem_iff.mp (List.mem_map_of_mem member))
        exact found other listed (by rw [named]; exact same)
      rw [absent]
      exact .none
  | some other =>
      obtain ⟨item, member, together⟩ := rearranged_mem rearranged other (List.mem_of_find?_eq_some found)
      have named : name item = key := (kept item other together).trans (by simpa using List.find?_some found)
      have own := find_named name first distinct item member
      rw [named] at own
      rw [own]
      exact .some together

theorem perm_find (name : α → Text) (moved : first.Perm second) (distinct : (first.map name).Nodup) (key : Text) :
    first.find? (name · == key) = second.find? (name · == key) := by
  have paired : Rearranged Eq first second :=
    ⟨first.map fun item => (item, item), by simp [Function.comp_def], by simpa [Function.comp_def] using moved, by simp⟩
  have found := rearranged_find name (fun _ _ same => congrArg name same) paired distinct key
  generalize first.find? (name · == key) = one at found
  generalize second.find? (name · == key) = other at found
  cases found with
  | none => rfl
  | some same => rw [same]

end Lists

/-! What does not depend on the order. -/

section Kept

variable {first second : Spec} (reordered : first.Reordered second)

include reordered

-- A part that does not look at what may be reordered.
theorem kept_part {β : Type} (part : Spec → β) (blind : ∀ stateTrait eventTrait states declaredEvents, part { first with
      stateTrait := stateTrait, eventTrait := eventTrait, states := states, declaredEvents := declaredEvents } =
      part first) : part second = part first := by
  rw [← blind second.stateTrait second.eventTrait second.states second.declaredEvents, reordered.rest]

theorem kept_kind : second.kind = first.kind := kept_part reordered (·.kind) fun _ _ _ _ => rfl

theorem kept_hooks (side : Side) : second.hooks side = first.hooks side :=
  kept_part reordered (·.hooks side) fun _ _ _ _ => rfl

theorem kept_trait_name (side : Side) : second.traitName? side = first.traitName? side := by
  have bare : (if second.isEventDriven then some (second.name ++ side.label ++ "Trait") else none) =
      if first.isEventDriven then some (first.name ++ side.label ++ "Trait") else none :=
    kept_part reordered (fun spec => if spec.isEventDriven then some (spec.name ++ side.label ++ "Trait") else none)
      fun _ _ _ _ => rfl
  have traits := reordered.traits side
  rw [Spec.traitName?, Spec.traitName?, bare]
  generalize first.declaredTrait side = one at traits
  generalize second.declaredTrait side = other at traits
  cases traits with
  | none => rfl
  | some together => rw [← together.rest]

theorem kept_state_names : (first.states.map (·.name)).Perm (second.states.map (·.name)) :=
  rearranged_map _ (fun state other together => (state_reordered_owner state other together).1) reordered.states

theorem kept_declared_names : (first.declaredEvents.map (·.name)).Perm (second.declaredEvents.map (·.name)) :=
  rearranged_map _ (fun event other together => (event_reordered_owner event other together).1) reordered.events

theorem kept_transitions : first.transitions.Perm second.transitions :=
  rearranged_flatMap _ (fun _ _ together => together.transitions) reordered.states

theorem kept_owned : first.ownedTransitions.Perm second.ownedTransitions := by
  refine rearranged_flatMap _ (fun state other together => ?_) reordered.states
  rw [(state_reordered_owner state other together).1]
  exact together.transitions.map _

theorem kept_declared_methods (side : Side) : (declaredMethods first side).Perm (declaredMethods second side) := by
  have traits := reordered.traits side
  unfold declaredMethods
  generalize first.declaredTrait side = one at traits
  generalize second.declaredTrait side = other at traits
  cases traits with
  | none => exact List.Perm.refl _
  | some together => exact together.methods

theorem kept_methods (side : Side) : (first.traitMethods side).Perm (second.traitMethods side) := by
  have declared := kept_declared_methods reordered side
  have missing : (fun hook : Hook => !(declaredMethods second side).any (·.name == hook.name)) =
      fun hook => !(declaredMethods first side).any (·.name == hook.name) :=
    funext fun hook => congrArg (!·) declared.symm.any_eq
  rw [trait_methods_eq, trait_methods_eq, kept_hooks reordered, missing,
    kept_part reordered (·.resolve side) fun _ _ _ _ => rfl, kept_part reordered (·.generate) fun _ _ _ _ => rfl]
  exact (declared.map _).append_right _

theorem kept_async_names (side : Side) : (asyncNames first side).Perm (asyncNames second side) :=
  ((kept_methods reordered side).filter _).map _

theorem kept_class_names : (classNames first).Perm (classNames second) := by
  have states := kept_state_names reordered
  have machines : (first.states.map fun state => machineClass first state.name).Perm
      (second.states.map fun state => machineClass second state.name) := by
    have named : machineClass second = machineClass first := kept_part reordered machineClass fun _ _ _ _ => rfl
    rw [named]
    simpa [Function.comp_def] using states.map (machineClass first)
  have name : second.name = first.name := kept_part reordered (·.name) fun _ _ _ _ => rfl
  have stateEnum : second.stateEnum = first.stateEnum := kept_part reordered (·.stateEnum) fun _ _ _ _ => rfl
  have eventEnum : second.eventEnum = first.eventEnum := kept_part reordered (·.eventEnum) fun _ _ _ _ => rfl
  simp only [classNames, kept_kind reordered, kept_trait_name reordered, name, stateEnum, eventEnum]
  cases first.kind with
  | deterministic => exact (List.Perm.cons _ states).append_right _ |>.append machines
  | eventDriven => exact (List.Perm.cons _ states).append_right _ |>.append_right _

theorem kept_clashes (name : Text) : eventClashes second name = eventClashes first name := by
  have states : second.states.any (·.name == name) = first.states.any (·.name == name) := by
    have same := (kept_state_names reordered).any_eq (f := (· == name))
    simpa [List.any_map, Function.comp_def] using same.symm
  have others : otherClassNames second = otherClassNames first := by
    have name : second.name = first.name := kept_part reordered (·.name) fun _ _ _ _ => rfl
    have stateEnum : second.stateEnum = first.stateEnum := kept_part reordered (·.stateEnum) fun _ _ _ _ => rfl
    have eventEnum : second.eventEnum = first.eventEnum := kept_part reordered (·.eventEnum) fun _ _ _ _ => rfl
    simp only [otherClassNames, kept_trait_name reordered, name, stateEnum, eventEnum]
  rw [eventClashes, eventClashes, states, others]

theorem kept_event_names (name : Text) : name ∈ first.events.map (·.name) ↔ name ∈ second.events.map (·.name) := by
  have declared := (kept_declared_names reordered).mem_iff (a := name)
  rw [List.mem_map, List.mem_map] at declared
  rw [mem_event_names, mem_event_names, declared]
  simp only [(kept_transitions reordered).mem_iff]

end Kept

/-! The verdict. -/

theorem fits_reordered (methods others : List Resolved) (moved : methods.Perm others)
    (distinct : (methods.map (·.name)).Nodup) (fields : List Field) (impls bodies : List Method)
    (shuffled : impls.Perm bodies) (fits : Fits methods fields impls) : Fits others fields bodies where
  apart := by
    intro field member
    rw [← moved.any_eq]
    exact fits.apart field member
  distinct := (shuffled.map _).nodup_iff.mp fits.distinct
  listed := by
    intro impl member
    rw [← perm_find Resolved.name moved distinct]
    exact fits.listed impl (shuffled.mem_iff.mpr member)
  complete := by
    intro method member abstract_
    rw [← shuffled.any_eq]
    exact fits.complete method (moved.mem_iff.mpr member) abstract_

section Verdict

variable {first second : Spec} (reordered : first.Reordered second)

include reordered

theorem names_reordered (accepted : NamesAccepted first) : NamesAccepted second := by
  have classes := kept_class_names reordered
  have kind := kept_kind reordered
  have context : second.context = first.context := kept_part reordered (·.context) fun _ _ _ _ => rfl
  have enumerated : Enumerated second = Enumerated first := kept_part reordered Enumerated fun _ _ _ _ => rfl
  refine ⟨context ▸ accepted.context, ?_, ?_, classes.nodup_iff.mp accepted.distinct, ?_, ?_,
    enumerated ▸ accepted.enumerated, ?_⟩
  · intro none_
    have empty := kept_state_names reordered
    rw [none_] at empty
    exact accepted.states (List.map_eq_nil_iff.mp empty.eq_nil)
  · exact fun name member => accepted.valid name (classes.mem_iff.mpr member)
  · exact fun name member => accepted.unreserved name (classes.mem_iff.mpr member)
  · intro other member
    obtain ⟨state, declared, together⟩ := rearranged_mem reordered.states other member
    rw [← (state_reordered_owner state other together).2]
    exact accepted.fields state declared
  · rw [kind]
    intro eventDriven
    obtain ⟨distinct, fields⟩ := accepted.events eventDriven
    refine ⟨(kept_declared_names reordered).nodup_iff.mp distinct, ?_⟩
    intro other member
    obtain ⟨event, declared, together⟩ := rearranged_mem reordered.events other member
    rw [← (event_reordered_owner event other together).2]
    exact fields event declared

section Targets

variable (distinct : (first.states.map (·.name)).Nodup)

include distinct

theorem kept_state (target : Text) :
    (second.state? target).map State.isDefaultConstructible = (first.state? target).map State.isDefaultConstructible := by
  have found := rearranged_find State.name (fun state other together => (state_reordered_owner state other together).1)
    reordered.states distinct target
  unfold Spec.state?
  generalize first.states.find? (State.name · == target) = one at found
  generalize second.states.find? (State.name · == target) = other at found
  cases found with
  | none => rfl
  | some together =>
      rw [Option.map_some, Option.map_some, State.isDefaultConstructible, State.isDefaultConstructible,
        (state_reordered_owner _ _ together).2]

theorem kept_destination (transition : Transition) (element : Text) :
    checkDestination second transition element = checkDestination first transition element := by
  unfold checkDestination
  cases transition.target with
  | none => rfl
  | some target =>
      have found := kept_state reordered distinct target
      cases one : first.state? target <;> cases other : second.state? target <;> simp_all

theorem kept_target (transition : Transition) (element : Text) :
    checkTarget second transition element = checkTarget first transition element := by
  unfold checkTarget
  cases transition.target with
  | none => rfl
  | some target =>
      have found := kept_state reordered distinct target
      cases one : first.state? target <;> cases other : second.state? target <;> simp_all

end Targets

theorem kept_reference (transition : Transition) (accepted : checkReference first transition = .ok ()) :
    checkReference second transition = .ok () := by
  have declared := (kept_declared_names reordered).mem_iff (a := transition.trigger)
  rw [List.mem_map, List.mem_map] at declared
  rw [reference_eq_ok] at accepted ⊢
  rwa [← declared, kept_clashes reordered]

theorem kind_reordered (distinct : (first.states.map (·.name)).Nodup)
    (accepted : checkKind first = .ok ()) : checkKind second = .ok () := by
  have kept := kept_kind reordered
  cases kind : first.kind with
  | deterministic =>
      rw [kind] at kept
      rw [deterministic_kind_eq_ok first kind] at accepted
      rw [deterministic_kind_eq_ok second kept]
      intro other member
      obtain ⟨state, declared, together⟩ := rearranged_mem reordered.states other member
      obtain ⟨triggers, each⟩ := accepted state declared
      refine ⟨(together.transitions.map _).nodup_iff.mp triggers, ?_⟩
      intro transition inOther
      obtain ⟨named, unreserved, destination, params⟩ := each transition (together.transitions.mem_iff.mpr inOther)
      rw [(state_reordered_owner state other together).1] at destination params
      exact ⟨named, unreserved, by rwa [kept_destination reordered distinct], params⟩
  | eventDriven =>
      rw [kind] at kept
      obtain ⟨⟨pairs, reactions⟩, apart, sole, some_⟩ := (event_driven_kind_eq_ok first kind).mp accepted
      have owned := kept_owned reordered
      refine (event_driven_kind_eq_ok second kept).mpr ⟨⟨(owned.map _).nodup_iff.mp pairs, ?_⟩, ?_, ?_, ?_⟩
      · intro item member
        obtain ⟨reference, target⟩ := reactions item (owned.mem_iff.mpr member)
        exact ⟨kept_reference reordered item.2 reference, by rwa [kept_target reordered distinct]⟩
      · intro other member
        obtain ⟨event, declared, together⟩ := rearranged_mem reordered.events other member
        rw [kept_clashes reordered, ← (event_reordered_owner event other together).1]
        exact apart event declared
      · have catchAlls : second.catchAlls = first.catchAlls := kept_part reordered (·.catchAlls) fun _ _ _ _ => rfl
        rwa [catchAlls]
      · obtain ⟨event, known⟩ := List.exists_mem_of_ne_nil _ some_
        have named := (kept_event_names reordered event.name).mp (List.mem_map_of_mem known)
        intro none_
        rw [none_] at named
        cases named

theorem declaration_reordered (side : Side) (owner : Text) (method : Method)
    (accepted : DeclarationAccepted first side owner method) : DeclarationAccepted second side owner method where
  named := accepted.named
  unreserved := by
    have eventDriven : second.isEventDriven = first.isEventDriven :=
      kept_part reordered (·.isEventDriven) fun _ _ _ _ => rfl
    rw [eventDriven]
    exact accepted.unreserved
  manner := by
    have isAsync : second.isAsync = first.isAsync := kept_part reordered (·.isAsync) fun _ _ _ _ => rfl
    rw [isAsync]
    exact accepted.manner
  hook := by
    have checked : checkHook second = checkHook first := kept_part reordered checkHook fun _ _ _ _ => rfl
    rw [kept_hooks reordered, checked]
    exact accepted.hook

theorem trait_reordered (side : Side) (accepted : checkTrait first side = .ok ()) : checkTrait second side = .ok () := by
  rw [trait_eq_ok] at accepted ⊢
  intro other declared
  have traits := reordered.traits side
  rw [declared] at traits
  generalize found : first.declaredTrait side = one at traits
  cases traits with
  | some together =>
      rename_i trait_
      obtain ⟨bases, distinct, each⟩ := accepted trait_ found
      have same : trait_.name = other.name ∧ trait_.bases = other.bases := by
        rw [← together.rest]
        exact ⟨rfl, rfl⟩
      refine ⟨same.2 ▸ bases, (together.methods.map _).nodup_iff.mp distinct, ?_⟩
      intro method member
      rw [← same.1]
      exact declaration_reordered reordered side _ method (each method (together.methods.mem_iff.mpr member))

theorem state_side_reordered (accepted : SideAccepted first .state) : SideAccepted second .state where
  trait_ := trait_reordered reordered .state accepted.trait_
  owners := by
    refine List.forall_mem_map.mpr fun other member => ?_
    obtain ⟨state, declared, together⟩ := rearranged_mem reordered.states other member
    have fits := accepted.owners _ (List.mem_map_of_mem declared)
    rw [← (state_reordered_owner state other together).2]
    exact fits_reordered _ _ (kept_methods reordered .state) (method_names_apart first .state accepted.trait_) _ _ _
      together.impls fits

-- An event that is not declared has no fields and no bodies, whichever transition it is first met in.
theorem event_side_reordered (distinct : (first.declaredEvents.map (·.name)).Nodup)
    (accepted : SideAccepted first .event) : SideAccepted second .event where
  trait_ := trait_reordered reordered .event accepted.trait_
  owners := by
    have fits : ∀ event ∈ first.events, ∀ bodies, event.impls.Perm bodies →
        Fits (second.traitMethods .event) event.fields bodies := by
      intro event known bodies shuffled
      exact fits_reordered _ _ (kept_methods reordered .event) (method_names_apart first .event accepted.trait_) _ _ _
        shuffled (accepted.owners _ (List.mem_map_of_mem known))
    refine List.forall_mem_map.mpr fun other member => ?_
    rcases event_origin second other member with declared | ⟨⟨owned, inOwned, _, undeclared⟩, noFields, noImpls⟩
    · obtain ⟨event, inFirst, together⟩ := rearranged_mem reordered.events other declared
      rw [← (event_reordered_owner event other together).2]
      exact fits event (declared_known first distinct event inFirst) _ together.impls
    · have trigger := trigger_is_event first owned ((kept_owned reordered).mem_iff.mpr inOwned)
      obtain ⟨event, known, named⟩ := List.mem_map.mp trigger
      have bare := (event_origin first event known).resolve_left fun declared => by
        have listed := (kept_declared_names reordered).mem_iff.mp (List.mem_map_of_mem declared)
        obtain ⟨twin, inSecond, same⟩ := List.mem_map.mp listed
        exact undeclared twin inSecond (same.trans named)
      have own := fits event known event.impls (List.Perm.refl _)
      rw [noFields, noImpls]
      rwa [bare.2.1, bare.2.2] at own

theorem traits_reordered (distinct : first.kind = .eventDriven → (first.declaredEvents.map (·.name)).Nodup)
    (accepted : checkTraits first = .ok ()) : checkTraits second = .ok () := by
  have kind := kept_kind reordered
  have absent : second.stateTrait = none ↔ first.stateTrait = none := by
    have traits : Option.Rel Trait.Reordered first.stateTrait second.stateTrait := reordered.traits .state
    generalize first.stateTrait = one at traits
    generalize second.stateTrait = other at traits
    cases traits <;> simp
  rw [traits_eq_ok] at accepted ⊢
  simp only [kind, absent]
  by_cases bare : first.stateTrait = none ∧ first.kind = .deterministic
  · rw [if_pos bare] at accepted ⊢
    intro other member
    obtain ⟨state, declared, together⟩ := rearranged_mem reordered.states other member
    have nothing := together.impls
    rw [accepted state declared] at nothing
    exact nothing.symm.eq_nil
  · rw [if_neg bare] at accepted ⊢
    refine ⟨state_side_reordered reordered accepted.1, fun eventDriven => ?_⟩
    exact event_side_reordered reordered (distinct eventDriven) (accepted.2 eventDriven)

theorem impls_read_reordered (side : Side) (impls bodies : List Method) (shuffled : impls.Perm bodies)
    (read : ImplsRead (asyncNames first side) impls) : ImplsRead (asyncNames second side) bodies := by
  intro impl member
  have manner : (asyncNames second side).contains impl.name = (asyncNames first side).contains impl.name := by
    rw [Bool.eq_iff_iff, List.contains_iff_mem, List.contains_iff_mem, (kept_async_names reordered side).mem_iff]
  rw [manner]
  exact read impl (shuffled.mem_iff.mpr member)

theorem coded_reordered (coded : WellCoded first) : WellCoded second := by
  have isAsync : second.isAsync = first.isAsync := kept_part reordered (·.isAsync) fun _ _ _ _ => rfl
  have prelude : second.prelude = first.prelude := kept_part reordered (·.prelude) fun _ _ _ _ => rfl
  have attributes : second.attributes = first.attributes := kept_part reordered (·.attributes) fun _ _ _ _ => rfl
  have enumerations : second.stateEnum.toList ++ second.eventEnum.toList =
      first.stateEnum.toList ++ first.eventEnum.toList :=
    kept_part reordered (fun spec => spec.stateEnum.toList ++ spec.eventEnum.toList) fun _ _ _ _ => rfl
  have catchAll : second.catchAll? = first.catchAll? := kept_part reordered (·.catchAll?) fun _ _ _ _ => rfl
  have kind := kept_kind reordered
  constructor
  · rw [prelude]
    exact coded.prelude
  · rw [attributes]
    exact coded.decorators
  · rw [enumerations]
    exact coded.enumerations
  · intro side method member
    exact coded.methods side method ((kept_methods reordered side).mem_iff.mpr member)
  · intro other member
    obtain ⟨state, declared, together⟩ := rearranged_mem reordered.states other member
    obtain ⟨fields, impls, transitions⟩ := coded.states state declared
    refine ⟨(state_reordered_owner state other together).2 ▸ fields, ?_, ?_⟩
    · exact impls_read_reordered reordered .state _ _ together.impls impls
    · intro transition inOther
      rw [isAsync]
      exact transitions transition (together.transitions.mem_iff.mpr inOther)
  · rw [kind]
    intro eventDriven other member
    obtain ⟨event, declared, together⟩ := rearranged_mem reordered.events other member
    obtain ⟨fields, impls⟩ := coded.events eventDriven event declared
    exact ⟨(event_reordered_owner event other together).2 ▸ fields,
      impls_read_reordered reordered .event _ _ together.impls impls⟩
  · rw [kind, catchAll, isAsync]
    exact coded.catchAll

theorem valid_reordered (valid : first.validate = .ok ()) : second.validate = .ok () := by
  have names := names_of_valid first valid
  obtain ⟨named, kind, traits, fragments⟩ := (validate_eq_ok first).mp valid
  refine (validate_eq_ok second).mpr ⟨(names_eq_ok second).mpr (names_reordered reordered names), ?_, ?_, ?_⟩
  · exact kind_reordered reordered (state_names_distinct first named) kind
  · exact traits_reordered reordered (fun eventDriven => (names.events eventDriven).1) traits
  · exact (fragments_eq_ok second).mpr (coded_reordered reordered ((fragments_eq_ok first).mp fragments))

end Verdict

theorem spec_reordered_symm (first second : Spec) (reordered : first.Reordered second) : second.Reordered first where
  rest := by rw [← reordered.rest]
  traits := by
    intro side
    have traits := reordered.traits side
    generalize first.declaredTrait side = one at traits
    generalize second.declaredTrait side = other at traits
    cases traits with
    | none => exact .none
    | some together => exact .some (trait_reordered_symm _ _ together)
  states := rearranged_symm state_reordered_symm reordered.states
  events := rearranged_symm event_reordered_symm reordered.events

/-! Tables. -/

section Tables

variable {first second : Spec} (reordered : first.Reordered second)
  (distinct : (first.ownedTransitions.map pairOf).Nodup)

include reordered distinct

theorem kept_resolution (state event : Text) : second.resolution state event = first.resolution state event := by
  have owned := kept_owned reordered
  have pairs := owned.map pairOf
  by_cases declared : (state, event) ∈ first.ownedTransitions.map pairOf
  · obtain ⟨⟨owner, transition⟩, member, same⟩ := List.mem_map.mp declared
    obtain ⟨rfl, rfl⟩ := Prod.mk.inj same
    rw [resolution_owned first distinct owner transition member,
      resolution_owned second (pairs.nodup_iff.mp distinct) owner transition (owned.mem_iff.mp member)]
  · have catchAlls : second.catchAlls = first.catchAlls := kept_part reordered (·.catchAlls) fun _ _ _ _ => rfl
    rw [resolution_undeclared first state event declared,
      resolution_undeclared second state event (fun also => declared (pairs.mem_iff.mpr also)), catchAlls]

theorem kept_rows : first.rows.Perm second.rows := by
  have apart : ∀ spec : Spec, spec.rows.Nodup := by
    intro spec
    refine (rows_in_order spec).imp ?_
    rintro entry other (before | before) rfl <;> omega
  rw [List.perm_ext_iff_of_nodup (apart first) (apart second)]
  intro entry
  rw [mem_rows, mem_rows, (kept_state_names reordered).mem_iff, kept_event_names reordered,
    kept_resolution reordered distinct]

theorem kept_lookup (kind : first.kind = .eventDriven) (table other : Table) (built : first.table = .ok table)
    (also : second.table = .ok other) (state event : Text) :
    table.lookup? state event = other.lookup? state event := by
  have kept : second.kind = .eventDriven := (kept_kind reordered).trans kind
  have states := (kept_state_names reordered).mem_iff (a := state)
  have events := kept_event_names reordered event
  by_cases defined : state ∈ first.states.map (·.name) ∧ event ∈ first.events.map (·.name)
  · rw [lookup_resolution first table built state event defined.1 defined.2,
      lookup_resolution second other also state event (states.mp defined.1) (events.mp defined.2),
      kept_resolution reordered distinct]
  · have undefined : ¬ (state ∈ second.states.map (·.name) ∧ event ∈ second.events.map (·.name)) := by
      rwa [← states, ← events]
    have rows : table.entries = first.rows := by rw [((table_eq_ok first kind table).mp built).2]
    have others : other.entries = second.rows := by rw [((table_eq_ok second kept other).mp also).2]
    rw [← lookup_defined first table built rows, Option.not_isSome_iff_eq_none] at defined
    rw [← lookup_defined second other also others, Option.not_isSome_iff_eq_none] at undefined
    rw [defined, undefined]

end Tables

/-- Two specifications that differ only in the order of their declarations are both valid or both not. Valid
event-driven ones have tables with the same entries, and whatever pair is looked up has the same entry in both. -/
theorem order_decides_nothing (first second : Spec) (reordered : first.Reordered second) :
    (first.validate = .ok () ↔ second.validate = .ok ()) ∧
    (first.validate = .ok () → first.kind = .eventDriven →
      ∃ table other, first.table = .ok table ∧ second.table = .ok other ∧ table.entries.Perm other.entries ∧
        ∀ state event, table.lookup? state event = other.lookup? state event) := by
  refine ⟨⟨valid_reordered reordered, valid_reordered (spec_reordered_symm first second reordered)⟩, ?_⟩
  intro valid kind
  have kept : second.kind = .eventDriven := (kept_kind reordered).trans kind
  have distinct := pairs_distinct first valid
  obtain ⟨table, built⟩ := table_built first valid kind
  obtain ⟨other, also⟩ := table_built second (valid_reordered reordered valid) kept
  refine ⟨table, other, built, also, ?_, kept_lookup reordered distinct kind table other built also⟩
  rw [((table_eq_ok first kind table).mp built).2, ((table_eq_ok second kept other).mp also).2]
  exact kept_rows reordered distinct

-- A turnstile, or the same one written from its last declaration to its first. Nobody declares `Push`.
def turnstileSpec (backwards : Bool) : Spec :=
  let order {α : Type} (items : List α) : List α := if backwards then items.reverse else items
  { kind := .eventDriven, name := "Turnstile", context := "list"
    stateEnum := some { name := "TurnstileState" }, eventEnum := some { name := "TurnstileEvent" }
    stateTrait := some { name := "Arm", methods := order [{ name := "turns" }, { name := "label", body := "return 1" }] }
    states := order
      [{ name := "Locked", impls := order [{ name := "turns", body := "return 0" }, { name := "label", body := "pass" }]
         transitions := order
          [{ source := "Locked", trigger := "Coin", target := some "Open" },
           { source := "Locked", trigger := "Push", body := "context.append(1)" }] },
       { name := "Open", impls := [{ name := "turns", body := "return 1" }]
         transitions := [{ source := "Open", trigger := "Push", target := some "Locked" }] }]
    declaredEvents := order [{ name := "Coin", fields := [{ name := "value", type := "int" }] }, { name := "Ring" }]
    catchAlls := [{ body := "return state" }] }

theorem turnstile_backwards_alike :
    (turnstileSpec false).Reordered (turnstileSpec true) ∧ (turnstileSpec true).validate = .ok () ∧
      ∃ table other, (turnstileSpec false).table = .ok table ∧ (turnstileSpec true).table = .ok other ∧
        table.events ≠ other.events ∧ ∀ state event, table.lookup? state event = other.lookup? state event := by
  have reordered : (turnstileSpec false).Reordered (turnstileSpec true) := by
    refine ⟨rfl, ?_, ⟨(turnstileSpec false).states.zip (turnstileSpec true).states.reverse, ?_, ?_, ?_⟩,
      ⟨(turnstileSpec false).declaredEvents.zip (turnstileSpec true).declaredEvents.reverse, ?_, ?_, ?_⟩⟩
    · rintro (_ | _)
      · exact .some ⟨rfl, List.Perm.swap _ _ _⟩
      · exact .none
    · decide +kernel
    · decide +kernel
    · refine List.forall_mem_cons.mpr ⟨⟨rfl, List.Perm.swap _ _ _, List.Perm.swap _ _ _⟩, ?_⟩
      exact List.forall_mem_singleton.mpr ⟨rfl, List.Perm.refl _, List.Perm.refl _⟩
    · decide +kernel
    · decide +kernel
    · refine List.forall_mem_cons.mpr ⟨⟨rfl, List.Perm.refl _⟩, ?_⟩
      exact List.forall_mem_singleton.mpr ⟨rfl, List.Perm.refl _⟩
  have valid : (turnstileSpec false).validate = .ok () := by decide +kernel
  obtain ⟨verdict, tables⟩ := order_decides_nothing _ _ reordered
  obtain ⟨table, other, built, also, _, same⟩ := tables valid rfl
  refine ⟨reordered, verdict.mp valid, table, other, built, also, ?_, same⟩
  rw [((table_eq_ok _ rfl table).mp built).2, ((table_eq_ok _ rfl other).mp also).2]
  decide +kernel

end Statewright
