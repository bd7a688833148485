import Statewright.Machine.Dispatch
import Statewright.Proofs.FragmentChecks
import Statewright.Proofs.Forwarding
import Statewright.Proofs.Methods
import Statewright.Proofs.ModuleClasses

/-!
Methods of traits, called on a value and through the enumeration around it. The class of every value has a body for each
method: the one that its state or event gives, or else the one of the trait. The enumeration hands every call on.
-/
set_option autoImplicit false

namespace Statewright

/-! The owners of a specification. -/

theorem owner_names_distinct (spec : Spec) (valid : spec.validate = .ok ()) (kind : spec.kind = .eventDriven) :
    ((owners spec .state ++ owners spec .event).map (·.1)).Nodup := by
  have distinct := (module_classes_distinct spec valid).1
  have within : ((owners spec .state ++ owners spec .event).map (·.1)).Sublist spec.moduleClasses := by
    simp only [owners, List.map_append, List.map_map, Function.comp_def, Spec.moduleClasses, Spec.valueClasses, kind]
    refine List.Sublist.trans ?_ (List.sublist_append_right _ _)
    exact (List.sublist_append_right _ _).append (List.sublist_append_right _ _)
  exact within.nodup distinct

-- A name belongs to one owner on one side.
theorem owner_of_name (spec : Spec) (valid : spec.validate = .ok ()) (kind : spec.kind = .eventDriven)
    (side other : Side) (owner owner' : Text × List Field × List Method × Nat) (member : owner ∈ owners spec side)
    (member' : owner' ∈ owners spec other) (same : owner.1 = owner'.1) : side = other ∧ owner = owner' := by
  have distinct := owner_names_distinct spec valid kind
  rw [List.map_append] at distinct
  have apart := (List.nodup_append.mp distinct).2.2
  have sides : side = other := by
    cases side <;> cases other
    · rfl
    · exact absurd same (apart _ (List.mem_map_of_mem member) _ (List.mem_map_of_mem member'))
    · exact absurd same.symm (apart _ (List.mem_map_of_mem member') _ (List.mem_map_of_mem member))
    · rfl
  subst sides
  have alone : ((owners spec side).map (·.1)).Nodup := by
    cases side
    · exact (List.nodup_append.mp distinct).1
    · exact (List.nodup_append.mp distinct).2.1
  exact ⟨rfl, List.inj_on_of_nodup_map alone member member' same⟩

namespace Machine

/-! Lists of parameters in one class and another. -/

theorem fill_slots_plain {α : Type} (owner other : Text) (named : List (Text × α)) (slots : List (Slot α))
    (plain : ∀ slot ∈ slots, isPrivate slot.name = false) :
    fillSlots owner named slots = fillSlots other named slots := by
  induction slots with
  | nil => rfl
  | cons slot rest ih =>
      obtain ⟨first, later⟩ := List.forall_mem_cons.mp plain
      rw [fillSlots, fillSlots, name_within_plain owner _ first, name_within_plain other _ first, ih later]

namespace Formals

variable {α : Type} (formals : Formals α)

-- No parameter that may be given by name has a private one.
def OpenlyNamed : Prop := ∀ slot ∈ formals.positional ++ formals.keywordOnly, isPrivate slot.name = false

variable (openly : formals.OpenlyNamed) (owner other : Text) (front : List Text)

include openly

theorem keys_openly (slots : List (Slot α)) (within : slots ⊆ formals.positional ++ formals.keywordOnly) :
    slots.map (formals.headed owner front).key = slots.map (·.name) :=
  List.map_congr_left fun slot member => name_within_plain owner slot.name (openly slot (within member))

theorem open_names_openly : (formals.headed owner front).openNames = (formals.headed other front).openNames := by
  have keys := fun owner => formals.keys_openly openly owner front _ fun _ member => member
  change _ ++ (formals.positional ++ formals.keywordOnly).map _ = _ ++ (formals.positional ++ formals.keywordOnly).map _
  rw [keys owner, keys other]
  rfl

-- Such a list binds the same arguments in every class.
theorem bind_openly (arguments : Arguments α) :
    (formals.headed owner front).bind arguments = (formals.headed other front).bind arguments := by
  have names := formals.open_names_openly openly owner other front
  have taken : ∀ count, ((formals.headed owner front).positional.take count).map (formals.headed owner front).key =
      ((formals.headed other front).positional.take count).map (formals.headed other front).key := by
    intro count
    have inside : formals.positional.take count ⊆ formals.positional ++ formals.keywordOnly :=
      fun slot member => List.mem_append_left _ (List.take_subset _ _ member)
    exact (formals.keys_openly openly owner front _ inside).trans
      (formals.keys_openly openly other front _ inside).symm
  have late : ∀ named count,
      fillSlots (formals.headed owner front).owner named ((formals.headed owner front).positional.drop count) =
        fillSlots (formals.headed other front).owner named ((formals.headed other front).positional.drop count) :=
    fun named count => fill_slots_plain owner other named (formals.positional.drop count) fun slot member =>
      openly slot (List.mem_append_left _ (List.drop_subset _ _ member))
  have byName : ∀ named,
      fillSlots (formals.headed owner front).owner named (formals.headed owner front).keywordOnly =
        fillSlots (formals.headed other front).owner named (formals.headed other front).keywordOnly :=
    fun named => fill_slots_plain owner other named formals.keywordOnly fun slot member =>
      openly slot (List.mem_append_right _ member)
  unfold bind
  simp only [names, taken, late, byName]
  rfl

variable (compiles : (formals.headed owner front).Compiles)
  (plain : ∀ name ∈ front, isPrivate name = false)

include compiles plain

-- What it has bound it binds again when it is handed on.
theorem bind_forwarded (arguments : Arguments α) (bindings : List (Text × Bound α))
    (bound : (formals.headed owner front).bind arguments = some bindings) :
    (formals.headed owner front).bind (formals.forward bindings) = some bindings := by
  obtain ⟨apart, filling, heads, same, collected⟩ := Formals.bind_filling _ _ _ bound
  have names := Formals.names_distinct (formals.headed owner front) compiles
  have fits := (formals.fits_headed filling owner front).mp heads
  obtain rfl : bindings = filling.bindings formals := same
  rw [formals.forward_eq filling names fits]
  have distinct : (filling.collected.map (·.1)).Nodup := by
    rw [collected]
    exact (List.filter_sublist.map _).nodup apart
  refine (formals.taken_again_iff filling owner front compiles plain fits distinct).mpr ⟨?_, ?_⟩
  · intro slot member
    exact name_within_plain owner slot.name (openly slot (List.mem_append_right _ member))
  · intro entry member
    rw [collected] at member
    simpa using (List.mem_filter.mp member).2

end Formals

/-! The method of a value. -/

-- The class whose body runs for a method, and that body.
inductive RunsFor (spec : Spec) (side : Side) (type : Text) (impls : List Method) (method : Resolved) :
    Text → Text → Prop
  | given (impl : Method) (member : impl ∈ impls) (named : impl.name = method.name) :
      RunsFor spec side type impls method type impl.body
  | inherited (absent : ∀ impl ∈ impls, impl.name ≠ method.name) (concrete : method.isAbstract = false) (trait : Text)
      (named : spec.traitName? side = some trait) : RunsFor spec side type impls method trait method.body

theorem method_body_runs (spec : Spec) (kind : spec.kind = .eventDriven) (side : Side) (type : Text)
    (fields : List Field) (impls : List Method) (fits : Statewright.Fits (spec.traitMethods side) fields impls) (method : Resolved)
    (member : method ∈ spec.traitMethods side) :
    ∃ owner body, RunsFor spec side type impls method owner body ∧
      Program.methodBody? method ((spec.traitName? side).getD []) type impls = some (owner, body) := by
  obtain ⟨trait, named⟩ : ∃ trait, spec.traitName? side = some trait := by
    cases declared : spec.declaredTrait side <;> simp [Spec.traitName?, declared, Spec.isEventDriven, kind]
  rw [named]
  unfold Program.methodBody?
  cases found : impls.find? (·.name == method.name) with
  | some impl =>
      have same : impl.name = method.name := by simpa using List.find?_some found
      exact ⟨type, impl.body, .given impl (List.mem_of_find?_eq_some found) same, rfl⟩
  | none =>
      have absent : ∀ impl ∈ impls, impl.name ≠ method.name := by simpa using found
      cases required : method.isAbstract with
      | true =>
          obtain ⟨impl, inside, same⟩ := List.any_eq_true.mp (fits.complete method member required)
          exact absurd (by simpa using same) (absent impl inside)
      | false => exact ⟨trait, method.body, .inherited absent required trait named, rfl⟩

-- No method of a trait has a name of the enumerations, or a private one.
theorem method_names_unreserved (spec : Spec) (valid : spec.validate = .ok ()) (kind : spec.kind = .eventDriven)
    (side : Side) (method : Resolved) (member : method ∈ spec.traitMethods side) :
    method.name ∉ Validation.enumerationNames ∧ method.name.head? ≠ some '_' := by
  rw [trait_methods_eq, List.mem_append] at member
  rcases member with declared | missing
  · obtain ⟨own, found, rfl⟩ := List.mem_map.mp declared
    obtain ⟨_, accepted⟩ := (declared_methods_accepted spec side (sides_accepted spec valid kind side).trait_).2 own found
    simpa [Spec.isEventDriven, kind, Spec.resolve] using accepted.unreserved
  · obtain ⟨hook, added, rfl⟩ := List.mem_map.mp missing
    have listed : hook ∈ Hook.ofSide side := by
      simpa [Spec.hooks, Spec.isEventDriven, kind] using (List.mem_filter.mp added).1
    have free : ∀ side, ∀ hook ∈ Hook.ofSide side,
        hook.name ∉ Validation.enumerationNames ∧ hook.name.head? ≠ some '_' := by
      intro side
      cases side <;> decide
    exact free side hook listed

theorem plain_of_open (name : Text) (unmarked : name.head? ≠ some '_') : isPrivate name = false := by
  cases name with
  | nil => rfl
  | cons c rest =>
      have apart : c ≠ '_' := by simpa using unmarked
      change (('_' == c && List.isPrefixOf ['_'] rest) && _) = false
      rw [beq_false_of_ne apart.symm]
      rfl

theorem never_abstract (spec : Spec) (valid : spec.validate = .ok ()) (kind : spec.kind = .eventDriven) (side : Side)
    (type : Text) (fields : List Field) (impls : List Method) (fits : Statewright.Fits (spec.traitMethods side) fields impls) :
    Program.staysAbstract spec side type impls = false := by
  rw [Program.staysAbstract, List.any_eq_false]
  intro method member missing
  obtain ⟨required, absent⟩ := Bool.and_eq_true_iff.mp missing
  obtain ⟨impl, inside, same⟩ := List.any_eq_true.mp (fits.complete method member required)
  have plain := plain_of_open method.name (method_names_unreserved spec valid kind side method member).2
  rw [Bool.not_eq_true'] at absent
  refine List.any_eq_false.mp absent impl inside ?_
  rw [eq_of_beq same, name_within_plain _ _ plain, name_within_plain _ _ plain]
  exact beq_self_eq_true _

/-! What the program holds. -/

theorem program_methods (spec : Spec) (kind : spec.kind = .eventDriven) :
    (Program.ofSpec spec).methods =
      ((owners spec .state).flatMap fun owner => Program.methodsOf spec .state owner.1 owner.2.2.1) ++
        (owners spec .event).flatMap fun owner => Program.methodsOf spec .event owner.1 owner.2.2.1 := by
  simp only [Program.ofSpec, Spec.isEventDriven, kind, decide_true, if_true, owners, List.flatMap_map]

theorem mem_program_methods (spec : Spec) (kind : spec.kind = .eventDriven) (entry : (Text × Text) × Function) :
    entry ∈ (Program.ofSpec spec).methods ↔
      ∃ side, ∃ owner ∈ owners spec side, entry ∈ Program.methodsOf spec side owner.1 owner.2.2.1 := by
  rw [program_methods spec kind, List.mem_append, List.mem_flatMap, List.mem_flatMap]
  constructor
  · rintro (state | event)
    · exact ⟨.state, state⟩
    · exact ⟨.event, event⟩
  · rintro ⟨side, found⟩
    cases side with
    | state => exact .inl found
    | event => exact .inr found

-- The methods of a class are found by the name of the class and their own.
theorem method_found (spec : Spec) (valid : spec.validate = .ok ()) (kind : spec.kind = .eventDriven) (side : Side)
    (object : Text × List Field × List Method × Nat) (member : object ∈ owners spec side) (method : Resolved)
    (listed : method ∈ spec.traitMethods side) (owner body : Text)
    (resolved : Program.methodBody? method ((spec.traitName? side).getD []) object.1 object.2.2.1 = some (owner, body)) :
    (Program.ofSpec spec).method? object.1 method.name =
      some { Function.ofCode (Code.readMethodParams method.params) 8 body with owner } := by
  have within : ((object.1, method.name), { Function.ofCode (Code.readMethodParams method.params) 8 body with owner }) ∈
      (Program.ofSpec spec).methods := by
    refine (mem_program_methods spec kind _).mpr ⟨side, object, member, List.mem_filterMap.mpr ⟨method, listed, ?_⟩⟩
    rw [resolved]
    rfl
  unfold Program.method?
  cases found : (Program.ofSpec spec).methods.find? _ with
  | none =>
      have missing := List.find?_eq_none.mp found _ within
      simp at missing
  | some entry =>
      obtain ⟨⟨type, name⟩, function⟩ := entry
      have matched := List.find?_some found
      simp only [Bool.and_eq_true, beq_iff_eq] at matched
      obtain ⟨other, owner', member', inside⟩ :=
        (mem_program_methods spec kind _).mp (List.mem_of_find?_eq_some found)
      obtain ⟨method', listed', made⟩ := List.mem_filterMap.mp inside
      obtain ⟨⟨source, text⟩, resolved', same⟩ := Option.map_eq_some_iff.mp made
      obtain ⟨key, rfl⟩ := Prod.mk.inj same
      obtain ⟨types, names⟩ := Prod.mk.inj key
      obtain ⟨rfl, rfl⟩ := owner_of_name spec valid kind side other object owner' member member'
        (matched.1.symm.trans types.symm)
      obtain rfl := List.inj_on_of_nodup_map (trait_method_names_distinct spec valid kind side) listed listed'
        (matched.2.symm.trans names.symm)
      rw [resolved] at resolved'
      obtain ⟨rfl, rfl⟩ := Prod.mk.inj (Option.some.inj resolved')
      rfl

/-! Calls. -/

theorem Function.call_eq (function : Function) (classes : List DataClass) (known : Locals)
    (arguments : Arguments Value) :
    function.call classes known arguments =
      ((function.formals.headed function.owner (known.map (·.1))).bind arguments).elim (Routine.fail .mismatch)
        fun bindings => function.run classes (known ++ locals bindings) := by
  unfold Function.call
  cases (function.formals.headed function.owner (known.map (·.1))).bind arguments <;> rfl

-- A method that stands in one class, called on an object and through an enumeration around it.
theorem delegate_eq_method (program : Program) (params : Code.Params) (width : Nat) (owner body type name : Text)
    (found : program.method? type name = some { Function.ofCode (.ok params) width body with owner })
    (openly : (formalsOf params).OpenlyNamed) (compiles : (asMethod params owner).Compiles) (enumeration : Text)
    (fields : List (Text × Value)) (arguments : Arguments Value) :
    program.conduct.delegate enumeration ⟨type, fields⟩ name arguments =
      program.conduct.method type name (.object type fields) arguments := by
  have formals : program.conduct.methodFormals type name = some (formalsOf params) := by
    change (program.method? type name).map _ = _
    rw [found]
    rfl
  have method : ∀ self arguments, program.conduct.method type name self arguments =
      ((asMethod params owner).bind arguments).elim (Routine.fail .mismatch) fun bindings =>
        ({ Function.ofCode (.ok params) width body with owner } : Function).run program.classes
          ([(Text.fixed "self", self)] ++ locals bindings) := by
    intro self arguments
    simp only [Program.conduct, found]
    exact Function.call_eq _ _ _ _
  unfold Conduct.delegate
  simp only [formals, method]
  rw [(formalsOf params).bind_openly openly enumeration owner [Text.fixed "self"] arguments]
  cases bound : (asMethod params owner).bind arguments with
  | none => rfl
  | some bindings =>
      have again := (formalsOf params).bind_forwarded openly owner [Text.fixed "self"] compiles (by decide) arguments
        bindings bound
      simp only [again]
      rfl

-- What a class answers to a method of its trait.
structure Answers (spec : Spec) (side : Side) (object : Text × List Field × List Method × Nat) (method : Resolved)
    (params : Code.Params) (owner body : Text) : Prop where
  concrete : Program.staysAbstract spec side object.1 object.2.2.1 = false
  unhidden : method.name ∉ object.2.1.map (·.name)
  unreserved : method.name ∉ Validation.enumerationNames ∧ method.name.head? ≠ some '_'
  runs : RunsFor spec side object.1 object.2.2.1 method owner body
  found : (Program.ofSpec spec).method? object.1 method.name =
    some { Function.ofCode (.ok params) 8 body with owner }
  handedOn : (formalsOf params).OpenlyNamed → (asMethod params owner).Compiles →
    ∀ (enumeration : Text) (fields : List (Text × Value)) (arguments : Arguments Value),
      (Program.ofSpec spec).conduct.delegate enumeration ⟨object.1, fields⟩ method.name arguments =
        (Program.ofSpec spec).conduct.method object.1 method.name (.object object.1 fields) arguments

-- A whistle that is still has a tone of its own; when it is blown, it has the tone of its trait.
def tone (params : Text) : Method := { name := "tone", params := some params, body := "return 5" }

def whistleSpec (params : Text) : Spec :=
  { kind := .eventDriven, name := "Whistle", context := "list"
    stateEnum := some { name := "WhistleState" }, eventEnum := some { name := "WhistleEvent" }
    stateTrait := some { name := "Tuned", methods := [tone params] }
    states := [{ name := "Still", impls := [{ name := "tone", body := "return 7" }] },
      { name := "Blown", transitions := [{ source := "Blown", trigger := "Stop", target := some "Still" }] }] }

end Machine

end Statewright
