import Statewright.Proofs.Bindings
import Statewright.Proofs.Checks
import Mathlib.Data.List.Forall2

/-!
Binding once more what has been bound. When the values of all parameters are handed on to a heading with the same list,
they are bound to the same names, unless the heading knows a name otherwise: it stands in a class that changes private
names, or it has other parameters in front.
-/
set_option autoImplicit false

namespace Statewright.Machine

namespace Filling

variable {α : Type}

-- The arguments that are given by the names of the parameters.
def byName (formals : Formals α) (filling : Filling α) : List (Text × α) :=
  (formals.keywordOnly.map (·.name)).zip filling.named

-- The arguments that hand all the values on to a function with the same parameters.
def handed (formals : Formals α) (filling : Filling α) : Arguments α :=
  { positional := filling.values ++ filling.left
    named := filling.byName formals ++ filling.collected }

end Filling

theorem name_within_plain (owner name : Text) (plain : isPrivate name = false) : nameWithin owner name = name := by
  rw [nameWithin, plain]
  rfl

-- A private name is changed to one that begins with a single underscore.
theorem name_within_changed (owner name : Text) (changed : nameWithin owner name ≠ name) :
    isPrivate name = true ∧ ∃ c more, c ≠ '_' ∧ owner.dropWhile (· == '_') = c :: more ∧
      nameWithin owner name = '_' :: c :: (more ++ name) := by
  cases hidden : isPrivate name with
  | false => exact absurd (name_within_plain owner name hidden) changed
  | true =>
      cases bare : owner.dropWhile (· == '_') with
      | nil => simp [nameWithin, bare] at changed
      | cons c more =>
          have head := List.head?_dropWhile_not (· == '_') owner
          rw [bare] at head
          exact ⟨rfl, c, more, by simpa using head, rfl, by simp [nameWithin, hidden, bare]⟩

-- A class that changes one private name leaves none as it is.
theorem name_within_none_private (owner name : Text) (changed : nameWithin owner name ≠ name) (other : Text) :
    isPrivate (nameWithin owner other) = false := by
  obtain ⟨_, c, more, solid, bare, _⟩ := name_within_changed owner name changed
  cases hidden : isPrivate other with
  | false => rw [name_within_plain owner other hidden, hidden]
  | true =>
      have marked : nameWithin owner other = '_' :: c :: (more ++ other) := by simp [nameWithin, hidden, bare]
      have single : (Text.fixed "__").isPrefixOf ('_' :: c :: (more ++ other)) = false := by
        change ('_' == '_' && ('_' == c && true)) = false
        rw [Bool.beq_comm (a := '_') (b := c), beq_false_of_ne solid]
        rfl
      rw [marked, isPrivate, single, Bool.false_and]

-- A name that no class changes, and that none makes of another.
structure Steady (name : Text) : Prop where
  plain : isPrivate name = false
  doubled : name.head? = some '_' → name[1]? = some '_'

instance (name : Text) : Decidable (Steady name) :=
  decidable_of_iff (isPrivate name = false ∧ (name.head? = some '_' → name[1]? = some '_'))
    ⟨fun ⟨plain, doubled⟩ => ⟨plain, doubled⟩, fun ⟨plain, doubled⟩ => ⟨plain, doubled⟩⟩

theorem name_within_steady_iff (owner name other : Text) (steady : Steady other) :
    nameWithin owner name = other ↔ name = other := by
  constructor
  · intro within
    by_contra apart
    have changed : nameWithin owner name ≠ name := fun same => apart (same.symm.trans within)
    obtain ⟨_, c, more, solid, _, marked⟩ := name_within_changed owner name changed
    rw [within] at marked
    have doubled := steady.doubled
    rw [marked] at doubled
    exact solid (Option.some.inj (doubled rfl))
  · rintro rfl
    exact name_within_plain owner name steady.plain

namespace Formals

variable {α : Type} (formals : Formals α) (filling : Filling α)

-- The names that the heading is compiled with.
def keys : List Text := formals.front ++ formals.names.map (nameWithin formals.owner)

-- A function can have the heading: its names are told apart, and none is the one that nothing can be assigned to.
def Compiles : Prop := formals.keys.Nodup ∧ Text.fixed "__debug__" ∉ formals.keys

theorem keys_eq : formals.keys = formals.front ++ formals.positionalOnly.map formals.key ++
    formals.positional.map formals.key ++ formals.keywordOnly.map formals.key ++
      (formals.rest.toList ++ formals.keywords.toList).map (nameWithin formals.owner) := by
  simp only [keys, names, List.map_append, List.map_map, List.append_assoc]
  rfl

section Plain

variable (plain : ∀ name ∈ formals.names, isPrivate name = false)

include plain

theorem key_plain (slot : Slot α)
    (member : slot ∈ formals.positionalOnly ++ formals.positional ++ formals.keywordOnly) :
    formals.key slot = slot.name :=
  name_within_plain formals.owner slot.name
    (plain slot.name (List.mem_append_left _ (List.mem_append_left _ (List.mem_map_of_mem member))))

theorem open_names_plain :
    formals.openNames = formals.frontNames ++ (formals.positional ++ formals.keywordOnly).map (·.name) := by
  refine congrArg (formals.frontNames ++ ·) (List.map_congr_left fun slot member => ?_)
  refine formals.key_plain plain slot ?_
  rw [List.append_assoc]
  exact List.mem_append_right _ member

end Plain

theorem front_of_front_names (name : Text) (front : name ∈ formals.frontNames) : name ∈ formals.front := by
  rw [frontNames] at front
  split at front
  · exact front
  · cases front

theorem key_apart (compiles : formals.Compiles) (slot : Slot α) (member : slot ∈ formals.keywordOnly) :
    formals.key slot ∉ formals.frontNames ++ formals.positional.map formals.key := by
  have distinct := compiles.1
  rw [keys_eq] at distinct
  have before := (List.nodup_append.mp (List.nodup_append.mp distinct).1).2.2
  intro taken
  refine before _ ?_ _ (List.mem_map_of_mem member) rfl
  rcases List.mem_append.mp taken with front | placed
  · exact List.mem_append_left _ (List.mem_append_left _ (formals.front_of_front_names _ front))
  · exact List.mem_append_right _ placed

theorem names_distinct (compiles : formals.Compiles) : formals.names.Nodup :=
  List.Nodup.of_map _ (List.nodup_append.mp compiles.1).2.1

theorem keyword_names_apart (distinct : formals.names.Nodup) :
    (formals.keywordOnly.map (·.name)).Nodup ∧ ∀ name ∈ formals.keywordOnly.map (·.name),
      name ∉ (formals.positionalOnly ++ formals.positional).map (·.name) := by
  rw [names, List.map_append] at distinct
  obtain ⟨_, keywordOnly, before⟩ := List.nodup_append.mp (List.nodup_append.mp (List.nodup_append.mp distinct).1).1
  exact ⟨keywordOnly, fun name given placed => before name placed name given rfl⟩

theorem filled_flatMap {β : Type} (slots : List (Slot α)) (values : List α) (give : Text × Bound α → List β)
    (one : Text × α → β)
    (each : ∀ name ∈ slots.map (·.name), ∀ value, give (name, .one value) = [one (name, value)]) :
    (fillPositions slots values).flatMap give = ((slots.map (·.name)).zip values).map one := by
  rw [fill_positions_eq, List.flatMap_map]
  conv_rhs => rw [List.map_eq_flatMap]
  exact List.flatMap_congr fun pair member => each pair.1 (List.of_mem_zip member).1 pair.2

theorem filled_flatMap_nil {β : Type} (slots : List (Slot α)) (values : List α) (give : Text × Bound α → List β)
    (each : ∀ name ∈ slots.map (·.name), ∀ value, give (name, .one value) = []) :
    (fillPositions slots values).flatMap give = [] := by
  rw [fill_positions_eq, List.flatMap_map, List.flatMap_eq_nil_iff]
  exact fun pair member => each pair.1 (List.of_mem_zip member).1 pair.2

-- The parameters of a call are its arguments by position, then those by name.
theorem forward_eq (distinct : formals.names.Nodup) (fits : filling.Fits formals) :
    formals.forward (filling.bindings formals) = filling.handed formals := by
  have apart := (formals.keyword_names_apart distinct).2
  have rests : formals.rest.toList.flatMap (fun _ => filling.left) = filling.left := by
    cases rest : formals.rest with
    | none => rw [fits.left rest]; rfl
    | some name => simp
  have collects : formals.keywords.toList.flatMap (fun _ => filling.collected) = filling.collected := by
    cases more : formals.keywords with
    | none => rw [fits.collected more]; rfl
    | some name => simp
  unfold forward
  simp only [Filling.bindings, List.flatMap_append, List.flatMap_map, Filling.handed]
  congr 1
  · rw [filled_flatMap _ _ _ (·.2) (fun name placed value => if_pos (by simpa using placed)),
      filled_flatMap_nil formals.keywordOnly _ _ (fun name given value => if_neg (by simpa using apart name given)),
      rests, List.map_snd_zip (by simp [fits.values])]
    simp
  · rw [filled_flatMap_nil _ _ _ (fun name placed value => if_pos (by simpa using placed)),
      filled_flatMap _ _ _ id (fun name given value => if_neg (by simpa using apart name given)), collects]
    simp [Filling.byName]

-- The heading knows a parameter that is given by name under that name, and no collected argument under any.
structure Receives (collected : List (Text × α)) : Prop where
  called : ∀ slot ∈ formals.keywordOnly, formals.key slot = slot.name
  foreign : ∀ entry ∈ collected, entry.1 ∉ formals.openNames

theorem fill_slots_given (owner : Text) (named : List (Text × α)) (slots : List (Slot α)) (values : List α)
    (called : ∀ slot ∈ slots, nameWithin owner slot.name = slot.name)
    (found : List.Forall₂ (fun slot value => named? named slot.name = some value) slots values) :
    fillSlots owner named slots = some (fillPositions slots values) := by
  induction found with
  | nil => rfl
  | @cons slot value rest _ one _ ih =>
      have later := ih fun slot member => called slot (List.mem_cons_of_mem _ member)
      rw [fillSlots, called slot List.mem_cons_self, one, later]
      rfl

theorem mem_by_name (entry : Text × α) (member : entry ∈ filling.byName formals) :
    ∃ slot ∈ formals.keywordOnly, slot.name = entry.1 := List.mem_map.mp (List.of_mem_zip member).1

section Receiving

variable (fits : filling.Fits formals)

include fits

theorem by_name_names : (filling.byName formals).map (·.1) = formals.keywordOnly.map (·.name) :=
  List.map_fst_zip (by simp [fits.named])

section Received

variable (receives : formals.Receives filling.collected)

include receives

omit fits in
theorem open_by_name (slot : Slot α) (member : slot ∈ formals.keywordOnly) : slot.name ∈ formals.openNames :=
  List.mem_append_right _ (List.mem_map.mpr ⟨slot, List.mem_append_right _ member, receives.called slot member⟩)

theorem named_apart (distinct : formals.names.Nodup) (apart : (filling.collected.map (·.1)).Nodup) :
    ((filling.handed formals).named.map (·.1)).Nodup := by
  rw [Filling.handed, List.map_append]
  rw [formals.by_name_names filling fits, List.nodup_append]
  refine ⟨(formals.keyword_names_apart distinct).1, apart, fun name given other collected same => ?_⟩
  obtain ⟨slot, member, rfl⟩ := List.mem_map.mp given
  obtain ⟨entry, held, rfl⟩ := List.mem_map.mp collected
  exact receives.foreign entry held (same ▸ formals.open_by_name filling receives slot member)

omit fits in
theorem named_parted : (filling.handed formals).named.partition (fun (name, _) => formals.openNames.contains name) =
    (filling.byName formals, filling.collected) := by
  have kept : ∀ entry ∈ filling.byName formals, formals.openNames.contains entry.1 = true := by
    intro entry member
    obtain ⟨slot, inside, named⟩ := formals.mem_by_name filling entry member
    rw [← named]
    simpa using formals.open_by_name filling receives slot inside
  have dropped : ∀ entry ∈ filling.collected, formals.openNames.contains entry.1 = false := by
    intro entry member
    simpa using receives.foreign entry member
  rw [List.partition_eq_filter_filter, Filling.handed, List.filter_append, List.filter_append,
    List.filter_eq_self.mpr kept, List.filter_eq_nil_iff.mpr (by simpa using dropped), List.append_nil,
    List.filter_eq_nil_iff.mpr (by simpa using kept), List.filter_eq_self.mpr (by simpa using dropped),
    List.nil_append]

omit fits in
theorem by_name_untaken (compiles : formals.Compiles) : ((filling.byName formals).any fun (name, _) =>
    (formals.frontNames ++ formals.positional.map formals.key).contains name) = false := by
  rw [List.any_eq_false]
  rintro ⟨name, value⟩ member known
  obtain ⟨slot, inside, rfl⟩ := formals.mem_by_name filling _ member
  rw [← receives.called slot inside, List.contains_iff_mem] at known
  exact formals.key_apart compiles slot inside known

theorem by_name_filled (distinct : formals.names.Nodup) :
    fillSlots formals.owner (filling.byName formals) formals.keywordOnly =
      some (fillPositions formals.keywordOnly filling.named) := by
  refine fill_slots_given _ _ _ _ receives.called (List.forall₂_iff_zip.mpr ⟨fits.named.symm, ?_⟩)
  intro slot value paired
  have inside : (slot.name, value) ∈ filling.byName formals := by
    rw [Filling.byName, List.zip_map_left]
    exact List.mem_map.mpr ⟨(slot, value), paired, rfl⟩
  have keys : ((filling.byName formals).map (·.1)).Nodup := by
    rw [formals.by_name_names filling fits]
    exact (formals.keyword_names_apart distinct).1
  rw [named?, Validation.find_named (·.1) _ keys _ inside]
  rfl

theorem bind_received (compiles : formals.Compiles) (apart : (filling.collected.map (·.1)).Nodup) :
    formals.bind (filling.handed formals) = some (filling.bindings formals) := by
  have names := formals.names_distinct compiles
  have distinct := formals.named_apart filling fits receives names apart
  have parted := formals.named_parted filling receives
  have untaken := formals.by_name_untaken filling receives compiles
  have byName := formals.by_name_filled filling fits receives names
  have slots : filling.values.length = formals.positionalOnly.length + formals.positional.length := by
    simpa using fits.values
  have filled : (filling.handed formals).positional.length = filling.values.length + filling.left.length :=
    List.length_append
  have noneOnly : formals.positionalOnly.drop (filling.handed formals).positional.length = [] :=
    List.drop_eq_nil_of_le (by omega)
  have whole : formals.positional.take ((filling.handed formals).positional.length - formals.positionalOnly.length) =
      formals.positional := List.take_of_length_le (by omega)
  have noneMore : formals.positional.drop
      ((filling.handed formals).positional.length - formals.positionalOnly.length) = [] :=
    List.drop_eq_nil_of_le (by omega)
  have left : (filling.handed formals).positional.drop (formals.positionalOnly ++ formals.positional).length =
      filling.left := by
    rw [← fits.values]
    exact List.drop_left
  have noLeft : (!filling.left.isEmpty && formals.rest.isNone) = false := by
    cases rest : formals.rest with
    | none => rw [fits.left rest]; rfl
    | some name => rw [Option.isNone_some, Bool.and_false]
  have noUnknown : (!filling.collected.isEmpty && formals.keywords.isNone) = false := by
    cases more : formals.keywords with
    | none => rw [fits.collected more]; rfl
    | some name => rw [Option.isNone_some, Bool.and_false]
  unfold bind
  simp only [parted, noneOnly, noneMore, left, whole, untaken, byName, distinct, noLeft, noUnknown, not_true, if_false,
    Bool.false_eq_true, fillSlots, Option.bind_eq_bind, Option.bind_some, Option.pure_def, List.append_nil]
  rw [Filling.bindings, Filling.handed, fill_positions_left _ _ _ fits.values]

end Received

-- Only the names of the heading itself say which of the collected arguments are handed on as such.
theorem collected_again (bound : formals.bind (filling.handed formals) = some (filling.bindings formals)) :
    filling.collected = formals.foreign (filling.handed formals) := by
  obtain ⟨_, again, fitsAgain, same, collects⟩ := formals.bind_filling _ _ bound
  rw [← collects]
  cases more : formals.keywords with
  | none => rw [fits.collected more, fitsAgain.collected more]
  | some name =>
      simp only [Filling.bindings, more, Option.toList_some, List.map_cons, List.map_nil] at same
      have last := List.append_inj_right' same rfl
      simpa using last

theorem received_of_bind (plain : ∀ name ∈ formals.front, isPrivate name = false)
    (bound : formals.bind (filling.handed formals) = some (filling.bindings formals)) :
    formals.Receives filling.collected := by
  have apart := (formals.bind_filling _ _ bound).1
  have again := formals.collected_again filling fits bound
  rw [foreign, Filling.handed, List.filter_append] at again
  rw [Filling.handed, List.map_append] at apart
  -- A parameter that the heading does not know by its name would be collected, and be given twice.
  have known : (filling.byName formals).filter (fun entry => !formals.openNames.contains entry.1) = [] := by
    refine List.eq_nil_iff_forall_not_mem.mpr fun entry member => ?_
    have collected : entry ∈ filling.collected := again ▸ List.mem_append_left _ member
    exact (List.nodup_append.mp apart).2.2 _ (List.mem_map_of_mem (List.mem_filter.mp member).1) _
      (List.mem_map_of_mem collected) rfl
  rw [known, List.nil_append] at again
  constructor
  case foreign =>
    intro entry member
    simpa using (List.filter_eq_self.mp again.symm) entry member
  case called =>
    intro slot member
    have named : slot.name ∈ (filling.byName formals).map (·.1) := by
      rw [formals.by_name_names filling fits]
      exact List.mem_map_of_mem member
    obtain ⟨entry, given, same⟩ := List.mem_map.mp named
    have inside : slot.name ∈ formals.openNames := by
      simpa [same] using List.filter_eq_nil_iff.mp known entry given
    by_contra changed
    have hidden := (name_within_changed formals.owner slot.name changed).1
    have others := name_within_none_private formals.owner slot.name changed
    rcases List.mem_append.mp inside with front | placed
    · rw [plain slot.name (formals.front_of_front_names _ front)] at hidden
      cases hidden
    · obtain ⟨other, _, key⟩ := List.mem_map.mp placed
      rw [← key, Formals.key, others other.name] at hidden
      cases hidden

end Receiving

theorem fits_headed (owner : Text) (front : List Text) :
    filling.Fits (formals.headed owner front) ↔ filling.Fits formals :=
  ⟨fun fits => ⟨fits.values, fits.named, fits.left, fits.collected⟩,
    fun fits => ⟨fits.values, fits.named, fits.left, fits.collected⟩⟩

-- Under another heading the list takes the same values again exactly if that heading knows no name otherwise.
theorem taken_again_iff (owner : Text) (front : List Text) (compiles : (formals.headed owner front).Compiles)
    (plain : ∀ name ∈ front, isPrivate name = false) (fits : filling.Fits formals)
    (apart : (filling.collected.map (·.1)).Nodup) :
    (formals.headed owner front).bind (filling.handed formals) = some (filling.bindings formals) ↔
      (formals.headed owner front).Receives filling.collected := by
  have same := (formals.fits_headed filling owner front).mpr fits
  constructor
  · intro bound
    exact received_of_bind (formals.headed owner front) filling same plain bound
  · intro receives
    exact bind_received (formals.headed owner front) filling same receives compiles apart

end Formals

end Statewright.Machine
