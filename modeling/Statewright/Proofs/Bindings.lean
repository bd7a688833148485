import Statewright.Machine.Binding
import Mathlib.Data.List.Nodup

/-!
What the arguments of a call are bound to. Every parameter gets a value and nothing else is bound: a slot gets one
value, the parameters for the rest collect what no slot takes. So the names that are bound are those of the parameters,
and no name is hidden that is not one of them.
-/
set_option autoImplicit false

namespace Statewright.Machine

variable {α : Type}

theorem fill_positions_eq (slots : List (Slot α)) (values : List α) :
    fillPositions slots values = ((slots.map (·.name)).zip values).map fun pair => (pair.1, .one pair.2) := by
  rw [fillPositions, List.zip_map_left, List.map_map]
  rfl

theorem fill_positions_names (slots : List (Slot α)) (values : List α) (even : values.length = slots.length) :
    (fillPositions slots values).map (·.1) = slots.map (·.name) := by
  rw [fill_positions_eq, List.map_map]
  exact List.map_fst_zip (by simp [even])

theorem fill_positions_append (first second : List (Slot α)) (values others : List α)
    (even : values.length = first.length) :
    fillPositions (first ++ second) (values ++ others) = fillPositions first values ++ fillPositions second others := by
  rw [fillPositions, List.zip_append even.symm, List.map_append, fillPositions, fillPositions]

-- Values beyond the slots are left over.
theorem fill_positions_left (slots : List (Slot α)) (values left : List α) (even : values.length = slots.length) :
    fillPositions slots (values ++ left) = fillPositions slots values := by
  have filled := fill_positions_append slots [] values left even
  rw [List.append_nil] at filled
  rw [filled]
  simp [fillPositions]

-- Values for the first slots, and after them one for each of the others.
theorem fill_positions_drop (slots : List (Slot α)) (values others : List α)
    (even : others.length = (slots.drop values.length).length) :
    fillPositions slots values ++ fillPositions (slots.drop values.length) others =
      fillPositions slots (values.take slots.length ++ others) ∧
    (values.take slots.length ++ others).length = slots.length := by
  have counted : (values.take slots.length ++ others).length = slots.length := by
    rw [List.length_append, even, List.length_take, List.length_drop]
    omega
  refine ⟨?_, counted⟩
  by_cases enough : slots.length ≤ values.length
  · have none : slots.drop values.length = [] := List.drop_eq_nil_of_le enough
    rw [none] at even ⊢
    obtain rfl := List.length_eq_zero_iff.mp even
    have split := fill_positions_left slots (values.take slots.length) (values.drop slots.length)
      (List.length_take_of_le enough)
    rw [List.take_append_drop] at split
    rw [split, List.append_nil]
    simp [fillPositions]
  · have short : values.length ≤ slots.length := by omega
    have parts := fill_positions_append (slots.take values.length) (slots.drop values.length) values others
      (List.length_take_of_le short).symm
    have first := fill_positions_append (slots.take values.length) (slots.drop values.length) values []
      (List.length_take_of_le short).symm
    rw [List.take_append_drop] at parts first
    rw [List.take_of_length_le short, parts]
    rw [List.append_nil] at first
    rw [first]
    simp [fillPositions]

theorem fill_slots_values (owner : Text) (named : List (Text × α)) (slots : List (Slot α))
    (filled : List (Text × Bound α)) (bound : fillSlots owner named slots = some filled) :
    ∃ values : List α, values.length = slots.length ∧ filled = fillPositions slots values := by
  induction slots generalizing filled with
  | nil =>
      obtain rfl := Option.some.inj bound
      exact ⟨[], rfl, rfl⟩
  | cons slot rest ih =>
      unfold fillSlots at bound
      split at bound
      · rename_i value _
        obtain ⟨others, remaining, rfl⟩ := Option.map_eq_some_iff.mp bound
        obtain ⟨values, even, rfl⟩ := ih others remaining
        exact ⟨value :: values, by simpa using even, rfl⟩
      · cases bound

-- Values for all the parameters of a function: for those that a position may fill, for the one that collects the
-- positions left over, for those that only a name fills, and for the one that collects the names left over.
structure Filling (α : Type) where
  values : List α
  left : List α
  named : List α
  collected : List (Text × α)

namespace Filling

def bindings (formals : Formals α) (filling : Filling α) : List (Text × Bound α) :=
  fillPositions (formals.positionalOnly ++ formals.positional) filling.values ++
    formals.rest.toList.map (fun name => (name, .rest filling.left)) ++
    fillPositions formals.keywordOnly filling.named ++
    formals.keywords.toList.map fun name => (name, .keywords filling.collected)

structure Fits (formals : Formals α) (filling : Filling α) : Prop where
  values : filling.values.length = (formals.positionalOnly ++ formals.positional).length
  named : filling.named.length = formals.keywordOnly.length
  left : formals.rest = none → filling.left = []
  collected : formals.keywords = none → filling.collected = []

end Filling

namespace Formals

variable (formals : Formals α) (arguments : Arguments α) (bindings : List (Text × Bound α))

def names : List Text :=
  (formals.positionalOnly ++ formals.positional ++ formals.keywordOnly).map (·.name) ++ formals.rest.toList ++
    formals.keywords.toList

-- The arguments given by a name that the heading has no parameter for.
def foreign : List (Text × α) := arguments.named.filter fun entry => !formals.openNames.contains entry.1

theorem bind_filling (bound : formals.bind arguments = some bindings) :
    (arguments.named.map (·.1)).Nodup ∧ ∃ filling : Filling α, filling.Fits formals ∧
      bindings = filling.bindings formals ∧ filling.collected = formals.foreign arguments := by
  unfold bind at bound
  extract_lets slots filled left taken rest at bound
  split at bound
  rename_i known unknown parted
  simp only [Option.bind_eq_bind, Option.bind_none, Option.pure_def, Option.ite_none_left_eq_some,
    Option.bind_eq_some_iff, Option.some.injEq, not_not] at bound
  obtain ⟨apart, noneLeft, noneUnknown, _, early, earlyBound, late, lateBound, byName, byNameBound, rfl⟩ := bound
  obtain ⟨earlyValues, earlyEven, rfl⟩ := fill_slots_values _ _ _ _ earlyBound
  obtain ⟨lateValues, lateEven, rfl⟩ := fill_slots_values _ _ _ _ lateBound
  obtain ⟨named, namedEven, rfl⟩ := fill_slots_values _ _ _ _ byNameBound
  have unknowns : unknown = formals.foreign arguments := by
    rw [List.partition_eq_filter_filter] at parted
    exact (Prod.mk.inj parted).2.symm
  have behind : slots.drop filled = formals.positionalOnly.drop filled ++
      formals.positional.drop (filled - formals.positionalOnly.length) := List.drop_append
  obtain ⟨whole, even⟩ := fill_positions_drop slots arguments.positional (earlyValues ++ lateValues) (by
    rw [List.length_append, earlyEven, lateEven, ← List.length_append, ← behind])
  refine ⟨apart, ⟨_, left, named, unknown⟩, ⟨even, namedEven, ?_, ?_⟩, ?_, unknowns⟩
  case refine_1 =>
    intro absent
    by_contra remains
    simp [remains, absent] at noneLeft
  case refine_2 =>
    intro absent
    by_contra remains
    simp [remains, absent] at noneUnknown
  case refine_3 =>
    rw [Filling.bindings, ← whole]
    change _ = fillPositions slots arguments.positional ++ fillPositions (slots.drop filled) _ ++ _ ++ _ ++ _
    rw [behind, fill_positions_append _ _ _ _ earlyEven]
    simp only [rest, List.append_assoc]

theorem bindings_names (filling : Filling α) (fits : filling.Fits formals) :
    ((filling.bindings formals).map (·.1)).Perm formals.names := by
  simp only [Filling.bindings, names, List.map_append, fill_positions_names _ _ fits.values,
    fill_positions_names _ _ fits.named, List.map_map, Function.comp_def, List.map_id', List.append_assoc]
  refine List.Perm.append_left _ (List.Perm.append_left _ ?_)
  rw [← List.append_assoc, ← List.append_assoc]
  exact List.Perm.append_right _ List.perm_append_comm

-- All the parameters are bound, and nothing else is.
theorem bind_names (bound : formals.bind arguments = some bindings) : (bindings.map (·.1)).Perm formals.names := by
  obtain ⟨_, filling, fits, rfl, _⟩ := bind_filling formals arguments bindings bound
  exact bindings_names formals filling fits

end Formals

end Statewright.Machine
