import Statewright.Proofs.DeeperText

/-!
Margins of lines that are moved to the right. A margin is measured in two ways, and both keep the order that margins have
among each other, so that moved lines nest in the same way inside one more block.
-/
set_option autoImplicit false

namespace Statewright.Code.Lexer

open Text.Block (isMargin)

/-! Margins. -/

-- The columns of a margin that is moved. Tabs take up what is over before the next stop.
def shifted (width : Nat) (column : Nat × Nat) : Nat × Nat :=
  (column.1 + if column.1 = column.2 then width else width - width % 8, column.2 + width)

-- The two columns of a margin tell whether it has tabs, unless all margins are moved by tab stops.
def Told (width : Nat) (column : Nat × Nat) : Prop := width % 8 = 0 ∨ column.1 = column.2 ∨ column.2 + 7 ≤ column.1

-- The columns of a margin with tab stops, from a column on.
def wideFrom : Nat → Text → Nat
  | wide, [] => wide
  | wide, c :: rest => wideFrom (if c = '\t' then (wide / 8 + 1) * 8 else wide + 1) rest

theorem wide_grows (margin : Text) (wide : Nat) : wide + margin.length ≤ wideFrom wide margin := by
  induction margin generalizing wide with
  | nil => exact Nat.le_refl _
  | cons c margin ih =>
      have rest := ih (if c = '\t' then (wide / 8 + 1) * 8 else wide + 1)
      rw [List.length_cons, wideFrom]
      by_cases tab : c = '\t'
      · simp only [tab, if_true] at rest ⊢
        omega
      · simp only [tab, if_false] at rest ⊢
        omega

theorem wide_append (first rest : Text) (wide : Nat) : wideFrom wide (first ++ rest) = wideFrom (wideFrom wide first) rest := by
  induction first generalizing wide with
  | nil => rfl
  | cons c first ih => simp only [List.cons_append, wideFrom, ih]

theorem wide_plain (margin : Text) (plain : '\t' ∉ margin) (wide : Nat) : wideFrom wide margin = wide + margin.length := by
  induction margin generalizing wide with
  | nil => rfl
  | cons c margin ih =>
      have first : c ≠ '\t' := fun same => plain (same ▸ List.mem_cons_self)
      rw [wideFrom, if_neg first, ih fun later => plain (List.mem_cons_of_mem _ later), List.length_cons]
      omega

theorem wide_spaces (width wide : Nat) (margin : Text) :
    wideFrom wide (Text.spaces width ++ margin) = wideFrom (wide + width) margin := by
  have plain : '\t' ∉ Text.spaces width := by
    intro member
    cases List.eq_of_mem_replicate member
  rw [wide_append, wide_plain _ plain, spaces_length]

theorem wide_tabs (count wide : Nat) : wideFrom wide (List.replicate (count + 1) '\t') = wide / 8 * 8 + 8 * (count + 1) := by
  induction count generalizing wide with
  | zero => simp [wideFrom, Nat.add_mul]
  | succ count ih =>
      rw [List.replicate_succ, wideFrom, if_pos rfl, ih]
      omega

theorem wide_stops (width : Nat) (stops : width % 8 = 0) (margin : Text) (wide : Nat) :
    wideFrom (wide + width) margin = wideFrom wide margin + width := by
  induction margin generalizing wide with
  | nil => rfl
  | cons c margin ih =>
      rw [wideFrom, wideFrom, ← ih]
      congr 1
      by_cases tab : c = '\t'
      · rw [if_pos tab, if_pos tab]
        omega
      · rw [if_neg tab, if_neg tab]
        omega

theorem margin_shifted (width : Nat) (margin : Text) (even : steady width margin = true) :
    Told width (wideFrom 0 margin, margin.length) ∧
      (wideFrom width margin, margin.length + width) = shifted width (wideFrom 0 margin, margin.length) := by
  by_cases stops : width % 8 = 0
  · have moved := wide_stops width stops margin 0
    rw [Nat.zero_add] at moved
    exact ⟨.inl stops, by simp [shifted, stops, moved]⟩
  · have plain : '\t' ∉ margin.dropWhile (· = '\t') := by simpa [steady, stops] using even
    have tabs : margin.takeWhile (· = '\t') = List.replicate (margin.takeWhile (· = '\t')).length '\t' :=
      List.eq_replicate_of_mem fun c member => by simpa using List.mem_takeWhile_imp member
    have parts := List.takeWhile_append_dropWhile (p := (· = '\t')) (l := margin)
    rw [tabs] at parts
    generalize (margin.takeWhile (· = '\t')).length = count at parts
    generalize margin.dropWhile (· = '\t') = rest at parts plain
    subst parts
    cases count with
    | zero =>
        simp only [List.replicate_zero, List.nil_append, wide_plain rest plain, Nat.zero_add]
        exact ⟨.inr (.inl rfl), by simp [shifted, Nat.add_comm]⟩
    | succ count =>
        have length : (List.replicate (count + 1) '\t' ++ rest).length = count + 1 + rest.length := by simp
        have apart : ¬ 0 / 8 * 8 + 8 * (count + 1) + rest.length = count + 1 + rest.length := by omega
        simp only [wide_append, wide_tabs, wide_plain rest plain, length, shifted, if_neg apart, Told, Prod.mk.injEq,
          and_true]
        omega

theorem measure_margin (margin : Text) (only : margin.all isMargin = true) (rest : Text)
    (ends : ∀ start : Margin, measure start rest = some (start, rest)) (start : Margin) :
    measure start (margin ++ rest) =
      some ({ start with wide := wideFrom start.wide margin, narrow := start.narrow + margin.length }, rest) := by
  induction margin generalizing start with
  | nil => exact ends start
  | cons c margin ih =>
      simp only [List.all_cons, Bool.and_eq_true] at only
      rcases (by simpa [isMargin] using only.1 : c = ' ' ∨ c = '\t') with rfl | rfl
      · rw [List.cons_append, measure, ih only.2]
        simp [wideFrom, Nat.add_assoc, Nat.add_comm 1]
      · rw [List.cons_append, measure, ih only.2]
        simp [wideFrom, Nat.add_assoc, Nat.add_comm 1]

theorem measure_newline (rest : Text) (start : Margin) : measure start ('\n' :: rest) = some (start, '\n' :: rest) := by
  rw [measure] <;> simp

theorem measure_solid (c : Char) (starts : solid c = true) (rest : Text) (start : Margin) :
    measure start (c :: rest) = some (start, c :: rest) := by
  have apart : c ≠ ' ' ∧ c ≠ '\t' ∧ c ≠ '\x0c' ∧ c ≠ '\\' := by
    refine ⟨?_, ?_, ?_, ?_⟩ <;>
      rintro rfl <;> cases starts
  rw [measure] <;> simp [apart]

/-! Nesting. -/

-- Each open block stands within the next one, and the last within the text.
structure Nested (width : Nat) (columns : List (Nat × Nat)) : Prop where
  told : ∀ column ∈ columns, Told width column
  within : (columns ++ [(0, 0)]).Pairwise fun (inner outer : Nat × Nat) => outer.1 < inner.1 ∧ outer.2 < inner.2

-- The columns of the open blocks inside one more block.
def inside (width : Nat) (columns : List (Nat × Nat)) : List (Nat × Nat) := (columns ++ [(0, 0)]).map (shifted width)

theorem inside_head (width : Nat) (columns : List (Nat × Nat)) :
    (inside width columns).headD (0, 0) = shifted width (columns.headD (0, 0)) := by
  cases columns <;> rfl

theorem head_mem (columns : List (Nat × Nat)) : columns.headD (0, 0) ∈ columns ++ [(0, 0)] := by
  cases columns <;> simp

theorem nested_nil (width : Nat) : Nested width [] := ⟨nofun, List.pairwise_singleton _ _⟩

theorem nested_positive {width : Nat} {columns : List (Nat × Nat)} (nested : Nested width columns) :
    ∀ column ∈ columns, 0 < column.1 :=
  fun column member => ((List.pairwise_append.mp nested.within).2.2 column member (0, 0) (List.mem_singleton_self _)).1

theorem nested_cons {width : Nat} {line : Nat × Nat} {columns : List (Nat × Nat)} (nested : Nested width columns)
    (told : Told width line) (below : (columns.headD (0, 0)).1 < line.1 ∧ (columns.headD (0, 0)).2 < line.2) :
    Nested width (line :: columns) := by
  refine ⟨List.forall_mem_cons.mpr ⟨told, nested.told⟩, List.pairwise_cons.mpr ⟨?_, nested.within⟩⟩
  intro outer member
  cases columns with
  | nil =>
      obtain rfl := List.mem_singleton.mp member
      exact below
  | cons column further =>
      rcases List.mem_cons.mp member with rfl | later
      · exact below
      · have next := (List.pairwise_cons.mp nested.within).1 outer later
        exact ⟨next.1.trans below.1, next.2.trans below.2⟩

theorem nested_suffix {width : Nat} {columns left : List (Nat × Nat)} (nested : Nested width columns)
    (suffix : left <:+ columns) : Nested width left :=
  ⟨fun column member => nested.told column (suffix.subset member),
    nested.within.sublist (suffix.sublist.append_right [(0, 0)])⟩

-- What is further to the right in both columns stays so.
theorem shifted_lt {width : Nat} {outer inner : Nat × Nat} (told : Told width inner) (wide : outer.1 < inner.1)
    (narrow : outer.2 < inner.2) : (shifted width outer).1 < (shifted width inner).1 := by
  unfold Told at told
  simp only [shifted]
  split <;> split <;> omega

theorem unwind_left (wide : Nat) (columns : List (Nat × Nat)) :
    (unwind wide columns).2 <:+ columns ∧ (unwind wide columns).1 + (unwind wide columns).2.length = columns.length := by
  induction columns with
  | nil => exact ⟨List.suffix_refl _, rfl⟩
  | cons column outer ih =>
      by_cases ended : wide < column.1
      · simp only [unwind, ended, if_true, List.length_cons]
        exact ⟨ih.1.trans (List.suffix_cons column outer), by omega⟩
      · simp only [unwind, ended, if_false]
        exact ⟨List.suffix_refl _, by simp⟩

-- A line that ends a block and comes to stand in line with another one stands before that block in both columns.
theorem landed_below {width : Nat} {line column : Nat × Nat} {outer : List (Nat × Nat)}
    (nested : Nested width (column :: outer)) (ended : line.1 < column.1)
    (lands : (unwind line.1 (column :: outer)).2.headD (0, 0) = line) : line.2 < column.2 := by
  simp only [unwind, ended, if_true] at lands
  have left := (unwind_left line.1 outer).1.sublist.append_right [(0, 0)]
  have among : line ∈ outer ++ [(0, 0)] := lands ▸ left.subset (head_mem _)
  exact ((List.pairwise_cons.mp nested.within).1 line among).2

-- Such a line ends the same blocks where both stand deeper.
theorem unwind_inside {width : Nat} {line : Nat × Nat} {columns : List (Nat × Nat)} (nested : Nested width columns)
    (lands : (unwind line.1 columns).2.headD (0, 0) = line) :
    unwind (shifted width line).1 (inside width columns) =
      ((unwind line.1 columns).1, inside width (unwind line.1 columns).2) := by
  induction columns with
  | nil =>
      obtain rfl : (0, 0) = line := lands
      simp [inside, unwind]
  | cons column outer ih =>
      by_cases ended : line.1 < column.1
      · have also := shifted_lt (nested.told column List.mem_cons_self) ended (landed_below nested ended lands)
        simp only [unwind, ended, if_true] at lands ⊢
        have next := ih (nested_suffix nested (List.suffix_cons column outer)) lands
        simp only [inside, List.cons_append, List.map_cons, unwind, also, if_true] at next ⊢
        rw [next]
      · simp only [unwind, ended, if_false] at lands ⊢
        obtain rfl : column = line := lands
        simp [inside, unwind]

-- A line nests among lines that stand deeper as it does among the others.
theorem nesting_inside {width : Nat} {line : Nat × Nat} {columns : List (Nat × Nat)} (nested : Nested width columns)
    (told : Told width line) :
    match nesting line.1 line.2 columns with
    | .same => nesting (shifted width line).1 (shifted width line).2 (inside width columns) = .same
    | .deeper deep => columns.length + 2 < maxBlocks →
        nesting (shifted width line).1 (shifted width line).2 (inside width columns) = .deeper (inside width deep)
    | .shallower ended left =>
        nesting (shifted width line).1 (shifted width line).2 (inside width columns) =
          .shallower ended (inside width left)
    | .wrong => True := by
  have head := inside_head width columns
  have longer : (inside width columns).length = columns.length + 1 := by simp [inside]
  generalize first : columns.headD (0, 0) = column at head
  by_cases equal : line.1 = column.1
  · by_cases also : line.2 = column.2
    · obtain rfl : line = column := Prod.ext equal also
      simp only [nesting, first, head, eq_self, if_true]
    · simp only [nesting, first, equal, also, if_true, if_false]
  · by_cases below : column.1 < line.1
    · by_cases stops : (maxBlocks ≤ columns.length + 1 || line.2 ≤ column.2) = true
      · simp only [nesting, first, equal, below, stops, if_true, if_false]
      · have room : ¬ maxBlocks ≤ columns.length + 1 ∧ ¬ line.2 ≤ column.2 := by simpa using stops
        simp only [nesting, first, equal, below, if_true, if_false]
        rw [if_neg stops]
        intro enough
        have further := shifted_lt told below (by omega)
        have goes : (maxBlocks ≤ columns.length + 1 + 1 || (shifted width line).2 ≤ (shifted width column).2) = false := by
          simp [shifted]
          omega
        have unequal : ¬ (shifted width line).1 = (shifted width column).1 := by omega
        simp only [head, longer, unequal, further, goes, if_true, if_false, Bool.false_eq_true]
        rfl
    · simp only [nesting, first, equal, below, if_false]
      by_cases lands : (unwind line.1 columns).2.headD (0, 0) = line
      · have unwound := unwind_inside nested lands
        have passed : (shifted width line).1 < (shifted width column).1 := by
          cases columns with
          | nil =>
              obtain rfl : (0, 0) = column := first
              exact absurd (Nat.eq_zero_of_not_pos below) equal
          | cons top rest =>
              obtain rfl : top = column := first
              have ended : line.1 < top.1 := by omega
              exact shifted_lt (nested.told top List.mem_cons_self) ended (landed_below nested ended lands)
        have unequal : ¬ (shifted width line).1 = (shifted width column).1 := by omega
        have above : ¬ (shifted width column).1 < (shifted width line).1 := by omega
        have also : (inside width (unwind line.1 columns).2).headD (0, 0) = shifted width line := by
          rw [inside_head, lands]
        simp only [head, unequal, above, unwound, lands, also, Prod.eta, eq_self, if_true, if_false]
      · simp only [lands, Prod.eta, if_false]

theorem nesting_deeper (wide narrow : Nat) (columns deep : List (Nat × Nat))
    (nested : nesting wide narrow columns = .deeper deep) :
    deep = (wide, narrow) :: columns ∧ (columns.headD (0, 0)).1 < wide ∧ (columns.headD (0, 0)).2 < narrow := by
  unfold nesting at nested
  split at nested
  rename_i column narrowColumn first
  repeat' split at nested
  all_goals cases nested
  rename_i below stops
  have room : ¬ maxBlocks ≤ columns.length + 1 ∧ ¬ narrow ≤ narrowColumn := by simpa using stops
  exact ⟨rfl, by simp_all⟩

theorem nesting_shallower (wide narrow ended : Nat) (columns left : List (Nat × Nat))
    (nested : nesting wide narrow columns = .shallower ended left) :
    left <:+ columns ∧ ended + left.length = columns.length := by
  unfold nesting at nested
  split at nested
  rename_i column narrowColumn _
  repeat' split at nested
  all_goals cases nested
  have unwound := unwind_left wide columns
  simp_all

end Statewright.Code.Lexer
