import Statewright.Code.Lexer
import Mathlib.Data.List.TakeWhile

/-!
Tokens are told apart in as many steps as it takes. A step uses a character or turns from the start of a line to its
middle, so the tokens of a text are the same for every bound on the steps that is not too small.
-/
set_option autoImplicit false

namespace Statewright.Code

/-! What is left of a text that begins with a numeral, a string or a mark is shorter. -/

namespace Numeral

theorem digits_left (isDigit : Char → Bool) (text more rest : Text) (read : digits isDigit text = some (more, rest)) :
    rest.length ≤ text.length := by
  fun_induction digits isDigit text generalizing more with
  | case1 => simp_all
  | case2 => cases read
  | case3 c text digit ih =>
      obtain ⟨⟨_, after⟩, left, same⟩ := Option.map_eq_some_iff.mp read
      obtain ⟨_, rfl⟩ := Prod.mk.inj same
      have shorter := ih _ left
      simp only [List.length_cons]
      omega
  | case4 => cases read
  | case5 c text _ _ digit ih =>
      obtain ⟨⟨_, after⟩, left, same⟩ := Option.map_eq_some_iff.mp read
      obtain ⟨_, rfl⟩ := Prod.mk.inj same
      have shorter := ih _ left
      simp only [List.length_cons]
      omega
  | case6 => simp_all

theorem stop_at_left (value result : Number) (text rest : Text) (read : stopAt value text = some (result, rest)) :
    rest = text := by
  unfold stopAt at read
  split at read
  · cases read
    rfl
  · cases read

theorem after_exponent_left (result : Number) (text rest : Text) (read : afterExponent text = some (result, rest)) :
    rest.length ≤ text.length := by
  unfold afterExponent at read
  split at read <;> rw [stop_at_left _ _ _ _ read] <;> simp

-- The digits of an exponent, and what may follow them.
theorem exponent_digits_left (result : Number) (text rest : Text)
    (read : ((digits Char.isDigit text).bind fun found => afterExponent found.2) = some (result, rest)) :
    rest.length ≤ text.length := by
  obtain ⟨⟨more, after⟩, found, ended⟩ := Option.bind_eq_some_iff.mp read
  have first := digits_left _ _ _ _ found
  have second : rest.length ≤ after.length := after_exponent_left _ _ _ ended
  omega

theorem exponent_left (value result : Number) (letter : Char) (text rest : Text)
    (read : exponent value letter text = some (result, rest)) : rest.length ≤ text.length + 1 := by
  unfold exponent at read
  split at read
  · split at read
    · have left := exponent_digits_left _ _ _ read
      simp only [List.length_cons]
      omega
    · cases read
  · split at read
    · have left := exponent_digits_left _ _ _ read
      simp only [List.length_cons]
      omega
    · cases read
  · cases read
  · cases read
  · split at read
    · have left := exponent_digits_left _ _ _ read
      simp only [List.length_cons]
      omega
    · rw [stop_at_left _ _ _ _ read]
      simp
  · rw [stop_at_left _ _ _ _ read]
    simp

theorem after_fraction_left (result : Number) (text rest : Text) (read : afterFraction text = some (result, rest)) :
    rest.length ≤ text.length := by
  unfold afterFraction at read
  split at read
  · exact exponent_left _ _ _ _ _ read
  · exact exponent_left _ _ _ _ _ read
  · exact after_exponent_left _ _ _ read

theorem fraction_left (result : Number) (text rest : Text) (read : fraction text = some (result, rest)) :
    rest.length ≤ text.length := by
  unfold fraction at read
  split at read
  · split at read
    · obtain ⟨⟨more, after⟩, found, ended⟩ := Option.bind_eq_some_iff.mp read
      have first := digits_left _ _ _ _ found
      have second : rest.length ≤ after.length := after_fraction_left _ _ _ ended
      simp only [List.length_cons]
      omega
    · exact after_fraction_left _ _ _ read
  · exact after_fraction_left _ _ _ read

theorem after_integer_left (value : Nat) (plain : Bool) (result : Number) (text rest : Text)
    (read : afterInteger value plain text = some (result, rest)) : rest.length ≤ text.length := by
  unfold afterInteger at read
  split at read
  · have left := fraction_left _ _ _ read
    simp only [List.length_cons]
    omega
  · exact exponent_left _ _ _ _ _ read
  · exact exponent_left _ _ _ _ _ read
  · rw [stop_at_left _ _ _ _ read]
    simp
  · rw [stop_at_left _ _ _ _ read]
    simp
  · split at read
    · rw [stop_at_left _ _ _ _ read]
    · cases read

theorem of_base_left (base : Nat) (isDigit : Char → Bool) (result : Number) (text rest : Text)
    (read : ofBase base isDigit text = some (result, rest)) : rest.length ≤ text.length := by
  unfold ofBase at read
  extract_lets start at read
  have shorter : start.length ≤ text.length := by
    unfold start
    split <;> simp
  clear_value start
  split at read
  · cases read
  · rename_i c text
    rw [List.length_cons] at shorter
    split at read
    · obtain ⟨⟨more, after⟩, found, ended⟩ := Option.bind_eq_some_iff.mp read
      have left := digits_left _ _ _ _ found
      rw [stop_at_left _ _ _ _ ended]
      omega
    · cases read

-- A digit is used.
theorem digits_used (c : Char) (digit : c.isDigit = true) (text more rest : Text)
    (read : digits Char.isDigit (c :: text) = some (more, rest)) : rest.length ≤ text.length := by
  have other : c ≠ '_' := by
    rintro rfl
    cases digit
  unfold digits at read
  split at read
  · rename_i same
    cases same
  · rename_i same
    exact absurd (List.cons.inj same).1 other
  · rename_i same
    exact absurd (List.cons.inj same).1 other
  · rename_i same
    obtain ⟨rfl, rfl⟩ := List.cons.inj same
    rw [if_pos digit] at read
    obtain ⟨⟨_, after⟩, left, same⟩ := Option.map_eq_some_iff.mp read
    obtain ⟨_, rfl⟩ := Prod.mk.inj same
    exact digits_left _ _ _ _ left

theorem read_left (c : Char) (digit : c.isDigit = true) (result : Number) (text rest : Text)
    (found : read (c :: text) = some (result, rest)) : rest.length ≤ text.length := by
  unfold read at found
  split at found
  iterate 6
    rename_i same
    obtain ⟨rfl, rfl⟩ := List.cons.inj same
    have left := of_base_left _ _ _ _ _ found
    simp only [List.length_cons]
    omega
  · obtain ⟨⟨all, after⟩, digitsRead, ended⟩ := Option.bind_eq_some_iff.mp found
    have first := digits_used c digit text _ _ digitsRead
    have second : rest.length ≤ after.length := after_integer_left _ _ _ _ _ ended
    omega

end Numeral

namespace Lexer

theorem measure_left (margin next : Margin) (text rest : Text) (measured : measure margin text = some (next, rest)) :
    rest.length ≤ text.length := by
  fun_induction measure margin text with
  | case1 margin text ih => exact (ih measured).trans (Nat.le_succ _)
  | case2 margin text ih => exact (ih measured).trans (Nat.le_succ _)
  | case3 margin text ih => exact (ih measured).trans (Nat.le_succ _)
  | case4 margin c text ih => exact (ih measured).trans (Nat.le_add_right _ 2)
  | case5 => cases measured
  | case6 =>
      cases measured
      exact Nat.le_refl _

theorem string_body_left (quote : Char) (long : Bool) (text body rest : Text) (ends : Nat)
    (read : stringBody quote long text = some (body, ends, rest)) : rest.length ≤ text.length := by
  fun_induction stringBody quote long text generalizing body ends with
  | case1 => cases read
  | case2 => cases read
  | case3 c text ih =>
      obtain ⟨⟨_, _, _⟩, left, same⟩ := Option.map_eq_some_iff.mp read
      cases same
      exact (ih _ _ left).trans (Nat.le_add_right _ 2)
  | case4 c text _ _ _ a b d after same =>
      cases read
      rw [same]
      simp only [List.length_cons]
      omega
  | case5 c text _ _ _ _ _ _ _ _ _ ih =>
      obtain ⟨⟨_, _, _⟩, left, same⟩ := Option.map_eq_some_iff.mp read
      cases same
      exact (ih _ _ left).trans (Nat.le_succ _)
  | case6 => cases read
  | case7 =>
      cases read
      exact Nat.le_succ _
  | case8 => cases read
  | case9 c text _ _ _ _ _ ih =>
      obtain ⟨⟨_, _, _⟩, left, same⟩ := Option.map_eq_some_iff.mp read
      cases same
      exact (ih _ _ left).trans (Nat.le_succ _)

theorem string_at_left (quote : Char) (text body rest : Text) (ends : Nat)
    (read : stringAt quote text = some (body, ends, rest)) : rest.length ≤ text.length := by
  unfold stringAt at read
  split at read
  · split at read
    · have left := string_body_left _ _ _ _ _ _ read
      simp only [List.length_cons]
      omega
    · exact string_body_left _ _ _ _ _ _ read
  · exact string_body_left _ _ _ _ _ _ read

theorem mark_at_left (text rest : Text) (mark : Mark) (read : markAt text = some (mark, rest)) :
    rest.length < text.length := by
  unfold markAt at read
  split at read
  all_goals
    cases read
  all_goals
    simp only [List.length_cons]
    omega

-- What there is to do at a position: the start of a line counts for less than a character.
def work (position : Position) : Nat := 2 * position.text.length + if position.fresh then 1 else 0

def LeavesLess (bound : Nat) (step : Step) : Prop := ∀ next, step.2 = some next → work next < bound

theorem stop_leaves (bound : Nat) (tokens : List Token) : LeavesLess bound (State.stop tokens) := nofun

theorem go_on_leaves (bound : Nat) (state : State) (rest : Text) (tokens : List Token)
    (room : 2 * rest.length < bound) : LeavesLess bound (state.goOn rest tokens) := by
  rintro next same
  cases same
  exact room

theorem next_line_leaves (bound : Nat) (state : State) (rest : Text) (tokens : List Token)
    (room : 2 * rest.length + 1 < bound) : LeavesLess bound (state.nextLine rest tokens) := by
  rintro next same
  cases same
  exact room

theorem line_start_leaves (state : State) (text : Text) : LeavesLess (2 * text.length + 1) (lineStart state text) := by
  unfold lineStart
  split
  · exact stop_leaves _ _
  · rename_i margin rest measured
    have left := measure_left _ _ _ _ measured
    extract_lets state
    split
    · have shorter := List.length_dropWhile_le (· != '\n') rest
      unfold skipLine
      split
      · rename_i same
        rw [same, List.length_cons] at shorter
        exact next_line_leaves _ _ _ _ (by omega)
      · exact stop_leaves _ _
    · split
      · exact go_on_leaves _ _ _ _ (by omega)
      · unfold nest
        extract_lets wide narrow
        split
        · exact go_on_leaves _ _ _ _ (by omega)
        · exact go_on_leaves _ _ _ _ (by omega)
        · exact go_on_leaves _ _ _ _ (by omega)
        · exact stop_leaves _ _

theorem number_leaves (state : State) (c : Char) (rest : Text) (starts : startsNumber c rest = true) :
    LeavesLess (2 * (rest.length + 1)) (number state c rest) := by
  have left : ∀ value after,
      (if c = '.' then Numeral.fraction rest else Numeral.read (c :: rest)) = some (value, after) →
      after.length ≤ rest.length := by
    intro value after found
    split at found
    · exact Numeral.fraction_left _ _ _ found
    · rename_i point
      have digit : c.isDigit = true := by simpa [startsNumber, point] using starts
      exact Numeral.read_left c digit _ _ _ found
  unfold number
  split
  · rename_i value after found
    have shorter := left value after found
    exact go_on_leaves _ _ _ _ (by omega)
  · exact stop_leaves _ _

theorem mark_leaves (state : State) (c : Char) (rest : Text) :
    LeavesLess (2 * (rest.length + 1)) (mark state c rest) := by
  unfold mark
  split
  · unfold openBracket
    split
    · exact stop_leaves _ _
    · exact go_on_leaves _ _ _ _ (by omega)
  · unfold closeBracket
    split
    · split
      · exact go_on_leaves _ _ _ _ (by omega)
      · exact stop_leaves _ _
    · exact stop_leaves _ _
  · split
    · rename_i found
      have shorter := mark_at_left _ _ _ found
      rw [List.length_cons] at shorter
      exact go_on_leaves _ _ _ _ (by omega)
    · exact stop_leaves _ _

theorem quote_stands (text : Text) (quote : Char) (found : quote? text = some quote) : 0 < text.length := by
  cases text with
  | nil => cases found
  | cons c rest => exact Nat.succ_pos _

theorem word_or_mark_leaves (state : State) (c : Char) (rest : Text) :
    LeavesLess (2 * (rest.length + 1)) (wordOrMark state c rest) := by
  unfold wordOrMark
  extract_lets word after
  have shorter : after.length ≤ rest.length + 1 - word.length := by simp [after]
  split
  · rename_i quoted _
    have stands := quote_stands after _ quoted
    have used : (after.drop 1).length < rest.length + 1 := by
      rw [List.length_drop]
      omega
    unfold string
    split
    · rename_i found
      have left := string_at_left _ _ _ _ _ found
      exact go_on_leaves _ _ _ _ (by omega)
    · exact stop_leaves _ _
  · split
    · exact mark_leaves state c rest
    · rename_i named
      have some_ : 0 < word.length := List.length_pos_iff.mpr (by simpa using named)
      unfold name
      split
      · exact go_on_leaves _ _ _ _ (by omega)
      · split
        · exact go_on_leaves _ _ _ _ (by omega)
        · exact stop_leaves _ _

theorem in_line_leaves (state : State) (text : Text) : LeavesLess (2 * text.length) (inLine state text) := by
  have spaced := List.length_dropWhile_le isSpace text
  unfold inLine
  split
  · exact stop_leaves _ _
  · rename_i rest same
    rw [same, List.length_cons] at spaced
    have shorter := List.length_dropWhile_le (· != '\n') rest
    split
    · exact stop_leaves _ _
    · exact go_on_leaves _ _ _ _ (by omega)
  · rename_i same
    rw [same, List.length_cons] at spaced
    exact next_line_leaves _ _ _ _ (by omega)
  · rename_i same
    rw [same, List.length_cons, List.length_cons] at spaced
    exact go_on_leaves _ _ _ _ (by omega)
  · exact stop_leaves _ _
  · exact stop_leaves _ _
  · rename_i c rest _ _ _ _ _ same
    rw [same, List.length_cons] at spaced
    have less : LeavesLess (2 * (rest.length + 1))
        (if startsNumber c rest then number state c rest else wordOrMark state c rest) := by
      split
      · rename_i starts
        exact number_leaves state c rest starts
      · exact word_or_mark_leaves state c rest
    exact fun next found => (less next found).trans_le (by omega)

theorem step_leaves (position : Position) : LeavesLess (work position) (step position) := by
  unfold step work
  cases position.fresh with
  | true => exact line_start_leaves position.state position.text
  | false => exact in_line_leaves position.state position.text

-- Any bound on the steps will do that is not too small.
theorem scan_enough (position : Position) (fuel other : Nat) (enough : work position < fuel)
    (also : work position < other) : scan fuel position = scan other position := by
  induction fuel generalizing position other with
  | zero => omega
  | succ fuel ih =>
      cases other with
      | zero => omega
      | succ other =>
          have less := step_leaves position
          unfold scan
          split
          · rename_i tokens next stepped
            have left := less next (by rw [stepped])
            rw [ih next other (by omega) (by omega)]
          · rfl

end Lexer

end Statewright.Code
