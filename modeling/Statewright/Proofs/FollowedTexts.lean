import Statewright.Proofs.DeeperText

/-!
Numerals, strings and marks at the front of a text, where a further text follows. What they take stays the same if the
further text begins with a character that goes on with none of them.
-/
set_option autoImplicit false

namespace Statewright.Code

-- The characters that code written behind an expression begins with.
def setsOff (c : Char) : Bool := c = ' ' || c = '\n' || c = ',' || c = ')'

def SetOff (tail : Text) : Prop := ∀ c ∈ tail.head?, setsOff c = true

theorem setOff_nil : SetOff [] := by
  intro c member
  cases member

theorem setOff_cons (c : Char) (rest : Text) (off : setsOff c = true) : SetOff (c :: rest) := by
  intro d member
  cases member
  exact off

theorem setsOff_all (holds : Char → Prop) (space : holds ' ') (line : holds '\n') (comma : holds ',') (close : holds ')')
    (c : Char) (off : setsOff c = true) : holds c := by
  simp only [setsOff, Bool.or_eq_true, decide_eq_true_eq] at off
  rcases off with ((rfl | rfl) | rfl) | rfl
  · exact space
  · exact line
  · exact comma
  · exact close

-- What the reader takes from a text it takes where more follows.
def ReadsOn {α : Type} (tail : Text) (read : Text → Option (α × Text)) : Prop :=
  ∀ text value rest, read text = some (value, rest) → read (text ++ tail) = some (value, rest ++ tail)

section
variable {α β : Type} {tail : Text}

theorem reads_on_bind (first : Text → Option (α × Text)) (next : α → Text → Option (β × Text))
    (one : ReadsOn tail first) (two : ∀ value, ReadsOn tail (next value)) :
    ReadsOn tail fun text => (first text).bind fun found => next found.1 found.2 := by
  intro text value rest read
  obtain ⟨⟨found, middle⟩, began, ended⟩ := Option.bind_eq_some_iff.mp read
  simp [one text found middle began, two found middle value rest ended]

-- What a text does not begin with, it does not begin with where more follows, if that begins with something else.
theorem begins_on (off : SetOff tail) (text : Text) (c : Char) (other : setsOff c = false)
    (differs : ∀ rest, text = c :: rest → False) (rest : Text) : text ++ tail = c :: rest → False := by
  intro same
  cases text with
  | nil =>
      obtain rfl : tail = c :: rest := same
      have begins := off c rfl
      rw [other] at begins
      cases begins
  | cons d text =>
      obtain ⟨rfl, -⟩ := List.cons.inj same
      exact differs text rfl

theorem begins_two_on (off : SetOff tail) (text : Text) (c d : Char) (one : setsOff c = false) (other : setsOff d = false)
    (differs : ∀ rest, text = c :: d :: rest → False) (rest : Text) : text ++ tail = c :: d :: rest → False := by
  intro same
  cases text with
  | nil => exact begins_on off [] c one (fun _ => nofun) (d :: rest) same
  | cons e text =>
      obtain ⟨rfl, below⟩ := List.cons.inj same
      exact begins_on off text d other (fun left also => differs left (by rw [also])) rest below

end

namespace Numeral

variable {tail : Text} (off : SetOff tail)
include off

theorem digits_on (isDigit : Char → Bool) (stops : ∀ c, setsOff c = true → isDigit c = false) :
    ReadsOn tail (digits isDigit) := by
  intro text more rest read
  fun_induction digits isDigit text generalizing more with
  | case1 =>
      cases read
      cases tail with
      | nil => rfl
      | cons c tail =>
          have begins := off c rfl
          have plain : c ≠ '_' := by
            rintro rfl
            cases begins
          simp [digits, plain, stops c begins]
  | case2 => cases read
  | case3 c text digit ih =>
      obtain ⟨⟨_, after⟩, left, same⟩ := Option.map_eq_some_iff.mp read
      cases same
      have also := ih _ left
      simp [digits, digit, also]
  | case4 => cases read
  | case5 c text single several digit ih =>
      obtain ⟨⟨_, after⟩, left, same⟩ := Option.map_eq_some_iff.mp read
      cases same
      have plain : c ≠ '_' := by
        rintro rfl
        cases text with
        | nil => exact single rfl rfl
        | cons d text => exact several d text rfl rfl
      have also := ih _ left
      simp [digits, plain, digit, also]
  | case6 c text single several digit =>
      cases read
      have plain : c ≠ '_' := by
        rintro rfl
        cases text with
        | nil => exact single rfl rfl
        | cons d text => exact several d text rfl rfl
      simp [digits, plain, digit]

omit off in
theorem setsOff_no_word : ∀ c, setsOff c = true → isWordChar c = false :=
  setsOff_all (isWordChar · = false) rfl rfl rfl rfl

theorem may_stop_on (text : Text) (stops : mayStop text = true) : mayStop (text ++ tail) = true := by
  unfold mayStop at stops
  split at stops
  iterate 8 rfl
  · cases tail with
    | nil => rfl
    | cons c tail => exact setsOff_all (fun c => mayStop (c :: tail) = true) rfl rfl rfl rfl c (off c rfl)
  · rename_i c text _ _ _ _ _ _ _ _
    rw [List.cons_append]
    unfold mayStop
    split <;> simp_all

theorem stop_at_on (value : Number) : ReadsOn tail (stopAt value) := by
  intro text result rest read
  unfold stopAt at read
  split at read
  · rename_i stops
    cases read
    rw [stopAt, if_pos (may_stop_on off _ stops)]
  · cases read

theorem after_exponent_on : ReadsOn tail afterExponent := by
  intro text result rest read
  unfold afterExponent at read
  split at read
  iterate 2 exact stop_at_on off _ _ _ _ read
  rename_i lower upper
  rw [afterExponent]
  · exact stop_at_on off _ _ _ _ read
  · exact begins_on off text 'j' rfl lower
  · exact begins_on off text 'J' rfl upper

omit off in
theorem setsOff_no_digit : ∀ c, setsOff c = true → Char.isDigit c = false :=
  setsOff_all (Char.isDigit · = false) rfl rfl rfl rfl

theorem exponent_digits_on :
    ReadsOn tail fun text => (digits Char.isDigit text).bind fun found => afterExponent found.2 :=
  reads_on_bind _ (fun _ => afterExponent) (digits_on off _ setsOff_no_digit) fun _ => after_exponent_on off

theorem exponent_on (value : Number) (letter : Char) (word : isWordChar letter = true) :
    ReadsOn tail (exponent value letter) := by
  intro text result rest read
  unfold exponent at read
  split at read
  iterate 2
    split at read
    · rename_i digit
      have also := exponent_digits_on off _ _ _ read
      simpa [exponent, digit] using also
    · cases read
  · cases read
  · cases read
  · rename_i c text plus minus lonePlus loneMinus
    have unsigned : c ≠ '+' ∧ c ≠ '-' := by
      cases text with
      | nil => exact ⟨fun same => lonePlus same rfl, fun same => loneMinus same rfl⟩
      | cons d text => exact ⟨fun same => plus d text same rfl, fun same => minus d text same rfl⟩
    split at read
    · rename_i digit
      have also := exponent_digits_on off _ _ _ read
      simpa [exponent, unsigned, digit] using also
    · rename_i digit
      have also := stop_at_on off _ _ _ _ read
      simpa [exponent, unsigned, digit] using also
  · have stops : mayStop [letter] = false := by simp [mayStop, word]
    rw [stopAt, stops] at read
    cases read

theorem after_fraction_on : ReadsOn tail afterFraction := by
  intro text result rest read
  unfold afterFraction at read
  split at read
  iterate 2 exact exponent_on off _ _ rfl _ _ _ read
  rename_i lower upper
  rw [afterFraction]
  · exact after_exponent_on off _ _ _ read
  · exact begins_on off text 'e' rfl lower
  · exact begins_on off text 'E' rfl upper

theorem fraction_on : ReadsOn tail fraction := by
  intro text result rest read
  cases text with
  | nil =>
      cases tail with
      | nil => simpa using read
      | cons c tail =>
          have plain := setsOff_no_digit c (off c rfl)
          rw [fraction] at read
          rw [List.nil_append, fraction, if_neg (by simp [plain])]
          exact after_fraction_on off _ _ _ read
  | cons c text =>
      rw [List.cons_append]
      rw [fraction] at read ⊢
      by_cases digit : c.isDigit = true
      · rw [if_pos digit] at read ⊢
        exact reads_on_bind _ (fun _ => afterFraction) (digits_on off _ setsOff_no_digit) (fun _ => after_fraction_on off)
          _ _ _ read
      · rw [if_neg digit] at read ⊢
        exact after_fraction_on off _ _ _ read

theorem after_integer_on (value : Nat) (plain : Bool) : ReadsOn tail (afterInteger value plain) := by
  intro text result rest read
  unfold afterInteger at read
  split at read
  · exact fraction_on off _ _ _ read
  iterate 2 exact exponent_on off _ _ rfl _ _ _ read
  iterate 2 exact stop_at_on off _ _ _ _ read
  rename_i point lower upper small large
  split at read
  · rename_i whole
    rw [afterInteger, if_pos whole]
    · exact stop_at_on off _ _ _ _ read
    · exact begins_on off text '.' rfl point
    · exact begins_on off text 'e' rfl lower
    · exact begins_on off text 'E' rfl upper
    · exact begins_on off text 'j' rfl small
    · exact begins_on off text 'J' rfl large
  · cases read

theorem of_digits_on (base : Nat) (isDigit : Char → Bool) (stops : ∀ c, setsOff c = true → isDigit c = false) :
    ReadsOn tail (ofDigits base isDigit) := by
  intro text result rest read
  cases text with
  | nil => cases read
  | cons c text =>
      rw [List.cons_append]
      rw [ofDigits] at read ⊢
      by_cases digit : isDigit c = true
      · rw [if_pos digit] at read ⊢
        exact reads_on_bind _ (fun more => stopAt (.integer (valueOf base (c :: more)))) (digits_on off isDigit stops)
          (fun _ => stop_at_on off _) _ _ _ read
      · rw [if_neg digit] at read
        cases read

theorem of_base_on (base : Nat) (isDigit : Char → Bool) (stops : ∀ c, setsOff c = true → isDigit c = false) :
    ReadsOn tail (ofBase base isDigit) := by
  have started : ReadsOn tail (ofDigits base isDigit) := of_digits_on off base isDigit stops
  intro text result rest read
  cases text with
  | nil => cases read
  | cons c text =>
      rw [List.cons_append]
      by_cases joined : c = '_'
      · subst joined
        exact started _ _ _ read
      · rw [of_base_plain base isDigit c joined] at read ⊢
        exact started _ _ _ read

theorem read_on : ReadsOn tail read := by
  intro text result rest found
  unfold read at found
  split at found
  iterate 2 exact of_base_on off _ _ (setsOff_all (isHex · = false) rfl rfl rfl rfl) _ _ _ found
  iterate 2 exact of_base_on off _ _ (setsOff_all (isOctal · = false) rfl rfl rfl rfl) _ _ _ found
  iterate 2 exact of_base_on off _ _ (setsOff_all (isBinary · = false) rfl rfl rfl rfl) _ _ _ found
  rename_i hex upperHex octal upperOctal binary upperBinary
  have also := reads_on_bind _
    (fun all => afterInteger (valueOf 10 all) (all.head? != some '0' || all.all (· = '0')))
    (digits_on off _ setsOff_no_digit) (fun _ => after_integer_on off _ _) _ _ _ found
  rw [read]
  · exact also
  · exact begins_two_on off text '0' 'x' rfl rfl hex
  · exact begins_two_on off text '0' 'X' rfl rfl upperHex
  · exact begins_two_on off text '0' 'o' rfl rfl octal
  · exact begins_two_on off text '0' 'O' rfl rfl upperOctal
  · exact begins_two_on off text '0' 'b' rfl rfl binary
  · exact begins_two_on off text '0' 'B' rfl rfl upperBinary

end Numeral

namespace Lexer

variable {tail : Text} (off : SetOff tail)
include off

theorem mark_at_on : ReadsOn tail markAt := by
  intro text mark rest read
  unfold markAt at read
  split at read
  all_goals cases read
  all_goals try rfl
  -- The others are the beginning of longer marks, none of which stands in the text.
  all_goals simp only [List.cons_append]
  all_goals rw [markAt]
  all_goals first
    | exact begins_on off _ _ rfl (by assumption)
    | exact begins_two_on off _ _ _ rfl rfl (by assumption)

/-! Strings. -/

omit off in
theorem after_on (start text rest : Text) (read : Text.after? start text = some rest) :
    Text.after? start (text ++ tail) = some (rest ++ tail) := by
  induction start generalizing text with
  | nil =>
      cases read
      rfl
  | cons first start ih =>
      cases text with
      | nil => cases read
      | cons c text =>
          rw [List.cons_append]
          unfold Text.after? at read ⊢
          by_cases same : first = c
          · rw [if_pos same] at read ⊢
            exact ih text read
          · rw [if_neg same] at read
            cases read

theorem after_none_on (start text : Text) (inner : ∀ c ∈ start, setsOff c = false)
    (read : Text.after? start text = none) : Text.after? start (text ++ tail) = none := by
  induction start generalizing text with
  | nil => cases read
  | cons first start ih =>
      cases text with
      | nil =>
          cases tail with
          | nil => rfl
          | cons c tail =>
              have apart : first ≠ c := by
                rintro rfl
                have begins := off first rfl
                rw [inner first List.mem_cons_self] at begins
                cases begins
              rw [List.nil_append, Text.after?, if_neg apart]
      | cons c text =>
          rw [List.cons_append]
          unfold Text.after? at read ⊢
          by_cases same : first = c
          · rw [if_pos same] at read ⊢
            exact ih text (fun d member => inner d (List.mem_cons_of_mem _ member)) read
          · rw [if_neg same]

theorem string_body_on (quote : Char) (inner : setsOff quote = false) (long : Bool) (text body rest : Text) (ends : Nat)
    (read : stringBody quote long text = some (body, ends, rest)) :
    stringBody quote long (text ++ tail) = some (body, ends, rest ++ tail) := by
  have marks : ∀ c ∈ closing quote long, setsOff c = false := by
    intro c member
    have same : c = quote := by cases long <;> simpa [closing] using member
    rw [same, inner]
  -- An escape takes two characters, so the induction is on the length.
  induction length : text.length using Nat.strong_induction_on generalizing text body ends with
  | _ length ih =>
      subst length
      cases text with
      | nil => cases read
      | cons c text =>
          by_cases escapes : c = '\\'
          · subst escapes
            cases text with
            | nil => cases read
            | cons d text =>
                obtain ⟨⟨_, _, _⟩, left, same⟩ := Option.map_eq_some_iff.mp read
                cases same
                have shorter : text.length < ('\\' :: d :: text).length := Nat.lt_add_of_pos_right (Nat.succ_pos 1)
                have also := ih text.length shorter text _ _ left rfl
                simp [stringBody, also]
          · rw [List.cons_append]
            rw [string_body_cons quote long c _ escapes] at read ⊢
            cases closes : Text.after? (closing quote long) (c :: text) with
            | some after =>
                rw [closes] at read
                cases read
                rw [← List.cons_append, after_on _ _ _ closes]
            | none =>
                rw [← List.cons_append, after_none_on off _ _ marks closes]
                rw [closes] at read
                dsimp only at read ⊢
                split at read
                · cases read
                · rename_i inside
                  obtain ⟨⟨_, _, _⟩, left, same⟩ := Option.map_eq_some_iff.mp read
                  cases same
                  have also := ih text.length (by simp) text _ _ left rfl
                  simp [inside, also]

theorem string_at_on (quote : Char) (inner : setsOff quote = false) (text body rest : Text) (ends : Nat)
    (read : stringAt quote text = some (body, ends, rest)) :
    stringAt quote (text ++ tail) = some (body, ends, rest ++ tail) := by
  rw [string_at_eq] at read ⊢
  cases opened : Text.after? [quote, quote] text with
  | some left =>
      rw [opened] at read
      rw [after_on _ _ _ opened]
      exact string_body_on off quote inner true left body rest ends read
  | none =>
      have marks : ∀ c ∈ [quote, quote], setsOff c = false := by
        intro c member
        have same : c = quote := by simpa using member
        rw [same, inner]
      rw [opened] at read
      rw [after_none_on off _ _ marks opened]
      exact string_body_on off quote inner false text body rest ends read

end Lexer

end Statewright.Code
