import Statewright.Proofs.Tokens
import Statewright.Text.Block

/-!
Text whose lines are moved to the right. What is read within a line is read in the same way where the line stands
deeper, and a string that goes on in further lines takes in what is put before them.
-/
set_option autoImplicit false

namespace Statewright.Code

open Text.Block (isMargin)

-- What a line has after its margin, if it is to keep its place among the others.
def solid (c : Char) : Bool := !Text.isBlank c && c != '\\'

-- A margin that keeps its order with the others: all are moved by tab stops, or its tabs stand first.
def steady (width : Nat) (margin : Text) : Bool := width % 8 = 0 || !(margin.dropWhile (· = '\t')).contains '\t'

theorem solid_visible (c : Char) (starts : solid c = true) : Text.isBlank c = false := by
  have both : Text.isBlank c = false ∧ c ≠ '\\' := by simpa [solid] using starts
  exact both.1

theorem margin_cases (margin : Text) (only : margin.all isMargin = true) : ∀ c ∈ margin, c = ' ' ∨ c = '\t' := by
  intro c member
  simpa [isMargin] using List.all_eq_true.mp only c member

theorem margin_blank (margin : Text) (only : margin.all isMargin = true) : Text.blank margin = true := by
  refine List.all_eq_true.mpr fun c member => ?_
  rcases margin_cases margin only c member with rfl | rfl <;> rfl

theorem margin_inside (margin : Text) (only : margin.all isMargin = true) : '\n' ∉ margin := by
  intro member
  rcases margin_cases margin only '\n' member with same | same <;> cases same

theorem spaces_margin (width : Nat) : (Text.spaces width).all isMargin = true := by simp [Text.spaces, isMargin]

theorem spaces_before (width : Nat) (margin : Text) (only : margin.all isMargin = true) :
    (Text.spaces width ++ margin).all isMargin = true := by
  rw [List.all_append, only, spaces_margin]
  rfl

-- A text and the same text with its lines deeper, both read from the start of a line or from the middle of one. Lines
-- of nothing but margin become empty.
inductive Deeper (width : Nat) : Bool → Text → Text → Prop
  | done : Deeper width true [] []
  | empty (margin text other : Text) (only : margin.all isMargin = true) (further : Deeper width true text other) :
      Deeper width true (margin ++ '\n' :: text) ('\n' :: other)
  | line (margin : Text) (c : Char) (text other : Text) (only : margin.all isMargin = true)
      (even : steady width margin = true) (starts : solid c = true)
      (further : Deeper width false (c :: text) (c :: other)) :
      Deeper width true (margin ++ c :: text) (Text.spaces width ++ (margin ++ c :: other))
  | ends (text other : Text) (further : Deeper width true text other) : Deeper width false ('\n' :: text) ('\n' :: other)
  | char (c : Char) (text other : Text) (inside : c ≠ '\n') (further : Deeper width false text other) :
      Deeper width false (c :: text) (c :: other)

section
variable {width : Nat}

theorem deeper_cons {c : Char} {text other : Text} (deeper : Deeper width false (c :: text) other) :
    ∃ rest, other = c :: rest ∧ (c ≠ '\n' → Deeper width false text rest) ∧ (c = '\n' → Deeper width true text rest) := by
  cases deeper with
  | ends _ rest further => exact ⟨rest, rfl, fun inside => absurd rfl inside, fun _ => further⟩
  | char _ _ rest inside further => exact ⟨rest, rfl, fun _ => further, fun same => absurd same inside⟩

theorem deeper_margin (margin : Text) (c : Char) (text other : Text) (only : margin.all isMargin = true)
    (further : Deeper width false (c :: text) (c :: other)) :
    Deeper width false (margin ++ c :: text) (margin ++ c :: other) := by
  induction margin with
  | nil => exact further
  | cons first rest ih =>
      simp only [List.all_cons, Bool.and_eq_true] at only
      refine .char first _ _ ?_ (ih only.2)
      rintro rfl
      cases only.1

-- Dropping characters of one kind stays within the line.
theorem deeper_dropWhile (p : Char → Bool) (stops : p '\n' = false) {text other : Text}
    (deeper : Deeper width false text other) :
    text.takeWhile p = other.takeWhile p ∧ Deeper width false (text.dropWhile p) (other.dropWhile p) := by
  generalize middle : false = fresh at deeper
  induction deeper with
  | done => cases middle
  | empty => cases middle
  | line => cases middle
  | ends text other further _ => simpa [stops] using Deeper.ends text other further
  | char c text other inside further ih =>
      by_cases taken : p c = true
      · simpa [taken] using ih rfl
      · simpa [taken] using Deeper.char c text other inside further

end

/-! Readers that stay within a line. -/

-- What the reader takes from a text it takes from a deeper one.
def ReadsDeeper {α : Type} (width : Nat) (read : Text → Option (α × Text)) : Prop :=
  ∀ text other value rest, Deeper width false text other → read text = some (value, rest) →
    ∃ after, read other = some (value, after) ∧ Deeper width false rest after

section
variable {α β : Type} {width : Nat}

theorem reads_deeper_bind (first : Text → Option (α × Text)) (next : α → Text → Option (β × Text))
    (one : ReadsDeeper width first) (two : ∀ value, ReadsDeeper width (next value)) :
    ReadsDeeper width fun text => (first text).bind fun found => next found.1 found.2 := by
  intro text other value rest deeper read
  obtain ⟨⟨found, middle⟩, began, ended⟩ := Option.bind_eq_some_iff.mp read
  obtain ⟨after, also, further⟩ := one text other found middle deeper began
  obtain ⟨last, finished, left⟩ := two found middle after value rest further ended
  exact ⟨last, by simp [also, finished], left⟩

end

theorem ne_newline (p : Char → Bool) (stops : p '\n' = false) (c : Char) (taken : p c = true) : c ≠ '\n' := by
  rintro rfl
  rw [stops] at taken
  cases taken

-- What a text does not begin with, a deeper one does not begin with either.
theorem begins_deeper {width : Nat} {text other : Text} (deeper : Deeper width false text other) (c : Char)
    (differs : ∀ rest, text = c :: rest → False) (rest : Text) : other = c :: rest → False := by
  rintro rfl
  cases deeper with
  | ends inner => exact differs inner rfl
  | char _ inner => exact differs inner rfl

theorem begins_two_deeper {width : Nat} {text other : Text} (deeper : Deeper width false text other) (c d : Char)
    (inside : c ≠ '\n') (differs : ∀ rest, text = c :: d :: rest → False) (rest : Text) :
    other = c :: d :: rest → False := by
  rintro rfl
  cases deeper with
  | ends => exact inside rfl
  | char _ inner _ _ further =>
      exact begins_deeper further d (fun left same => differs left (by rw [same])) rest rfl

namespace Numeral

variable {width : Nat}

theorem digits_deeper (isDigit : Char → Bool) (stops : isDigit '\n' = false) : ReadsDeeper width (digits isDigit) := by
  intro text other more rest deeper read
  fun_induction digits isDigit text generalizing other more with
  | case1 => cases deeper
  | case2 => cases read
  | case3 c text digit ih =>
      obtain ⟨⟨_, after⟩, left, same⟩ := Option.map_eq_some_iff.mp read
      cases same
      obtain ⟨_, rfl, inside, _⟩ := deeper_cons deeper
      obtain ⟨tail, rfl, further, _⟩ := deeper_cons (inside (by decide))
      obtain ⟨last, also, below⟩ := ih _ _ (further (ne_newline isDigit stops c digit)) left
      exact ⟨last, by simp [digits, digit, also], below⟩
  | case4 => cases read
  | case5 c text single several digit ih =>
      obtain ⟨⟨_, after⟩, left, same⟩ := Option.map_eq_some_iff.mp read
      cases same
      obtain ⟨tail, rfl, further, _⟩ := deeper_cons deeper
      have plain : c ≠ '_' := by
        rintro rfl
        cases text with
        | nil => exact single rfl rfl
        | cons d text => exact several d text rfl rfl
      obtain ⟨last, also, below⟩ := ih _ _ (further (ne_newline isDigit stops c digit)) left
      exact ⟨last, by simp [digits, plain, digit, also], below⟩
  | case6 c text single several digit =>
      cases read
      obtain ⟨tail, rfl, _⟩ := deeper_cons deeper
      have plain : c ≠ '_' := by
        rintro rfl
        cases text with
        | nil => exact single rfl rfl
        | cons d text => exact several d text rfl rfl
      exact ⟨c :: tail, by simp [digits, plain, digit], deeper⟩

theorem may_stop_deeper (text other : Text) (deeper : Deeper width false text other) (stops : mayStop text = true) :
    mayStop other = true := by
  unfold mayStop at stops
  split at stops
  iterate 8
    obtain ⟨_, rfl, inside, _⟩ := deeper_cons deeper
    obtain ⟨_, rfl, further, _⟩ := deeper_cons (inside (by decide))
    first
      | rfl
      | (obtain ⟨_, rfl, third, _⟩ := deeper_cons (further (by decide))
         first
           | rfl
           | (obtain ⟨_, rfl, _⟩ := deeper_cons (third (by decide))
              rfl))
  · cases deeper
  · rename_i c text _ _ _ _ _ _ _ _
    obtain ⟨rest, rfl, _⟩ := deeper_cons deeper
    unfold mayStop
    split <;> simp_all

theorem stop_at_deeper (value : Number) : ReadsDeeper width (stopAt value) := by
  intro text other result rest deeper read
  unfold stopAt at read
  split at read
  · rename_i stops
    cases read
    exact ⟨other, by rw [stopAt, if_pos (may_stop_deeper _ _ deeper stops)], deeper⟩
  · cases read

theorem after_exponent_deeper : ReadsDeeper width afterExponent := by
  intro text other result rest deeper read
  unfold afterExponent at read
  split at read
  iterate 2
    obtain ⟨tail, rfl, further, _⟩ := deeper_cons deeper
    exact stop_at_deeper _ _ _ _ _ (further (by decide)) read
  rename_i lower upper
  obtain ⟨after, also, below⟩ := stop_at_deeper _ _ _ _ _ deeper read
  refine ⟨after, ?_, below⟩
  rw [afterExponent]
  · exact also
  · exact begins_deeper deeper 'j' lower
  · exact begins_deeper deeper 'J' upper

theorem exponent_digits_deeper :
    ReadsDeeper width fun text => (digits Char.isDigit text).bind fun found => afterExponent found.2 :=
  reads_deeper_bind _ (fun _ => afterExponent) (digits_deeper _ rfl) fun _ => after_exponent_deeper

theorem exponent_deeper (value : Number) (letter : Char) (inside : letter ≠ '\n') :
    ReadsDeeper width (exponent value letter) := by
  intro text other result rest deeper read
  unfold exponent at read
  split at read
  iterate 2
    split at read
    · rename_i digit
      obtain ⟨_, rfl, signed, _⟩ := deeper_cons deeper
      obtain ⟨tail, rfl, further, _⟩ := deeper_cons (signed (by decide))
      obtain ⟨after, also, below⟩ :=
        exponent_digits_deeper _ _ _ _ (further (ne_newline Char.isDigit rfl _ digit)) read
      exact ⟨after, by simpa [exponent, digit] using also, below⟩
    · cases read
  · cases read
  · cases read
  · rename_i c text plus minus lonePlus loneMinus
    obtain ⟨tail, rfl, further, _⟩ := deeper_cons deeper
    have unsigned : c ≠ '+' ∧ c ≠ '-' := by
      cases text with
      | nil => exact ⟨fun same => lonePlus same rfl, fun same => loneMinus same rfl⟩
      | cons d text => exact ⟨fun same => plus d text same rfl, fun same => minus d text same rfl⟩
    split at read
    · rename_i digit
      obtain ⟨after, also, below⟩ :=
        exponent_digits_deeper _ _ _ _ (further (ne_newline Char.isDigit rfl _ digit)) read
      exact ⟨after, by simpa [exponent, unsigned, digit] using also, below⟩
    · rename_i digit
      obtain ⟨after, also, below⟩ := stop_at_deeper _ _ _ _ _ (.char letter _ _ inside deeper) read
      exact ⟨after, by simpa [exponent, unsigned, digit] using also, below⟩
  · cases deeper

theorem after_fraction_deeper : ReadsDeeper width afterFraction := by
  intro text other result rest deeper read
  unfold afterFraction at read
  split at read
  iterate 2
    obtain ⟨tail, rfl, further, _⟩ := deeper_cons deeper
    exact exponent_deeper _ _ (by decide) _ _ _ _ (further (by decide)) read
  rename_i lower upper
  obtain ⟨after, also, below⟩ := after_exponent_deeper _ _ _ _ deeper read
  refine ⟨after, ?_, below⟩
  rw [afterFraction]
  · exact also
  · exact begins_deeper deeper 'e' lower
  · exact begins_deeper deeper 'E' upper

theorem fraction_deeper : ReadsDeeper width fraction := by
  intro text other result rest deeper read
  cases text with
  | nil => cases deeper
  | cons c text =>
      obtain ⟨tail, rfl, further, _⟩ := deeper_cons deeper
      rw [fraction] at read ⊢
      by_cases digit : c.isDigit = true
      · rw [if_pos digit] at read ⊢
        exact reads_deeper_bind _ (fun _ => afterFraction) (digits_deeper _ rfl) (fun _ => after_fraction_deeper) _ _ _ _
          (further (ne_newline Char.isDigit rfl c digit)) read
      · rw [if_neg digit] at read ⊢
        exact after_fraction_deeper _ _ _ _ deeper read

theorem after_integer_deeper (value : Nat) (plain : Bool) : ReadsDeeper width (afterInteger value plain) := by
  intro text other result rest deeper read
  unfold afterInteger at read
  split at read
  · obtain ⟨tail, rfl, further, _⟩ := deeper_cons deeper
    exact fraction_deeper _ _ _ _ (further (by decide)) read
  iterate 2
    obtain ⟨tail, rfl, further, _⟩ := deeper_cons deeper
    exact exponent_deeper _ _ (by decide) _ _ _ _ (further (by decide)) read
  iterate 2
    obtain ⟨tail, rfl, further, _⟩ := deeper_cons deeper
    exact stop_at_deeper _ _ _ _ _ (further (by decide)) read
  rename_i point lower upper small large
  split at read
  · rename_i whole
    obtain ⟨after, also, below⟩ := stop_at_deeper _ _ _ _ _ deeper read
    refine ⟨after, ?_, below⟩
    rw [afterInteger, if_pos whole]
    · exact also
    · exact begins_deeper deeper '.' point
    · exact begins_deeper deeper 'e' lower
    · exact begins_deeper deeper 'E' upper
    · exact begins_deeper deeper 'j' small
    · exact begins_deeper deeper 'J' large
  · cases read

-- What a numeral has after the mark of its base, or after the underscore that follows it.
def ofDigits (base : Nat) (isDigit : Char → Bool) : Text → Option (Number × Text)
  | [] => none
  | c :: rest =>
    if isDigit c then
      (digits isDigit rest).bind fun found => stopAt (.integer (valueOf base (c :: found.1))) found.2
    else none

theorem of_base_plain (base : Nat) (isDigit : Char → Bool) (c : Char) (plain : c ≠ '_') (rest : Text) :
    ofBase base isDigit (c :: rest) = ofDigits base isDigit (c :: rest) := by
  unfold ofBase ofDigits
  split <;> simp_all

theorem of_digits_deeper (base : Nat) (isDigit : Char → Bool) (stops : isDigit '\n' = false) :
    ReadsDeeper width (ofDigits base isDigit) := by
  intro text other result rest deeper read
  cases text with
  | nil => cases read
  | cons c text =>
      obtain ⟨tail, rfl, further, _⟩ := deeper_cons deeper
      by_cases digit : isDigit c = true
      · simp only [ofDigits, digit, if_true] at read ⊢
        exact reads_deeper_bind _ (fun more => stopAt (.integer (valueOf base (c :: more)))) (digits_deeper _ stops)
          (fun _ => stop_at_deeper _) _ _ _ _ (further (ne_newline isDigit stops c digit)) read
      · simp [ofDigits, digit] at read

theorem of_base_deeper (base : Nat) (isDigit : Char → Bool) (stops : isDigit '\n' = false) :
    ReadsDeeper width (ofBase base isDigit) := by
  have started : ReadsDeeper width (ofDigits base isDigit) := of_digits_deeper base isDigit stops
  intro text other result rest deeper read
  cases text with
  | nil => cases deeper
  | cons c text =>
      obtain ⟨tail, rfl, further, _⟩ := deeper_cons deeper
      by_cases joined : c = '_'
      · subst joined
        exact started _ _ _ _ (further (by decide)) read
      · rw [of_base_plain base isDigit c joined] at read ⊢
        exact started _ _ _ _ deeper read

theorem read_deeper : ReadsDeeper width read := by
  intro text other result rest deeper found
  unfold read at found
  split at found
  iterate 6
    obtain ⟨_, rfl, inside, _⟩ := deeper_cons deeper
    obtain ⟨tail, rfl, further, _⟩ := deeper_cons (inside (by decide))
    exact of_base_deeper _ _ (by decide) _ _ _ _ (further (by decide)) found
  rename_i hex upperHex octal upperOctal binary upperBinary
  obtain ⟨after, also, below⟩ := reads_deeper_bind _
    (fun all => afterInteger (valueOf 10 all) (all.head? != some '0' || all.all (· = '0'))) (digits_deeper _ rfl)
    (fun _ => after_integer_deeper _ _) _ _ _ _ deeper found
  refine ⟨after, ?_, below⟩
  rw [read]
  · exact also
  · exact begins_two_deeper deeper '0' 'x' (by decide) hex
  · exact begins_two_deeper deeper '0' 'X' (by decide) upperHex
  · exact begins_two_deeper deeper '0' 'o' (by decide) octal
  · exact begins_two_deeper deeper '0' 'O' (by decide) upperOctal
  · exact begins_two_deeper deeper '0' 'b' (by decide) binary
  · exact begins_two_deeper deeper '0' 'B' (by decide) upperBinary

end Numeral

namespace Lexer

variable {width : Nat}

theorem mark_at_deeper : ReadsDeeper width markAt := by
  intro text other mark rest deeper read
  unfold markAt at read
  split at read
  all_goals cases read
  all_goals
    obtain ⟨_, rfl, first, _⟩ := deeper_cons deeper
    have one := first (by decide)
  all_goals try exact ⟨_, rfl, one⟩
  -- Two characters, or three.
  all_goals try
    obtain ⟨_, rfl, second, _⟩ := deeper_cons one
    have two := second (by decide)
  all_goals try exact ⟨_, rfl, two⟩
  all_goals try
    obtain ⟨_, rfl, third, _⟩ := deeper_cons two
    exact ⟨_, rfl, third (by decide)⟩
  -- The others are the beginning of longer marks, none of which stands in the text.
  all_goals first
    | refine ⟨_, ?_, two⟩
    | refine ⟨_, ?_, one⟩
  all_goals rw [markAt]
  all_goals first
    | exact begins_deeper two _ (by assumption)
    | exact begins_deeper one _ (by assumption)
    | exact begins_two_deeper one _ _ (by decide) (by assumption)

/-! Strings. -/

theorem after_deeper (start : Text) (inside : '\n' ∉ start) (text other : Text) (deeper : Deeper width false text other) :
    match Text.after? start text with
    | some rest => ∃ left, Text.after? start other = some left ∧ Deeper width false rest left
    | none => Text.after? start other = none := by
  induction start generalizing text other with
  | nil => exact ⟨other, rfl, deeper⟩
  | cons first start ih =>
      cases text with
      | nil => cases deeper
      | cons c text =>
          obtain ⟨tail, rfl, further, _⟩ := deeper_cons deeper
          by_cases same : first = c
          · subst same
            simp only [Text.after?, if_true]
            exact ih (fun later => inside (List.mem_cons_of_mem _ later)) text tail
              (further fun line => inside (line ▸ List.mem_cons_self))
          · simp [Text.after?, same]

def closing (quote : Char) (long : Bool) : Text := if long then [quote, quote, quote] else [quote]

-- A string goes on from one character to the next until its closing quote stands in the text.
theorem long_string_body_none (quote : Char) (text : Text) (few : text.length < 3) : stringBody quote true text = none := by
  rcases text with _ | ⟨a, _ | ⟨b, _ | ⟨c, text⟩⟩⟩
  · rfl
  · by_cases escapes : a = '\\'
    · simp [stringBody, escapes]
    · simp [stringBody, escapes]
  · by_cases escapes : a = '\\'
    · simp [stringBody, escapes]
    · simp [stringBody, escapes]
  · simp only [List.length_cons] at few
    omega

-- A string goes on from one character to the next until its closing quotes stand in the text.
theorem string_body_cons (quote : Char) (long : Bool) (c : Char) (rest : Text) (plain : c ≠ '\\') :
    stringBody quote long (c :: rest) =
      match Text.after? (closing quote long) (c :: rest) with
      | some after => some ([], 0, after)
      | none => if long = false ∧ c = '\n' then none else (stringBody quote long rest).map fun (body, ends, after) =>
          (c :: body, if c = '\n' then ends + 1 else ends, after) := by
  cases long with
  | false =>
      by_cases closes : c = quote
      · subst closes
        simp [stringBody, plain, closing, Text.after?]
      · have apart : quote ≠ c := Ne.symm closes
        by_cases line : c = '\n'
        · subst line
          simp [stringBody, closing, Text.after?, closes, apart]
        · simp [stringBody, plain, closing, Text.after?, closes, apart, line]
  | true =>
      rcases rest with _ | ⟨b, _ | ⟨d, rest⟩⟩
      · simp [stringBody, plain, closing, Text.after?]
      · have open_ : Text.after? (closing quote true) [c, b] = none := by
          simp [closing, Text.after?]
        simp [stringBody, plain, open_, long_string_body_none quote [b] (by simp)]
      · by_cases closes : c = quote ∧ b = quote ∧ d = quote
        · obtain ⟨rfl, rfl, rfl⟩ := closes
          simp [stringBody, plain, closing, Text.after?]
        · have open_ : Text.after? (closing quote true) (c :: b :: d :: rest) = none := by
            simp only [closing, if_true, Text.after?]
            grind
          have on : (c = quote && b = quote && d = quote) = false := by grind
          rw [open_, stringBody, if_pos rfl]
          · simp [on]
          · exact fun same => absurd same plain
          · exact fun _ _ same => absurd same plain

theorem string_body_begins (quote : Char) (long : Bool) (text body rest : Text) (ends : Nat)
    (read : stringBody quote long text = some (body, ends, rest)) : body <+: text := by
  fun_induction stringBody quote long text generalizing body ends with
  | case1 => cases read
  | case2 => cases read
  | case3 c text ih =>
      obtain ⟨⟨_, _, _⟩, left, same⟩ := Option.map_eq_some_iff.mp read
      cases same
      exact List.prefix_append_right_inj ['\\', c] |>.mpr (ih _ _ left)
  | case4 =>
      cases read
      exact List.nil_prefix
  | case5 c text _ _ _ _ _ _ _ _ _ ih =>
      obtain ⟨⟨_, _, _⟩, left, same⟩ := Option.map_eq_some_iff.mp read
      cases same
      exact List.prefix_append_right_inj [c] |>.mpr (ih _ _ left)
  | case6 => cases read
  | case7 =>
      cases read
      exact List.nil_prefix
  | case8 => cases read
  | case9 c text _ _ _ _ _ ih =>
      obtain ⟨⟨_, _, _⟩, left, same⟩ := Option.map_eq_some_iff.mp read
      cases same
      exact List.prefix_append_right_inj [c] |>.mpr (ih _ _ left)

end Lexer

-- The first line of a text ends, and holds nothing.
def opensBlank (text : Text) : Bool := text.contains '\n' && Text.blank (text.takeWhile (· != '\n'))

-- What a string holds of a text whose further lines are deeper.
def carried (width : Nat) : Text → Text
  | [] => []
  | c :: rest =>
    if c = '\n' then
      '\n' :: (if opensBlank rest then (carried width rest).dropWhile (· != '\n')
        else Text.spaces width ++ carried width rest)
    else c :: carried width rest

-- The same from the start of a line.
def carriedLine (width : Nat) (text : Text) : Text :=
  if opensBlank text then (carried width text).dropWhile (· != '\n') else Text.spaces width ++ carried width text

section
variable {width : Nat}

theorem carried_newline (text : Text) : carried width ('\n' :: text) = '\n' :: carriedLine width text := by
  simp [carried, carriedLine]

theorem carried_cons (c : Char) (text : Text) (inside : c ≠ '\n') :
    carried width (c :: text) = c :: carried width text := by
  simp [carried, inside]

theorem carried_append (line text : Text) (inside : '\n' ∉ line) :
    carried width (line ++ text) = line ++ carried width text := by
  induction line with
  | nil => rfl
  | cons c line ih =>
      have first : c ≠ '\n' := fun same => inside (same ▸ List.mem_cons_self)
      rw [List.cons_append, carried_cons c _ first, ih fun later => inside (List.mem_cons_of_mem _ later),
        List.cons_append]

theorem within_line (line : Text) (inside : '\n' ∉ line) : ∀ c ∈ line, (c != '\n') = true := by
  intro c member
  rw [bne_iff_ne]
  rintro rfl
  exact inside member

theorem takeWhile_line (line text : Text) (inside : '\n' ∉ line) :
    (line ++ '\n' :: text).takeWhile (· != '\n') = line := by
  rw [List.takeWhile_append_of_pos (within_line line inside)]
  simp

theorem carriedLine_blank (line text : Text) (inside : '\n' ∉ line) (blank : Text.blank line = true) :
    carriedLine width (line ++ '\n' :: text) = carried width ('\n' :: text) := by
  have opens : opensBlank (line ++ '\n' :: text) = true := by
    simp [opensBlank, takeWhile_line line text inside, blank]
  rw [carriedLine, if_pos opens, carried_append line _ inside, List.dropWhile_append_of_pos (within_line line inside),
    carried_newline]
  simp

-- What begins a line that is not blank does not open with a blank line.
theorem carriedLine_solid (margin : Text) (c : Char) (text body : Text) (only : margin.all isMargin = true)
    (starts : solid c = true) (begins : body <+: margin ++ c :: text) :
    carriedLine width body = Text.spaces width ++ carried width body := by
  have visible := solid_visible c starts
  have inside : '\n' ∉ margin ++ [c] := by
    rw [List.mem_append, List.mem_singleton]
    rintro (member | rfl)
    · exact margin_inside margin only member
    · cases visible
  have shown : opensBlank body = false := by
    by_cases ends : '\n' ∈ body
    · have other : margin ++ [c] <+: margin ++ c :: text := ⟨text, by simp⟩
      rcases List.prefix_or_prefix_of_prefix begins other with shorter | ⟨more, rfl⟩
      · exact absurd (shorter.subset ends) inside
      · have blank : Text.blank ((margin ++ [c] ++ more).takeWhile (· != '\n')) = false := by
          rw [List.takeWhile_append_of_pos (within_line _ inside)]
          simp [Text.blank, visible]
        rw [opensBlank, blank, Bool.and_false]
    · simp [opensBlank, ends]
  rw [carriedLine, shown]
  rfl

end

namespace Lexer

variable {width : Nat}

theorem string_body_margin (quote : Char) (long : Bool) (marks : quote = '"' ∨ quote = '\'') (margin text : Text)
    (only : margin.all isMargin = true) :
    stringBody quote long (margin ++ text) =
      (stringBody quote long text).map fun (body, ends, after) => (margin ++ body, ends, after) := by
  induction margin with
  | nil => simp
  | cons c margin ih =>
      simp only [List.all_cons, Bool.and_eq_true] at only
      have blank : c = ' ' ∨ c = '\t' := by simpa [isMargin] using only.1
      have unclosed : Text.after? (closing quote long) (c :: (margin ++ text)) = none := by
        rcases marks with rfl | rfl <;> rcases blank with rfl | rfl <;> cases long <;> rfl
      have plain : c ≠ '\\' ∧ c ≠ '\n' := by rcases blank with rfl | rfl <;> decide
      rw [List.cons_append, string_body_cons quote long c _ plain.1, unclosed, ih only.2]
      cases stringBody quote long text with
      | none => simp
      | some found => simp [plain.2]

theorem string_body_newline (quote : Char) (long : Bool) (marks : quote = '"' ∨ quote = '\'')
    (text body rest : Text) (ends : Nat) (read : stringBody quote long ('\n' :: text) = some (body, ends, rest)) :
    ∃ more, body = '\n' :: more := by
  have unclosed : Text.after? (closing quote long) ('\n' :: text) = none := by
    rcases marks with rfl | rfl <;> cases long <;> rfl
  rw [string_body_cons quote long '\n' text (by decide), unclosed] at read
  cases long with
  | false => simp at read
  | true =>
      obtain ⟨⟨more, _, _⟩, _, same⟩ := Option.map_eq_some_iff.mp read
      exact ⟨more, (congrArg Prod.fst same).symm⟩

-- A string is read up to the same quotes, and holds what is put before its further lines.
def StringWithin (width : Nat) (quote : Char) (long : Bool) (text : Text) : Prop :=
  ∀ body rest other ends, stringBody quote long text = some (body, ends, rest) → Deeper width false text other →
    ∃ after, stringBody quote long other = some (carried width body, ends, after) ∧ Deeper width false rest after

def StringBelow (width : Nat) (quote : Char) (long : Bool) (text : Text) : Prop :=
  ∀ body rest other ends, stringBody quote long text = some (body, ends, rest) → Deeper width true text other →
    ∃ after, stringBody quote long other = some (carriedLine width body, ends, after) ∧ Deeper width false rest after

theorem string_escape_within (quote : Char) (long : Bool) (c : Char) (text : Text)
    (within : StringWithin width quote long text) (below : StringBelow width quote long text) :
    StringWithin width quote long ('\\' :: c :: text) := by
  intro body rest other ends read deeper
  obtain ⟨other, rfl, further, _⟩ := deeper_cons deeper
  obtain ⟨tail, rfl, inside, under⟩ := deeper_cons (further (by decide))
  rw [stringBody] at read
  obtain ⟨⟨more, lines, left⟩, found, same⟩ := Option.map_eq_some_iff.mp read
  obtain ⟨rfl, rfl, rfl⟩ : _ = body ∧ _ = ends ∧ left = rest := by simpa using same
  by_cases ended : c = '\n'
  · subst ended
    obtain ⟨after, also, last⟩ := below more left tail lines found (under rfl)
    exact ⟨after, by rw [stringBody, also, carried_cons _ _ (by decide), carried_newline]; rfl, last⟩
  · obtain ⟨after, also, last⟩ := within more left tail lines found (inside ended)
    exact ⟨after, by rw [stringBody, also, carried_cons _ _ (by decide), carried_cons _ _ ended]; rfl, last⟩

theorem string_cons_within (quote : Char) (long : Bool) (marks : quote = '"' ∨ quote = '\'') (c : Char) (text : Text)
    (plain : c ≠ '\\') (within : StringWithin width quote long text) (below : StringBelow width quote long text) :
    StringWithin width quote long (c :: text) := by
  intro body rest other ends read deeper
  have quotes : '\n' ∉ closing quote long := by
    rcases marks with rfl | rfl <;> cases long <;> decide
  have closes := after_deeper (closing quote long) quotes _ _ deeper
  obtain ⟨tail, rfl, inside, under⟩ := deeper_cons deeper
  rw [string_body_cons quote long c text plain] at read
  rw [string_body_cons quote long c tail plain]
  cases closed : Text.after? (closing quote long) (c :: text) with
  | some left =>
      rw [closed] at read closes
      obtain ⟨after, also, last⟩ := closes
      cases read
      exact ⟨after, by rw [also]; rfl, last⟩
  | none =>
      rw [closed] at read closes
      rw [closes]
      by_cases broken : long = false ∧ c = '\n'
      · simp [broken] at read
      · simp only [broken, if_false] at read ⊢
        obtain ⟨⟨more, lines, left⟩, found, same⟩ := Option.map_eq_some_iff.mp read
        obtain ⟨rfl, rfl, rfl⟩ : _ = body ∧ _ = ends ∧ left = rest := by simpa using same
        by_cases ended : c = '\n'
        · subst ended
          obtain ⟨after, also, last⟩ := below more left tail lines found (under rfl)
          exact ⟨after, by rw [also, carried_newline]; rfl, last⟩
        · obtain ⟨after, also, last⟩ := within more left tail lines found (inside ended)
          exact ⟨after, by rw [also, carried_cons _ _ ended]; rfl, last⟩

theorem string_below (quote : Char) (long : Bool) (marks : quote = '"' ∨ quote = '\'') (text : Text)
    (within : ∀ tail, tail <:+ text → StringWithin width quote long tail) : StringBelow width quote long text := by
  intro body rest other ends read deeper
  cases deeper with
  | done => cases read
  | empty margin text other only further =>
      rw [string_body_margin quote long marks margin _ only] at read
      obtain ⟨⟨more, lines, left⟩, found, same⟩ := Option.map_eq_some_iff.mp read
      obtain ⟨rfl, rfl, rfl⟩ : _ = body ∧ _ = ends ∧ left = rest := by simpa using same
      obtain ⟨inner, rfl⟩ := string_body_newline quote long marks text more left lines found
      rw [carriedLine_blank margin inner (margin_inside margin only) (margin_blank margin only)]
      exact within ('\n' :: text) ⟨margin, rfl⟩ _ left _ lines found (.ends text other further)
  | line margin c text other only even starts further =>
      have begins := string_body_begins quote long _ _ _ _ read
      obtain ⟨after, also, last⟩ := within _ (List.suffix_refl _) body rest _ ends read
        (deeper_margin margin c text other only further)
      refine ⟨after, ?_, last⟩
      rw [string_body_margin quote long marks _ _ (spaces_margin width), also, carriedLine_solid margin c text body only starts begins]
      rfl

theorem string_within (quote : Char) (long : Bool) (marks : quote = '"' ∨ quote = '\'') (text : Text) :
    ∀ tail, tail <:+ text → StringWithin width quote long tail := by
  induction text with
  | nil =>
      intro tail ends body rest other lines read deeper
      rw [List.suffix_nil.mp ends] at deeper
      cases deeper
  | cons c text ih =>
      intro tail ends
      rcases List.suffix_cons_iff.mp ends with rfl | later
      · by_cases escapes : c = '\\'
        · subst escapes
          cases text with
          | nil =>
              intro body rest other lines read
              cases read
          | cons d text =>
              have shorter : ∀ tail, tail <:+ text → StringWithin width quote long tail :=
                fun tail later => ih tail (later.trans (List.suffix_cons d text))
              exact string_escape_within quote long d text (shorter text (List.suffix_refl _))
                (string_below quote long marks text shorter)
        · exact string_cons_within quote long marks c text escapes (ih text (List.suffix_refl _))
            (string_below quote long marks text ih)
      · exact ih tail later

theorem string_at_eq (quote : Char) (text : Text) :
    stringAt quote text = match Text.after? [quote, quote] text with
      | some rest => stringBody quote true rest
      | none => stringBody quote false text := by
  rcases text with _ | ⟨a, _ | ⟨b, text⟩⟩
  · rfl
  · simp [stringAt, Text.after?]
  · by_cases doubled : a = quote ∧ b = quote
    · obtain ⟨rfl, rfl⟩ := doubled
      simp [stringAt, Text.after?]
    · have open_ : Text.after? [quote, quote] (a :: b :: text) = none := by
        simp only [Text.after?]
        grind
      rw [open_, stringAt, if_neg (by simpa using doubled)]

theorem string_at_deeper (quote : Char) (marks : quote = '"' ∨ quote = '\'') (text body rest other : Text) (ends : Nat)
    (read : stringAt quote text = some (body, ends, rest)) (deeper : Deeper width false text other) :
    ∃ after, stringAt quote other = some (carried width body, ends, after) ∧ Deeper width false rest after := by
  have inside : '\n' ∉ [quote, quote] := by rcases marks with rfl | rfl <;> decide
  have doubled := after_deeper [quote, quote] inside _ _ deeper
  rw [string_at_eq] at read ⊢
  cases opened : Text.after? [quote, quote] text with
  | some left =>
      rw [opened] at read doubled
      obtain ⟨after, also, further⟩ := doubled
      rw [also]
      exact string_within quote true marks left left (List.suffix_refl _) body rest after ends read further
  | none =>
      rw [opened] at read doubled
      rw [doubled]
      exact string_within quote false marks text text (List.suffix_refl _) body rest other ends read deeper

end Lexer

/-! What a string holds stays the same exactly if it ends in its first line. -/

theorem carried_within (width : Nat) (text : Text) (inside : '\n' ∉ text) : carried width text = text := by
  simpa [carried] using carried_append text [] inside

theorem spaces_length (width : Nat) : (Text.spaces width).length = width := List.length_replicate

theorem spaces_inside (width : Nat) : '\n' ∉ Text.spaces width := by
  intro member
  cases List.eq_of_mem_replicate member

theorem carriedLine_ne (width : Nat) (indents : 0 < width) (text : Text) : carriedLine width text ≠ text := by
  intro same
  by_cases ends : '\n' ∈ text
  · obtain ⟨line, rest, rfl, inside⟩ := List.eq_append_cons_of_mem ends
    by_cases blank : Text.blank line = true
    · rw [carriedLine_blank line rest inside blank, carried_newline] at same
      cases line with
      | nil => exact carriedLine_ne width indents rest (List.cons.inj same).2
      | cons c line => exact inside ((List.cons.inj same).1 ▸ List.mem_cons_self)
    · have shown : opensBlank (line ++ '\n' :: rest) = false := by
        simp [opensBlank, takeWhile_line line rest inside, blank]
      rw [carriedLine, shown, if_neg Bool.false_ne_true, carried_append line _ inside, carried_newline,
        ← List.append_assoc] at same
      -- The lines up to the first line end differ.
      have lines := congrArg (List.takeWhile (· != '\n')) same
      have within : '\n' ∉ Text.spaces width ++ line := by
        rw [List.mem_append]
        exact fun member => member.elim (spaces_inside width) inside
      rw [takeWhile_line _ _ within, takeWhile_line _ _ inside] at lines
      have lengths := congrArg List.length lines
      rw [List.length_append, spaces_length] at lengths
      omega
  · have shown : opensBlank text = false := by simp [opensBlank, ends]
    rw [carriedLine, shown, if_neg Bool.false_ne_true, carried_within width text ends] at same
    have lengths := congrArg List.length same
    rw [List.length_append, spaces_length] at lengths
    omega
termination_by text.length
decreasing_by
  subst_vars
  simp only [List.length_append, List.length_cons]
  omega

theorem carried_eq_iff (width : Nat) (indents : 0 < width) (text : Text) :
    carried width text = text ↔ '\n' ∉ text := by
  refine ⟨?_, carried_within width text⟩
  intro same ends
  obtain ⟨line, rest, rfl, inside⟩ := List.eq_append_cons_of_mem ends
  rw [carried_append line _ inside, carried_newline] at same
  exact carriedLine_ne width indents rest (List.cons.inj (List.append_cancel_left same)).2

end Statewright.Code
