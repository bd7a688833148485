import Statewright.Proofs.DeeperMargins
import Statewright.Proofs.ParameterLists

/-!
Lists of parameters that are left blank. Blanks make no token, or one that begins no parameter; so a blank list that is
accepted has no parameters.
-/
set_option autoImplicit false

namespace Statewright.Code

open Reader Lexer Expression Statement

-- The numbers of the blank characters.
def blankCodes : List Nat :=
  List.range' 9 5 ++ List.range' 28 5 ++ [0x85, 0xa0, 0x1680] ++ List.range' 0x2000 11 ++
    [0x2028, 0x2029, 0x202f, 0x205f, 0x3000]

-- A character that begins no name, no mark and no number.
def stray (c : Char) : Bool :=
  !Text.startsIdentifier c && (opening? c).isNone && (closing? c).isNone && (markAt [c]).isNone && !c.isDigit &&
    c != '.' && c != '#' && c != '\\'

theorem blank_stray (c : Char) (blank : Text.isBlank c = true) : stray c = true := by
  have all : ∀ code ∈ blankCodes, stray (Char.ofNat code) = true := by decide +kernel
  have coded : c.toNat ∈ blankCodes := by
    simp only [Text.isBlank, Bool.or_eq_true, Bool.and_eq_true, decide_eq_true_eq] at blank
    simp only [blankCodes, List.mem_append, List.mem_range'_1, List.mem_cons, List.not_mem_nil]
    omega
  rw [← Char.ofNat_toNat c]
  exact all _ coded

theorem mark_at_alone (c : Char) (rest : Text) (alone : markAt [c] = none) : markAt (c :: rest) = none := by
  unfold markAt
  split
  all_goals first
    | rfl
    | (rename_i same; obtain ⟨rfl, _⟩ := List.cons.inj same; cases alone)

-- What a parameter can begin with.
def beginsItem : Lexeme → Bool
  | .name _ => true
  | .mark .slash => true
  | .mark .star => true
  | .mark .doubleStar => true
  | _ => false

section
variable (expression : Reader Expr) (hint starHint : Reader (Option Expr)) (read : ParamsRead) (turns : Nat)
  (token : Token) (more : List Token) (result : ParamsRead × List Token)

theorem plain_needs_name (foreign : beginsItem token.lexeme = false) :
    plainItem expression hint read turns (token :: more) ≠ .ok result := by
  obtain ⟨lexeme, line, depth⟩ := token
  intro ran
  cases lexeme with
  | name id => cases foreign
  | _ => cases ran

theorem item_needs_start (foreign : beginsItem token.lexeme = false) :
    paramItem expression hint starHint read turns (token :: more) ≠ .ok result := by
  unfold paramItem
  cases read.keywords with
  | some last =>
      rw [Option.isSome_some, if_pos rfl, fail_bind]
      exact fail_ne_ok turns _ result
  | none =>
      have plain := plain_needs_name expression hint read turns token more result foreign
      obtain ⟨lexeme, line, depth⟩ := token
      cases lexeme with
      | mark mark =>
          cases mark with
          | slash => cases foreign
          | star => cases foreign
          | doubleStar => cases foreign
          | _ => exact plain
      | _ => exact plain

end

-- The next token ends the list, or stands where no item can.
def NoItem : List Token → Prop
  | token :: _ => token.lexeme = .mark (.closing .round) ∨ beginsItem token.lexeme = false
  | [] => False

-- A place in a text where only blanks come before the bracket that ends a list of parameters.
structure Awaiting (position : Position) : Prop where
  bracket : ∃ opened outer, position.state.brackets = (.round, opened) :: outer
  blank : ∃ blanks rest, position.text = blanks ++ ')' :: rest ∧ Text.blank blanks = true

-- A step to a token, or on to another such place.
def Passes : Step → Prop
  | ([], some next) => Awaiting next
  | (tokens, _) => NoItem tokens

theorem word_or_mark_passes (state : Lexer.State) (c : Char) (rest : Text) (blank : Text.isBlank c = true) :
    Passes (wordOrMark state c rest) := by
  have strange := blank_stray c blank
  simp only [stray, Bool.and_eq_true, Bool.not_eq_true', Option.isNone_iff_eq_none] at strange
  obtain ⟨⟨⟨⟨⟨⟨⟨starts, opens⟩, closes⟩, marks⟩, _⟩, _⟩, _⟩, _⟩ := strange
  have foreign : Text.isIdentifier (if startsWord c = true then (c :: rest).takeWhile Numeral.isWordChar else []) =
      false := by
    split
    · rw [List.takeWhile_cons]
      split
      · rw [Text.isIdentifier, starts, Bool.false_and]
      · rfl
    · rfl
  unfold wordOrMark
  extract_lets word after
  split
  · unfold Lexer.string
    split
    · exact .inr rfl
    · exact .inr rfl
  · split
    · rw [mark, opens, closes]
      simp only [mark_at_alone c rest marks]
      exact .inr rfl
    · unfold Lexer.name
      split
      · exact .inr rfl
      · change Text.isIdentifier word = false at foreign
        rw [foreign]
        exact .inr rfl

theorem blanks_left (blanks : Text) (blank : Text.blank blanks = true) :
    Text.blank (blanks.dropWhile isSpace) = true :=
  List.all_eq_true.mpr fun c member => List.all_eq_true.mp blank c (List.dropWhile_sublist isSpace |>.mem member)

theorem measure_blanks (start : Margin) (blanks rest : Text) (blank : Text.blank blanks = true) :
    ∃ margin, Lexer.measure start (blanks ++ ')' :: rest) =
      some (margin, blanks.dropWhile isSpace ++ ')' :: rest) := by
  induction blanks generalizing start with
  | nil => exact ⟨start, measure_solid ')' rfl rest start⟩
  | cons c more ih =>
      obtain ⟨first, others⟩ := Bool.and_eq_true_iff.mp blank
      by_cases space : isSpace c = true
      · rw [List.dropWhile_cons_of_pos space]
        have told : c = ' ' ∨ c = '\t' ∨ c = '\x0c' := by simpa [isSpace, or_assoc] using space
        rcases told with rfl | rfl | rfl
        · exact ih _ others
        · exact ih _ others
        · exact ih _ others
      · rw [List.dropWhile_cons_of_neg space]
        have strange := blank_stray c first
        simp only [stray, Bool.and_eq_true, bne_iff_ne] at strange
        have apart : c ≠ ' ' ∧ c ≠ '\t' ∧ c ≠ '\x0c' := by simpa [isSpace, and_assoc] using space
        refine ⟨start, ?_⟩
        rw [List.cons_append, Lexer.measure] <;> simp [apart, strange.2]

section
variable (state : Lexer.State) (opened : Nat) (outer : List (Bracket × Nat))
  (bracket : state.brackets = (.round, opened) :: outer)
include bracket

theorem next_line_passes (blanks rest : Text) (blank : Text.blank blanks = true) :
    Passes (state.nextLine (blanks ++ ')' :: rest) []) := by
  refine ⟨⟨opened, outer, ?_⟩, blanks, rest, rfl, blank⟩
  simp only [Lexer.State.advance]
  split
  · exact bracket
  · exact bracket

theorem in_line_passes (blanks rest : Text) (blank : Text.blank blanks = true) :
    Passes (inLine state (blanks ++ ')' :: rest)) := by
  have left : (blanks ++ ')' :: rest).dropWhile isSpace = blanks.dropWhile isSpace ++ ')' :: rest := by
    rw [List.dropWhile_append]
    split
    · rename_i empty
      rw [List.isEmpty_iff.mp empty]
      rfl
    · rfl
  have still := blanks_left blanks blank
  have bracketed : state.brackets.isEmpty = false := by
    rw [bracket]
    rfl
  unfold inLine
  rw [left]
  cases others : blanks.dropWhile isSpace with
  | nil =>
      change Passes (closeBracket state .round rest)
      rw [closeBracket, bracket]
      exact .inl rfl
  | cons c more =>
      rw [others] at still
      obtain ⟨first, after⟩ := Bool.and_eq_true_iff.mp still
      have strange := blank_stray c first
      simp only [stray, Bool.and_eq_true, Bool.not_eq_true', bne_iff_ne] at strange
      obtain ⟨⟨⟨⟨_, noDigit⟩, noDot⟩, noHash⟩, noStroke⟩ := strange
      have counts : startsNumber c (more ++ ')' :: rest) = false := by simp [startsNumber, noDigit, noDot]
      simp only [List.cons_append, bracketed]
      split
      · rename_i same; cases same
      · rename_i same; exact absurd (List.cons.inj same).1 noHash
      · rename_i same
        obtain ⟨rfl, rfl⟩ := List.cons.inj same
        exact next_line_passes state opened outer bracket more rest after
      · rename_i same; exact absurd (List.cons.inj same).1 noStroke
      · rename_i same; exact absurd (List.cons.inj same).1 noStroke
      · rename_i same; exact absurd (List.cons.inj same).1 noStroke
      · rename_i same
        obtain ⟨rfl, rfl⟩ := List.cons.inj same
        rw [counts]
        exact word_or_mark_passes state _ _ first

theorem line_start_passes (blanks rest : Text) (blank : Text.blank blanks = true) :
    Passes (lineStart state (blanks ++ ')' :: rest)) := by
  obtain ⟨margin, measured⟩ := measure_blanks ⟨0, 0, 0, state.line⟩ blanks rest blank
  have still := blanks_left blanks blank
  have bracketed : state.brackets.isEmpty = false := by
    rw [bracket]
    rfl
  simp only [lineStart, measured]
  generalize blanks.dropWhile isSpace = others at still
  split
  · rename_i empty
    cases others with
    | nil => cases empty
    | cons c more =>
        obtain ⟨first, after⟩ := Bool.and_eq_true_iff.mp still
        have strange := blank_stray c first
        simp only [stray, Bool.and_eq_true, bne_iff_ne] at strange
        have newline : c = '\n' := by
          by_contra other
          simp [isBlankLine, other, strange.1.2] at empty
        subst newline
        exact next_line_passes { state with line := margin.line } opened outer bracket more rest after
  · simp only [bracketed, Bool.not_false, if_true]
    exact ⟨⟨opened, outer, bracket⟩, others, rest, rfl, still⟩

end

theorem step_passes (position : Position) (awaiting : Awaiting position) : Passes (step position) := by
  obtain ⟨fresh, state, text⟩ := position
  obtain ⟨⟨opened, outer, bracket⟩, blanks, rest, written, blank⟩ := awaiting
  change text = blanks ++ ')' :: rest at written
  subst written
  cases fresh with
  | true => exact line_start_passes state opened outer bracket blanks rest blank
  | false => exact in_line_passes state opened outer bracket blanks rest blank

theorem awaiting_scanned (fuel : Nat) (position : Position) (awaiting : Awaiting position) :
    NoItem (scan fuel position) := by
  induction fuel generalizing position with
  | zero => exact .inr rfl
  | succ fuel ih =>
      have passed := step_passes position awaiting
      rw [scan]
      cases stepped : step position with
      | mk tokens next =>
          rw [stepped] at passed
          cases tokens with
          | nil =>
              cases next with
              | none => cases passed
              | some later => exact ih later passed
          | cons token more =>
              cases next with
              | none => exact passed
              | some later => exact passed

theorem mem_even (text : Text) (c : Char) (member : c ∈ evenLineEnds text) : c = '\n' ∨ c ∈ text := by
  fun_induction evenLineEnds text with
  | case1 => cases member
  | case2 text ih =>
      rcases List.mem_cons.mp member with same | later
      · exact .inl same
      · exact (ih later).imp id fun inside => by simp [inside]
  | case3 text _ ih =>
      rcases List.mem_cons.mp member with same | later
      · exact .inl same
      · exact (ih later).imp id fun inside => by simp [inside]
  | case4 first text _ _ ih =>
      rcases List.mem_cons.mp member with rfl | later
      · exact .inr List.mem_cons_self
      · exact (ih later).imp id fun inside => by simp [inside]

theorem blank_even (text : Text) (blank : Text.blank text = true) : Text.blank (evenLineEnds text) = true := by
  refine List.all_eq_true.mpr fun c member => ?_
  rcases mem_even text c member with rfl | inside
  · rfl
  · exact List.all_eq_true.mp blank c inside

theorem blank_tokens (params : Text) (blank : Text.blank params = true) : NoItem (listTokens params) :=
  awaiting_scanned _ _ ⟨⟨1, [], rfl⟩, evenLineEnds params, Text.fixed ": pass\n", rfl, blank_even params blank⟩

theorem no_item_closes (inner : Rules) (fuel : Nat) (read : ParamsRead) (turns : Nat) (tokens : List Token)
    (result : Params × List Token) (ended : NoItem tokens)
    (ran : iterate (listTurn inner) (fuel + 1) read turns tokens = .ok result) :
    closedList read turns tokens = .ok result := by
  rw [list_turn, bind_read] at ran
  cases tokens with
  | nil => cases ended
  | cons token more =>
      rw [isMark_read] at ran
      by_cases closing : token.lexeme = .mark (.closing .round)
      · rw [closing, beq_self_eq_true] at ran
        exact ran
      · rw [beq_false_of_ne closing] at ran
        obtain ⟨one, left, item, _⟩ := (bind_read_ok _ _ _ _ _).mp ran
        exact absurd item (item_needs_start _ _ _ _ _ _ _ _ (ended.resolve_left closing))

-- A list that is left blank has no parameters, wherever it stands.
theorem blank_list_empty (params : Text) (read : Params) (blank : Text.blank params = true)
    (accepted : readMethodParams params = .ok read) : read = ⟨[], [], none, [], none⟩ := by
  cases filled : params.isEmpty with
  | true =>
      obtain rfl := List.isEmpty_iff.mp filled
      have empty : readMethodParams [] = .ok ⟨[], [], none, [], none⟩ := by rfl
      rw [empty] at accepted
      exact (Except.ok.inj accepted).symm
  | false =>
      obtain ⟨_, found, left, _, list, _, rfl⟩ := (method_read params read filled).mp accepted
      have closed := no_item_closes _ _ _ _ _ _ (blank_tokens params blank) list
      cases closed
      rfl

end Statewright.Code
