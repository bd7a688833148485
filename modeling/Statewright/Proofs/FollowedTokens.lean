import Statewright.Proofs.DeeperLines
import Statewright.Proofs.FollowedTexts
import Statewright.Proofs.TwinReadings

/-!
Telling tokens apart in a text, and in the same text where more follows it: inside brackets, or behind the name of a
field. The tokens are the same up to the place where the first text ends. A comment at its end goes on with what
follows.
-/
set_option autoImplicit false

namespace Statewright.Code

namespace Token

def isLast (token : Token) : Bool := token.lexeme = .finish || token.isBroken

-- What no line of an expression has.
def isStray (token : Token) : Bool := token.isBroken || token.nests

end Token

namespace Lexer

/-! ## The last token -/

def tokensFrom (position : Position) : List Token := scan (work position + 1) position

theorem tokensFrom_next (position next : Position) (tokens : List Token) (stepped : step position = (tokens, some next)) :
    tokensFrom position = tokens ++ tokensFrom next := by
  have less : work next < work position := step_leaves position next (by rw [stepped])
  unfold tokensFrom
  rw [scan, stepped]
  exact congrArg (tokens ++ ·) (scan_enough _ _ _ less (Nat.lt_succ_self _))

theorem tokensFrom_stop (position : Position) (tokens : List Token) (stepped : step position = (tokens, none)) :
    tokensFrom position = tokens := by
  unfold tokensFrom
  rw [scan, stepped]

-- The scan of a text has enough fuel.
theorem scan_text (text : Text) : scan (2 * text.length + 2) ⟨true, .start 1, text⟩ = tokensFrom ⟨true, .start 1, text⟩ := by
  refine scan_enough _ _ _ ?_ (Nat.lt_succ_self _)
  simp only [work, if_true]
  omega

-- A step that goes on gives no last token, and one that does not gives only that.
def EndsRight : Step → Prop
  | (tokens, some _) => ∀ token ∈ tokens, token.isLast = false
  | (tokens, none) => ∃ token, tokens = [token] ∧ token.isLast = true

section
variable (state : State)

theorem break_right (line : Nat) (insists : Bool) : EndsRight (State.stop (state.break_ line insists)) := ⟨_, rfl, rfl⟩

theorem finish_right : EndsRight (State.stop state.finish) := by
  unfold State.finish
  split
  · exact ⟨_, rfl, rfl⟩
  · exact break_right state _ _

theorem goOn_right (rest : Text) : EndsRight (state.goOn rest []) := nofun

theorem goOn_one_right (rest : Text) (token : Token) (inner : token.isLast = false) :
    EndsRight (state.goOn rest [token]) := by
  intro one member
  rwa [List.mem_singleton.mp member]

theorem nest_right (margin : Margin) (rest : Text) : EndsRight (nest state margin rest) := by
  unfold nest
  extract_lets wide narrow
  split
  · exact goOn_right _ _
  · exact goOn_one_right _ _ _ rfl
  · intro token member
    rw [List.eq_of_mem_replicate member]
    rfl
  · exact break_right state _ _

theorem lineStart_right (text : Text) : EndsRight (lineStart state text) := by
  unfold lineStart
  split
  · exact break_right state _ _
  · extract_lets state
    split
    · unfold skipLine
      split
      · exact nofun
      · exact finish_right state
    split
    · exact goOn_right state _
    · exact nest_right state _ _

theorem mark_right (c : Char) (rest : Text) : EndsRight (mark state c rest) := by
  unfold mark
  split
  · unfold openBracket
    split
    · exact break_right state _ _
    · exact goOn_one_right _ _ _ rfl
  · unfold closeBracket
    split
    · split
      · exact goOn_one_right _ _ _ rfl
      · exact break_right state _ _
    · exact break_right state _ _
  · split
    · exact goOn_one_right _ _ _ rfl
    · exact break_right state _ _

theorem wordOrMark_right (c : Char) (rest : Text) : EndsRight (wordOrMark state c rest) := by
  unfold wordOrMark
  extract_lets word after
  split
  · unfold string
    split
    · exact goOn_one_right _ _ _ rfl
    · exact break_right state _ _
  split
  · exact mark_right state c rest
  · unfold name
    split
    · exact goOn_one_right _ _ _ rfl
    split
    · exact goOn_one_right _ _ _ rfl
    · exact break_right state _ _

theorem inLine_right (text : Text) : EndsRight (inLine state text) := by
  unfold inLine
  split
  · exact finish_right state
  · split
    · exact finish_right state
    · exact goOn_right state _
  · intro token member
    split at member
    · rw [List.mem_singleton.mp member]
      rfl
    · cases member
  · exact goOn_right _ _
  · exact break_right state _ _
  · exact break_right state _ _
  · split
    · unfold number
      split
      · exact goOn_one_right _ _ _ rfl
      · exact break_right state _ _
    · exact wordOrMark_right state _ _

end

theorem step_right (position : Position) : EndsRight (step position) := by
  unfold step
  split
  · exact lineStart_right _ _
  · exact inLine_right _ _

theorem tokens_end (position : Position) :
    ∃ front last, tokensFrom position = front ++ [last] ∧ (∀ token ∈ front, token.isLast = false) ∧ last.isLast = true := by
  induction size : work position using Nat.strong_induction_on generalizing position with
  | _ size ih =>
      subst size
      have right := step_right position
      cases stepped : step position with
      | mk tokens next =>
          rw [stepped] at right
          cases next with
          | none =>
              obtain ⟨token, rfl, last⟩ := right
              exact ⟨[], token, tokensFrom_stop position _ stepped, nofun, last⟩
          | some next =>
              have less : work next < work position := step_leaves position next (by rw [stepped])
              obtain ⟨front, last, same, inner, ends⟩ := ih _ less next rfl
              refine ⟨tokens ++ front, last, ?_, ?_, ends⟩
              · rw [tokensFrom_next position next tokens stepped, same, List.append_assoc]
              · exact fun token member => (List.mem_append.mp member).elim (right token) (inner token)

-- What stands in front of the end of a text that ends well.
theorem tokens_before_finish (position : Position) (front rest : List Token) (token : Token)
    (same : tokensFrom position = front ++ token :: rest) (ended : token.lexeme = .finish) :
    rest = [] ∧ ∀ one ∈ tokensFrom position, one.isBroken = false := by
  obtain ⟨before, last, all, inner, _⟩ := tokens_end position
  have ends : token.isLast = true := by simp [Token.isLast, ended]
  rw [all] at same ⊢
  rcases List.eq_nil_or_concat rest with rfl | ⟨rest, other, rfl⟩
  · obtain ⟨rfl, lasts⟩ := List.append_inj' same rfl
    obtain rfl := (List.cons.inj lasts).1
    refine ⟨rfl, fun one member => ?_⟩
    rcases List.mem_append.mp member with member | member
    · have apart := inner one member
      simp only [Token.isLast, Bool.or_eq_false_iff] at apart
      exact apart.2
    · rw [List.mem_singleton.mp member, Token.isBroken, ended]
  · rw [List.concat_eq_append, ← List.cons_append, ← List.append_assoc] at same
    obtain ⟨rfl, -⟩ := List.append_inj' same rfl
    have apart := inner token (List.mem_append_right _ List.mem_cons_self)
    rw [ends] at apart
    cases apart

/-! ## Steps -/

-- Tokens that differ in where they stand.
def AlikeTokens (tokens others : List Token) : Prop :=
  List.Forall₂ (fun one two => one.lexeme.Alike two.lexeme) tokens others

-- Inside brackets the end of a line is no token.
def kept (base : List Bracket) (tokens : List Token) : List Token :=
  tokens.filter fun token => base.isEmpty || token.lexeme != .newline

-- Two states of which the other has further brackets open around it. No block is open in either.
structure Within (base : List Bracket) (state other : State) : Prop where
  columns : state.columns = []
  level : other.columns = []
  brackets : other.brackets.map (·.1) = state.brackets.map (·.1) ++ base

-- The same place of a text, alone and where a tail follows it.
structure Followed (base : List Bracket) (tail : Text) (position other : Position) : Prop where
  fresh : other.fresh = position.fresh
  text : other.text = position.text ++ tail
  within : Within base position.state other.state

def StepsOn (base : List Bracket) (tail : Text) (one other : Step) : Prop :=
  match one with
  | (tokens, none) => ∃ token ∈ tokens, token.isBroken = true
  | (tokens, some next) => (∃ token ∈ tokens, token.nests = true) ∨
      (base ≠ [] ∧ ∃ token ∈ other.1, token.isBroken = true) ∨
      ∃ after, other.2 = some after ∧ AlikeTokens (kept base tokens) other.1 ∧ Followed base tail next after

section
variable {base : List Bracket} {tail : Text} {state other : State}

theorem break_on (line : Nat) (insists : Bool) (step : Step) :
    StepsOn base tail (State.stop (state.break_ line insists)) step := ⟨_, List.mem_singleton_self _, rfl⟩

variable (within : Within base state other)
include within

theorem goOn_on (rest : Text) : StepsOn base tail (state.goOn rest []) (other.goOn (rest ++ tail) []) :=
  .inr (.inr ⟨_, rfl, .nil, rfl, rfl, within⟩)

theorem goOn_one_on (rest : Text) (token twin : Token) (inner : token.lexeme ≠ .newline)
    (alike : token.lexeme.Alike twin.lexeme) :
    StepsOn base tail (state.goOn rest [token]) (other.goOn (rest ++ tail) [twin]) := by
  have stays : kept base [token] = [token] := by simp [kept, inner]
  refine .inr (.inr ⟨_, rfl, ?_, rfl, rfl, within⟩)
  rw [stays]
  exact .cons alike .nil

theorem within_advance (text more : Text) : Within base (state.advance text) (other.advance more) := by
  unfold State.advance
  exact ⟨by split <;> exact within.columns, by split <;> exact within.level,
    by split <;> split <;> exact within.brackets⟩

theorem nextLine_on (rest : Text) (tokens others : List Token) (alike : AlikeTokens (kept base tokens) others) :
    StepsOn base tail (state.nextLine rest tokens) (other.nextLine (rest ++ tail) others) := by
  exact .inr (.inr ⟨_, rfl, alike, rfl, rfl, within_advance within rest (rest ++ tail)⟩)

variable (off : SetOff tail)
include off

omit within in
theorem startsNumber_on (c : Char) (rest : Text) : startsNumber c (rest ++ tail) = startsNumber c rest := by
  cases rest with
  | cons => rfl
  | nil =>
      cases tail with
      | nil => rfl
      | cons d tail =>
          have stops := Numeral.setsOff_no_digit d (off d rfl)
          simp [startsNumber, stops]

theorem number_on (c : Char) (rest : Text) : StepsOn base tail (number state c rest) (number other c (rest ++ tail)) := by
  unfold number
  by_cases point : c = '.'
  · simp only [point, if_true]
    cases found : Numeral.fraction rest with
    | none => exact break_on _ _ _
    | some result =>
        have also : Numeral.fraction (rest ++ tail) = some (result.1, result.2 ++ tail) :=
          Numeral.fraction_on off rest result.1 result.2 found
        rw [also]
        exact goOn_one_on within _ _ _ (fun same => Lexeme.noConfusion same) (.same _)
  · simp only [point, if_false]
    cases found : Numeral.read (c :: rest) with
    | none => exact break_on _ _ _
    | some result =>
        have also : Numeral.read (c :: (rest ++ tail)) = some (result.1, result.2 ++ tail) :=
          Numeral.read_on off (c :: rest) result.1 result.2 found
        rw [also]
        exact goOn_one_on within _ _ _ (fun same => Lexeme.noConfusion same) (.same _)

omit off in
theorem name_on (word rest : Text) : StepsOn base tail (name state word rest) (name other word (rest ++ tail)) := by
  unfold name
  cases keyword? word with
  | some known => exact goOn_one_on within _ _ _ (fun same => Lexeme.noConfusion same) (.same _)
  | none =>
      by_cases spelled : Text.isIdentifier word = true
      · simp only [spelled, if_true]
        exact goOn_one_on within _ _ _ (fun same => Lexeme.noConfusion same) (.same _)
      · simp only [spelled]
        exact break_on _ _ _

theorem string_on (raw bytes formatted unicode : Bool) (quote : Char) (inner : setsOff quote = false) (rest : Text) :
    StepsOn base tail (string state (⟨raw, bytes, formatted, unicode, ·, ·⟩) quote rest)
      (string other (⟨raw, bytes, formatted, unicode, ·, ·⟩) quote (rest ++ tail)) := by
  unfold string
  cases read : stringAt quote rest with
  | none => exact break_on _ _ _
  | some found =>
      obtain ⟨body, ends, left⟩ := found
      rw [string_at_on off quote inner rest body left ends read]
      have moved : Within base { state with line := state.line + ends } { other with line := other.line + ends } :=
        ⟨within.columns, within.level, within.brackets⟩
      exact goOn_one_on moved _ _ _ (fun same => Lexeme.noConfusion same) (.string _ _ _ _ _ _ _)

theorem mark_on (c : Char) (rest : Text) : StepsOn base tail (mark state c rest) (mark other c (rest ++ tail)) := by
  unfold mark
  cases opens : opening? c with
  | some bracket =>
      dsimp only
      unfold openBracket
      by_cases full : maxBrackets ≤ state.brackets.length
      · rw [if_pos full]
        exact break_on _ _ _
      by_cases overfull : maxBrackets ≤ other.brackets.length
      · rw [if_neg full, if_pos overfull]
        refine .inr (.inl ⟨?_, _, List.mem_singleton_self _, rfl⟩)
        rintro rfl
        have lengths := congrArg List.length within.brackets
        simp only [List.append_nil, List.length_map] at lengths
        exact full (lengths ▸ overfull)
      · rw [if_neg full, if_neg overfull]
        have moved : Within base { state with brackets := (bracket, state.line) :: state.brackets }
            { other with brackets := (bracket, other.line) :: other.brackets } :=
          ⟨within.columns, within.level, congrArg (bracket :: ·) within.brackets⟩
        exact goOn_one_on moved _ _ _ (fun same => Lexeme.noConfusion same) (.same _)
  | none =>
      cases closes : closing? c with
      | some bracket =>
          dsimp only
          unfold closeBracket
          have stacked := within.brackets
          cases stack : state.brackets with
          | nil => exact break_on _ _ _
          | cons top outer =>
              rw [stack] at stacked
              cases also : other.brackets with
              | nil =>
                  rw [also] at stacked
                  cases stacked
              | cons top' outer' =>
                  rw [also] at stacked
                  obtain ⟨same, below⟩ := List.cons.inj stacked
                  have fit : top'.1 = top.1 := same
                  dsimp only
                  rw [fit]
                  by_cases fits : top.1 = bracket
                  · rw [if_pos fits, if_pos fits]
                    have moved : Within base { state with brackets := outer } { other with brackets := outer' } :=
                      ⟨within.columns, within.level, below⟩
                    exact goOn_one_on moved _ _ _ (fun same => Lexeme.noConfusion same) (.same _)
                  · rw [if_neg fits]
                    exact break_on _ _ _
      | none =>
          dsimp only
          cases found : markAt (c :: rest) with
          | none => exact break_on _ _ _
          | some result =>
              have also : markAt (c :: (rest ++ tail)) = some (result.1, result.2 ++ tail) :=
                mark_at_on off (c :: rest) result.1 result.2 found
              rw [also]
              exact goOn_one_on within _ _ _ (fun same => Lexeme.noConfusion same) (.same _)

omit within in
theorem takeWhile_on (p : Char → Bool) (stops : ∀ c, setsOff c = true → p c = false) (text : Text) :
    (text ++ tail).takeWhile p = text.takeWhile p := by
  induction text with
  | nil =>
      cases tail with
      | nil => rfl
      | cons c tail => simp [stops c (off c rfl)]
  | cons c text ih =>
      by_cases taken : p c = true
      · simp [taken, ih]
      · simp [taken]

theorem wordOrMark_on (c : Char) (rest : Text) :
    StepsOn base tail (wordOrMark state c rest) (wordOrMark other c (rest ++ tail)) := by
  have words := takeWhile_on off Numeral.isWordChar Numeral.setsOff_no_word (c :: rest)
  unfold wordOrMark
  rw [← List.cons_append, words]
  have short : (if startsWord c then (c :: rest).takeWhile Numeral.isWordChar else []).length ≤ (c :: rest).length := by
    split
    · exact (List.takeWhile_prefix _).length_le
    · exact Nat.zero_le _
  generalize (if startsWord c then (c :: rest).takeWhile Numeral.isWordChar else []) = word at short
  dsimp only
  rw [List.drop_append_of_le_length short]
  generalize (c :: rest).drop word.length = left
  have otherwise_ : StepsOn base tail
      (if word.isEmpty then mark state c rest else name state word left)
      (if word.isEmpty then mark other c (rest ++ tail) else name other word (left ++ tail)) := by
    by_cases wordless : word.isEmpty = true
    · rw [if_pos wordless, if_pos wordless]
      exact mark_on within off c rest
    · rw [if_neg wordless, if_neg wordless]
      exact name_on within word left
  cases left with
  | nil =>
      have unquoted : quote? ([] ++ tail) = none := by
        cases tail with
        | nil => rfl
        | cons d tail => exact setsOff_all (fun d => quote? (d :: tail) = none) rfl rfl rfl rfl d (off d rfl)
      rw [unquoted]
      exact otherwise_
  | cons d left =>
      rw [List.cons_append, quote_cons d (left ++ tail) left]
      cases quoted : quote? (d :: left) with
      | none => exact otherwise_
      | some quote =>
          cases marked : stringMarks word with
          | none => exact otherwise_
          | some literal =>
              obtain ⟨marks, _, same⟩ := quote_marks _ quote quoted
              obtain ⟨rfl, rfl⟩ := List.cons.inj same
              obtain ⟨raw, bytes, formatted, unicode, rfl⟩ := stringMarks_flags word literal marked
              have inner : setsOff d = false := by rcases marks with rfl | rfl <;> rfl
              exact string_on within off raw bytes formatted unicode d inner left

omit within off in
theorem dropWhile_on (p : Char → Bool) (text rest : Text) (c : Char) (same : text.dropWhile p = c :: rest) :
    (text ++ tail).dropWhile p = c :: (rest ++ tail) := by
  rw [List.dropWhile_append, same]
  rfl

omit off in
theorem lineEnd_on : AlikeTokens (kept base (if state.brackets.isEmpty then [state.token .newline] else []))
    (if other.brackets.isEmpty then [other.token .newline] else []) := by
  have stacked := within.brackets
  cases stack : state.brackets with
  | cons top outer =>
      cases also : other.brackets with
      | nil =>
          rw [stack, also] at stacked
          cases stacked
      | cons => exact .nil
  | nil =>
      rw [stack] at stacked
      have same : other.brackets.isEmpty = base.isEmpty := by
        rw [← List.isEmpty_map, stacked]
        rfl
      cases base with
      | nil =>
          rw [same]
          exact .cons (.same _) .nil
      | cons =>
          rw [same]
          exact .nil

-- Nothing is left but a comment that no line end stops.
def isComment (text : Text) : Bool :=
  match text with
  | '#' :: rest => !rest.contains '\n'
  | _ => false

theorem inLine_on (text : Text) (rest : Text) (c : Char) (left : text.dropWhile isSpace = c :: rest)
    (code : isComment (c :: rest) = false) : StepsOn base tail (inLine state text) (inLine other (text ++ tail)) := by
  have also : (text ++ tail).dropWhile isSpace = c :: (rest ++ tail) := dropWhile_on isSpace text rest c left
  by_cases comment : c = '#'
  · subst comment
    cases ended : rest.dropWhile (· != '\n') with
    | nil =>
        have unended : '\n' ∉ rest := fun member => by simpa using List.dropWhile_eq_nil_iff.mp ended '\n' member
        simp [isComment, unended] at code
    | cons d more =>
        have further : (rest ++ tail).dropWhile (· != '\n') = d :: (more ++ tail) := dropWhile_on _ rest more d ended
        unfold inLine
        simp only [left, also, ended, further]
        exact goOn_on within (d :: more)
  by_cases line : c = '\n'
  · subst line
    unfold inLine
    rw [left, also]
    exact nextLine_on within rest _ _ (lineEnd_on within)
  by_cases escape : c = '\\'
  · subst escape
    cases rest with
    | nil =>
        have stray : inLine state text = State.stop (state.break_ state.line false) := by
          unfold inLine
          rw [left]
          rfl
        rw [stray]
        exact break_on _ _ _
    | cons d more =>
        by_cases joined : d = '\n'
        · subst joined
          unfold inLine
          rw [left, also]
          cases more with
          | nil => exact break_on _ _ _
          | cons e more =>
              have moved : Within base { state with line := state.line + 1 } { other with line := other.line + 1 } :=
                ⟨within.columns, within.level, within.brackets⟩
              exact goOn_on moved (e :: more)
        · rw [in_line_stray state text more d left joined]
          exact break_on _ _ _
  · rw [in_line_other state text rest c left comment line escape,
      in_line_other other (text ++ tail) (rest ++ tail) c also comment line escape, startsNumber_on off c rest]
    by_cases starts : startsNumber c rest = true
    · rw [if_pos starts, if_pos starts]
      exact number_on within off c rest
    · rw [if_neg starts, if_neg starts]
      exact wordOrMark_on within off c rest

-- A margin ends where it ends alone, on another line perhaps.
omit within off in
theorem measure_on (start : Margin) (text rest : Text) (c : Char) (margin : Margin) (line : Nat)
    (measured : measure start text = some (margin, c :: rest)) :
    ∃ last, measure { start with line } (text ++ tail) = some ({ margin with line := last }, c :: (rest ++ tail)) := by
  fun_induction measure start text generalizing line with
  | case1 start text ih => exact ih line measured
  | case2 start text ih => exact ih line measured
  | case3 start text ih => exact ih line measured
  | case4 start d text ih => exact ih (line + 1) measured
  | case5 => cases measured
  | case6 start text space tab feed _ escape =>
      obtain ⟨rfl, rfl⟩ := Prod.mk.inj (Option.some.inj measured)
      refine ⟨line, ?_⟩
      rw [List.cons_append, measure]
      · exact fun _ same => space rest (by rw [(List.cons.inj same).1])
      · exact fun _ same => tab rest (by rw [(List.cons.inj same).1])
      · exact fun _ same => feed rest (by rw [(List.cons.inj same).1])
      · exact fun _ _ same => escape rest (by rw [(List.cons.inj same).1])
      · exact fun _ same => escape rest (by rw [(List.cons.inj same).1])

omit within off in
theorem isBlankLine_cons (c : Char) (rest more : Text) : isBlankLine (c :: rest) = isBlankLine (c :: more) := by
  by_cases comment : c = '#'
  · simp [isBlankLine, comment]
  · by_cases line : c = '\n'
    · simp [isBlankLine, line]
    · simp [isBlankLine, comment, line]

omit within off in
theorem blank_line_ends (c : Char) (rest : Text) (blank : isBlankLine (c :: rest) = true)
    (code : isComment (c :: rest) = false) : ∃ more, (c :: rest).dropWhile (· != '\n') = '\n' :: more := by
  by_cases line : c = '\n'
  · subst line
    exact ⟨rest, rfl⟩
  · have comment : c = '#' := by
      unfold isBlankLine at blank
      split at blank <;> simp_all
    subst comment
    have ended : '\n' ∈ rest := by simpa [isComment] using code
    obtain ⟨before, more, rfl, inside⟩ := List.eq_append_cons_of_mem ended
    refine ⟨more, ?_⟩
    rw [← List.cons_append, List.dropWhile_append_of_pos]
    · rfl
    · exact within_line ('#' :: before) (by simpa using inside)

omit within off in
-- Where no block is open a margin opens one, or there is none.
theorem nesting_level (wide narrow : Nat) :
    nesting wide narrow [] = .same ∨ nesting wide narrow [] = .wrong ∨
      nesting wide narrow [] = .deeper [(wide, narrow)] := by
  by_cases flush : wide = 0
  · subst flush
    by_cases empty : narrow = 0
    · exact .inl (by simp [nesting, empty])
    · exact .inr (.inl (by simp [nesting, empty]))
  · have indented : 0 < wide := Nat.pos_of_ne_zero flush
    by_cases empty : narrow = 0
    · exact .inr (.inl (by simp [nesting, flush, indented, empty]))
    · exact .inr (.inr (by simp [nesting, flush, indented, empty, maxBlocks]))

omit off in
theorem lineStart_on (text rest : Text) (c : Char) (margin : Margin)
    (measured : measure ⟨0, 0, 0, state.line⟩ text = some (margin, c :: rest)) (code : isComment (c :: rest) = false) :
    StepsOn base tail (lineStart state text) (lineStart other (text ++ tail)) := by
  obtain ⟨last, also⟩ :
      ∃ last, measure ⟨0, 0, 0, other.line⟩ (text ++ tail) = some ({ margin with line := last }, c :: (rest ++ tail)) :=
    measure_on ⟨0, 0, 0, state.line⟩ text rest c margin other.line measured
  unfold lineStart
  rw [measured, also]
  dsimp only
  have moved : Within base { state with line := margin.line } { other with line := last } :=
    ⟨within.columns, within.level, within.brackets⟩
  rw [isBlankLine_cons c (rest ++ tail) rest]
  by_cases blank : isBlankLine (c :: rest) = true
  · rw [if_pos blank, if_pos blank]
    obtain ⟨more, ended⟩ := blank_line_ends c rest blank code
    have further : (c :: (rest ++ tail)).dropWhile (· != '\n') = '\n' :: (more ++ tail) :=
      dropWhile_on _ (c :: rest) more '\n' ended
    unfold skipLine
    rw [ended, further]
    exact nextLine_on moved more [] [] .nil
  · rw [if_neg blank, if_neg blank]
    have stacked := within.brackets
    cases stack : state.brackets with
    | cons top outer =>
        cases open_ : other.brackets with
        | nil =>
            rw [stack, open_] at stacked
            cases stacked
        | cons top' outer' =>
            rw [stack, open_] at moved
            exact goOn_on moved (c :: rest)
    | nil =>
        have columns := within.columns
        have level := within.level
        unfold nest
        simp only [List.isEmpty_nil, Bool.not_true, Bool.false_eq_true, if_false, columns, level]
        rcases nesting_level (if margin.held = 0 then margin.wide else margin.held)
          (if margin.held = 0 then margin.narrow else margin.held) with same | wrong | deeper
        · rw [stack, columns, level] at moved
          rw [same]
          dsimp only
          rw [ite_self]
          exact goOn_on moved (c :: rest)
        · rw [wrong]
          exact break_on _ _ _
        · rw [deeper]
          exact .inl ⟨_, List.mem_singleton_self _, rfl⟩

end

/-! ## Where a text is used up -/

-- What is left of the line at a position, past its spaces.
def left? (position : Position) : Option Text :=
  if position.fresh then (measure ⟨0, 0, 0, position.state.line⟩ position.text).map (·.2)
  else some (position.text.dropWhile isSpace)

def UsedUp (position : Position) : Prop := ∃ rest, left? position = some rest ∧ (rest = [] ∨ isComment rest = true)

section
variable {base : List Bracket} {tail : Text}

theorem step_on (off : SetOff tail) (position other : Position) (followed : Followed base tail position other) :
    UsedUp position ∨ StepsOn base tail (step position) (step other) := by
  obtain ⟨fresh, state, text⟩ := position
  obtain ⟨fresh', state', text'⟩ := other
  obtain ⟨same, also, within⟩ := followed
  dsimp only at same also within
  subst same also
  cases fresh' with
  | false =>
      cases left : text.dropWhile isSpace with
      | nil => exact .inl ⟨[], congrArg some left, .inl rfl⟩
      | cons c rest =>
          cases comment : isComment (c :: rest) with
          | true => exact .inl ⟨c :: rest, congrArg some left, .inr comment⟩
          | false => exact .inr (inLine_on within off text rest c left comment)
  | true =>
      cases measured : measure ⟨0, 0, 0, state.line⟩ text with
      | none =>
          refine .inr ?_
          have broken : step ⟨true, state, text⟩ = State.stop (state.break_ state.line false) := by
            rw [step, if_pos rfl, lineStart, measured]
          rw [broken]
          exact break_on _ _ _
      | some found =>
          obtain ⟨margin, rest⟩ := found
          have left : left? ⟨true, state, text⟩ = some rest := by rw [left?, if_pos rfl, measured]; rfl
          cases rest with
          | nil => exact .inl ⟨[], left, .inl rfl⟩
          | cons c rest =>
              cases comment : isComment (c :: rest) with
              | true => exact .inl ⟨c :: rest, left, .inr comment⟩
              | false => exact .inr (lineStart_on within text rest c margin measured comment)

end

theorem comment_unended (text : Text) (comment : isComment text = true) :
    ∃ rest, text = '#' :: rest ∧ rest.dropWhile (· != '\n') = [] ∧ text.dropWhile (· != '\n') = [] := by
  unfold isComment at comment
  split at comment
  · rename_i rest
    have unended : '\n' ∉ rest := by simpa using comment
    have all := within_line rest unended
    refine ⟨rest, rfl, List.dropWhile_eq_nil_iff.mpr all, List.dropWhile_eq_nil_iff.mpr ?_⟩
    exact within_line ('#' :: rest) (by simpa using unended)
  · cases comment

theorem finish_clean (state : State) (clean : ∀ token ∈ state.finish, token.isStray = false) :
    state.brackets = [] ∧ state.finish = [state.token .finish] := by
  unfold State.finish at clean ⊢
  cases stack : state.brackets with
  | nil => exact ⟨rfl, rfl⟩
  | cons top outer =>
      rw [stack] at clean
      cases clean _ (List.mem_singleton_self _)

theorem usedUp_tokens (position : Position) (level : position.state.columns = []) (used : UsedUp position)
    (clean : ∀ token ∈ tokensFrom position, token.isStray = false) :
    position.state.brackets = [] ∧ ∃ token, tokensFrom position = [token] ∧ token.lexeme = .finish := by
  obtain ⟨fresh, state, text⟩ := position
  obtain ⟨rest, left, ended⟩ := used
  dsimp only at level
  cases fresh with
  | false =>
      have stopped : step ⟨false, state, text⟩ = State.stop state.finish := by
        obtain same : text.dropWhile isSpace = rest := Option.some.inj left
        rw [step, if_neg Bool.false_ne_true, inLine, same]
        rcases ended with rfl | comment
        · rfl
        · obtain ⟨rest, rfl, unended, -⟩ := comment_unended rest comment
          simp only [unended]
      rw [tokensFrom_stop _ _ stopped] at clean ⊢
      obtain ⟨closed, finished⟩ := finish_clean state clean
      exact ⟨closed, _, finished, rfl⟩
  | true =>
      rw [left?, if_pos rfl] at left
      obtain ⟨⟨margin, found⟩, measured, same⟩ := Option.map_eq_some_iff.mp left
      obtain rfl : found = rest := same
      have stepped : step ⟨true, state, text⟩ = lineStart state text := rfl
      rw [lineStart, measured] at stepped
      rcases ended with rfl | comment
      · have finished (last : State) : tokensFrom ⟨false, last, []⟩ = last.finish := tokensFrom_stop _ _ rfl
        cases stack : state.brackets with
        | cons top outer =>
            simp only [isBlankLine, stack, List.isEmpty_cons, Bool.not_false, if_true, Bool.false_eq_true, if_false]
              at stepped
            rw [tokensFrom_next _ _ _ stepped, finished, List.nil_append] at clean
            cases (finish_clean _ clean).1
        | nil =>
            simp only [isBlankLine, stack, List.isEmpty_nil, Bool.not_true, Bool.false_eq_true, if_false, nest, level]
              at stepped
            rcases nesting_level (if margin.held = 0 then margin.wide else margin.held)
              (if margin.held = 0 then margin.narrow else margin.held) with same | wrong | deeper
            · rw [same] at stepped
              rw [tokensFrom_next _ _ _ stepped, finished]
              exact ⟨rfl, _, rfl, rfl⟩
            · rw [wrong] at stepped
              rw [tokensFrom_stop _ _ stepped] at clean
              cases clean _ (List.mem_singleton_self _)
            · rw [deeper] at stepped
              rw [tokensFrom_next _ _ _ stepped] at clean
              cases clean _ (List.mem_cons_self)
      · obtain ⟨rest, rfl, -, unended⟩ := comment_unended found comment
        simp only [isBlankLine, if_true, skipLine, unended] at stepped
        rw [tokensFrom_stop _ _ stepped] at clean ⊢
        obtain ⟨closed, finished⟩ := finish_clean _ clean
        exact ⟨closed, _, finished, rfl⟩

-- Inside a line, or inside brackets.
def Inside (position : Position) : Prop := position.fresh = false ∨ position.state.brackets ≠ []

def Steady (step : Step) : Prop := ∀ next, step.2 = some next → next.fresh = false

section
variable (state : State)

theorem stop_steady (tokens : List Token) : Steady (State.stop tokens) := nofun

theorem goOn_steady (rest : Text) (tokens : List Token) : Steady (state.goOn rest tokens) := by
  rintro next same
  cases same
  rfl

theorem number_steady (c : Char) (rest : Text) : Steady (number state c rest) := by
  unfold number
  split
  · exact goOn_steady _ _ _
  · exact stop_steady _

theorem mark_steady (c : Char) (rest : Text) : Steady (mark state c rest) := by
  unfold mark
  split
  · unfold openBracket
    split
    · exact stop_steady _
    · exact goOn_steady _ _ _
  · unfold closeBracket
    split
    · split
      · exact goOn_steady _ _ _
      · exact stop_steady _
    · exact stop_steady _
  · split
    · exact goOn_steady _ _ _
    · exact stop_steady _

theorem wordOrMark_steady (c : Char) (rest : Text) : Steady (wordOrMark state c rest) := by
  unfold wordOrMark
  extract_lets word after
  split
  · unfold string
    split
    · exact goOn_steady _ _ _
    · exact stop_steady _
  split
  · exact mark_steady state c rest
  · unfold name
    split
    · exact goOn_steady _ _ _
    split
    · exact goOn_steady _ _ _
    · exact stop_steady _

theorem nest_steady (margin : Margin) (rest : Text) : Steady (nest state margin rest) := by
  unfold nest
  extract_lets wide narrow
  split
  · exact goOn_steady _ _ _
  · exact goOn_steady _ _ _
  · exact goOn_steady _ _ _
  · exact stop_steady _

end

theorem advance_brackets (state : State) (rest : Text) : (state.advance rest).brackets = state.brackets := by
  unfold State.advance
  split <;> rfl

-- Only the end of a line leads outside, and is a token there.
theorem step_inside (position next : Position) (tokens : List Token) (inside : Inside position)
    (stepped : step position = (tokens, some next)) : Inside next ∨ ∃ token ∈ tokens, token.lexeme = .newline := by
  obtain ⟨fresh, state, text⟩ := position
  have steady {step : Step} (same : step = (tokens, some next)) (steady : Steady step) :
      Inside next ∨ ∃ token ∈ tokens, token.lexeme = .newline := .inl (.inl (steady next (by rw [same])))
  cases fresh with
  | true =>
      have opened : state.brackets ≠ [] := inside.resolve_left Bool.noConfusion
      have same : lineStart state text = (tokens, some next) := stepped
      unfold lineStart at same
      split at same
      · cases same
      · extract_lets state' at same
        split at same
        · unfold skipLine at same
          split at same
          · cases same
            refine .inl (.inr ?_)
            rw [advance_brackets]
            exact opened
          · cases same
        split at same
        · exact steady same (goOn_steady _ _ _)
        · exact steady same (nest_steady _ _ _)
  | false =>
      have same : inLine state text = (tokens, some next) := stepped
      unfold inLine at same
      split at same
      · cases same
      · split at same
        · cases same
        · exact steady same (goOn_steady _ _ _)
      · cases same
        cases stack : state.brackets with
        | nil => exact .inr ⟨_, List.mem_singleton_self _, rfl⟩
        | cons =>
            refine .inl (.inr ?_)
            rw [advance_brackets, stack]
            exact List.cons_ne_nil _ _
      · exact steady same (goOn_steady _ _ _)
      · cases same
      · cases same
      · split at same
        · exact steady same (number_steady _ _ _)
        · exact steady same (wordOrMark_steady _ _ _)

/-! ## Whole texts -/

-- From one position to a later one of the same text, with the tokens in between, alone and where a tail follows.
structure Runs (position last : Position) (front : List Token) : Prop where
  inside : Inside position → Inside last ∨ ∃ token ∈ front, token.lexeme = .newline
  follows : ∀ base tail other, SetOff tail → Followed base tail position other →
    (base ≠ [] → ∀ token ∈ tokensFrom other, token.isBroken = false) →
    ∃ others after, tokensFrom other = others ++ tokensFrom after ∧ AlikeTokens (kept base front) others ∧
      Followed base tail last after

theorem runs_here (position : Position) : Runs position position [] :=
  ⟨.inl, fun _ _ other _ followed _ => ⟨[], other, rfl, .nil, followed⟩⟩

theorem kept_append (base : List Bracket) (first second : List Token) :
    kept base (first ++ second) = kept base first ++ kept base second := List.filter_append ..

theorem followed_self (position : Position) (level : position.state.columns = []) : Followed [] [] position position :=
  ⟨rfl, (List.append_nil _).symm, level, level, (List.append_nil _).symm⟩

theorem unnested_of_clean (tokens : List Token) (clean : ∀ token ∈ tokens, token.isStray = false) :
    ¬ ∃ token ∈ tokens, token.nests = true := by
  rintro ⟨token, member, nests⟩
  have apart := clean token member
  rw [Token.isStray, nests, Bool.or_true] at apart
  cases apart

theorem level_next (position next : Position) (tokens : List Token) (stepped : step position = (tokens, some next))
    (level : position.state.columns = []) (unspent : ¬ UsedUp position)
    (clean : ∀ token ∈ tokens, token.isStray = false) : next.state.columns = [] := by
  have both := (step_on setOff_nil position position (followed_self position level)).resolve_left unspent
  rw [stepped] at both
  obtain ⟨after, -, -, further⟩ :=
    (both.resolve_left (unnested_of_clean tokens clean)).resolve_left fun broken => broken.1 rfl
  exact further.within.columns

theorem runs_step (position next last : Position) (tokens front : List Token)
    (stepped : step position = (tokens, some next)) (unspent : ¬ UsedUp position)
    (clean : ∀ token ∈ tokens, token.isStray = false) (runs : Runs next last front) :
    Runs position last (tokens ++ front) := by
  constructor
  · intro inside
    rcases step_inside position next tokens inside stepped with within | ⟨token, member, ends⟩
    · rcases runs.inside within with done | ⟨token, member, ends⟩
      · exact .inl done
      · exact .inr ⟨token, List.mem_append_right _ member, ends⟩
    · exact .inr ⟨token, List.mem_append_left _ member, ends⟩
  · intro base tail other off followed whole
    have both := (step_on off position other followed).resolve_left unspent
    rw [stepped] at both
    cases two : step other with
    | mk others next' =>
        rw [two] at both
        have unbroken : ¬ (base ≠ [] ∧ ∃ token ∈ others, token.isBroken = true) := by
          rintro ⟨inner, token, member, broken⟩
          have stands : token ∈ tokensFrom other := by
            cases next' with
            | none => rwa [tokensFrom_stop _ _ two]
            | some next' =>
                rw [tokensFrom_next _ _ _ two]
                exact List.mem_append_left _ member
          rw [whole inner token stands] at broken
          cases broken
        obtain ⟨after, rfl, alike, further⟩ :=
          (both.resolve_left (unnested_of_clean tokens clean)).resolve_left unbroken
        rw [tokensFrom_next _ _ _ two] at whole ⊢
        obtain ⟨more, last', same', alike', ended⟩ :=
          runs.follows base tail after off further fun inner token member =>
            whole inner token (List.mem_append_right _ member)
        refine ⟨others ++ more, last', by rw [same', List.append_assoc], ?_, ended⟩
        rw [kept_append]
        exact List.rel_append alike alike'

-- Every token of a text is one where more follows, up to the place where the text is used up.
theorem runs_to_end (position : Position) (level : position.state.columns = [])
    (clean : ∀ token ∈ tokensFrom position, token.isStray = false) :
    ∃ front token last, tokensFrom position = front ++ [token] ∧ token.lexeme = .finish ∧ UsedUp last ∧
      last.state.brackets = [] ∧ Runs position last front := by
  induction size : work position using Nat.strong_induction_on generalizing position with
  | _ size ih =>
      subst size
      by_cases spent : UsedUp position
      · obtain ⟨closed, token, same, finished⟩ := usedUp_tokens position level spent clean
        exact ⟨[], token, position, same, finished, spent, closed, runs_here position⟩
      cases stepped : step position with
      | mk tokens next =>
          cases next with
          | none =>
              have both := (step_on setOff_nil position position (followed_self position level)).resolve_left spent
              rw [stepped] at both
              obtain ⟨token, member, broken⟩ := both
              rw [tokensFrom_stop _ _ stepped] at clean
              have apart := clean token member
              rw [Token.isStray, broken] at apart
              cases apart
          | some next =>
              have less : work next < work position := step_leaves position next (by rw [stepped])
              rw [tokensFrom_next _ _ _ stepped] at clean ⊢
              have first : ∀ token ∈ tokens, token.isStray = false :=
                fun token member => clean token (List.mem_append_left _ member)
              obtain ⟨front, token, last, same, finished, used, closed, runs⟩ :=
                ih _ less next (level_next position next tokens stepped level spent first)
                  (fun token member => clean token (List.mem_append_right _ member)) rfl
              exact ⟨tokens ++ front, token, last, by rw [same, List.append_assoc], finished, used, closed,
                runs_step position next last tokens front stepped spent first runs⟩

/-! ## Where a text begins inside a line -/

theorem tokensFrom_congr (position other : Position) (same : step position = step other) :
    tokensFrom position = tokensFrom other := by
  cases one : step position with
  | mk tokens next =>
      have two : step other = (tokens, next) := by rw [← same, one]
      cases next with
      | none => rw [tokensFrom_stop _ _ one, tokensFrom_stop _ _ two]
      | some next => rw [tokensFrom_next _ _ _ one, tokensFrom_next _ _ _ two]

theorem space_passes (state : State) (c : Char) (text : Text) (space : isSpace c = true) :
    tokensFrom ⟨false, state, c :: text⟩ = tokensFrom ⟨false, state, text⟩ := by
  refine tokensFrom_congr _ _ ?_
  have same : (c :: text).dropWhile isSpace = text.dropWhile isSpace := by rw [List.dropWhile_cons, if_pos space]
  change inLine state (c :: text) = inLine state text
  unfold inLine
  rw [same]

-- A margin makes no token inside a line.
theorem margin_passes (tail : Text) (start margin : Margin) (text rest : Text) (c : Char) (state : State)
    (measured : measure start text = some (margin, c :: rest)) :
    ∃ line, tokensFrom ⟨false, state, text ++ tail⟩ = tokensFrom ⟨false, { state with line }, c :: (rest ++ tail)⟩ := by
  fun_induction measure start text generalizing state with
  | case1 start text ih =>
      obtain ⟨line, same⟩ := ih state measured
      exact ⟨line, (space_passes state _ _ rfl).trans same⟩
  | case2 start text ih =>
      obtain ⟨line, same⟩ := ih state measured
      exact ⟨line, (space_passes state _ _ rfl).trans same⟩
  | case3 start text ih =>
      obtain ⟨line, same⟩ := ih state measured
      exact ⟨line, (space_passes state _ _ rfl).trans same⟩
  | case4 start d text ih =>
      obtain ⟨line, same⟩ := ih { state with line := state.line + 1 } measured
      refine ⟨line, ?_⟩
      rw [← same]
      exact tokensFrom_next ⟨false, state, '\\' :: '\n' :: d :: (text ++ tail)⟩
        ⟨false, { state with line := state.line + 1 }, d :: (text ++ tail)⟩ [] rfl
  | case5 => cases measured
  | case6 =>
      obtain ⟨-, rfl⟩ := Prod.mk.inj (Option.some.inj measured)
      exact ⟨state.line, rfl⟩

theorem lineEnd_tokens (state : State) (text : Text) :
    tokensFrom ⟨false, state, '\n' :: text⟩ =
      (if state.brackets.isEmpty then [state.token .newline] else []) ++ tokensFrom ⟨true, state.advance text, text⟩ :=
  tokensFrom_next ⟨false, state, '\n' :: text⟩ ⟨true, state.advance text, text⟩ _ rfl

-- The rest of a line without code is passed over.
theorem blank_passes (state : State) (c : Char) (text more : Text) (blank : isBlankLine (c :: text) = true)
    (ended : (c :: text).dropWhile (· != '\n') = '\n' :: more) :
    tokensFrom ⟨false, state, c :: text⟩ = tokensFrom ⟨false, state, '\n' :: more⟩ := by
  by_cases line : c = '\n'
  · subst line
    obtain rfl : text = more := (List.cons.inj ended).2
    rfl
  · have comment : c = '#' := by
      unfold isBlankLine at blank
      split at blank <;> simp_all
    subst comment
    have below : text.dropWhile (· != '\n') = '\n' :: more := ended
    refine (tokensFrom_next _ ⟨false, state, '\n' :: more⟩ [] ?_).trans (List.nil_append _)
    change inLine state ('#' :: text) = _
    unfold inLine
    simp only [List.dropWhile_cons, show isSpace '#' = false from rfl, Bool.false_eq_true, if_false, below]
    rfl

-- A text that stands alone begins at the start of a line, and inside one where it is part of a line. What follows its
-- margin begins there and here, unless a line end is a token here.
theorem begins_on_line (state : State) (text : Text) (level : state.columns = []) (closed : state.brackets = [])
    (clean : ∀ token ∈ tokensFrom ⟨true, state, text⟩, token.isStray = false) (unspent : ¬ UsedUp ⟨true, state, text⟩) :
    ∃ next, step ⟨true, state, text⟩ = ([], some next) ∧
      ∀ base tail other, Within base state other →
        (base = [] ∧ ∃ token rest, tokensFrom ⟨false, other, text ++ tail⟩ = token :: rest ∧ token.lexeme = .newline) ∨
          ∃ after, tokensFrom ⟨false, other, text ++ tail⟩ = tokensFrom after ∧ Followed base tail next after ∧
            (base = [] → Inside next) := by
  have stepped : step ⟨true, state, text⟩ = lineStart state text := rfl
  cases measured : measure ⟨0, 0, 0, state.line⟩ text with
  | none =>
      rw [lineStart, measured] at stepped
      rw [tokensFrom_stop _ _ stepped] at clean
      cases clean _ (List.mem_singleton_self _)
  | some found =>
      obtain ⟨margin, rest⟩ := found
      have left : left? ⟨true, state, text⟩ = some rest := by
        rw [left?, if_pos rfl, measured]
        rfl
      cases rest with
      | nil => exact absurd ⟨[], left, .inl rfl⟩ unspent
      | cons c rest =>
          cases comment : isComment (c :: rest) with
          | true => exact absurd ⟨c :: rest, left, .inr comment⟩ unspent
          | false =>
              rw [lineStart, measured] at stepped
              dsimp only at stepped
              by_cases blank : isBlankLine (c :: rest) = true
              · obtain ⟨more, ends⟩ := blank_line_ends c rest blank comment
                rw [if_pos blank, skipLine, ends] at stepped
                refine ⟨_, stepped, fun base tail other within => ?_⟩
                obtain ⟨line, passed⟩ := margin_passes tail _ margin text rest c other measured
                have also : (c :: (rest ++ tail)).dropWhile (· != '\n') = '\n' :: (more ++ tail) :=
                  dropWhile_on _ (c :: rest) more '\n' ends
                rw [passed, blank_passes _ c _ _ (by rw [isBlankLine_cons c _ rest, blank]) also, lineEnd_tokens]
                have stacked := within.brackets
                rw [closed, List.map_nil, List.nil_append] at stacked
                cases base with
                | nil =>
                    have open_ : other.brackets = [] := List.map_eq_nil_iff.mp stacked
                    refine .inl ⟨rfl, ?_⟩
                    rw [open_]
                    exact ⟨_, _, rfl, rfl⟩
                | cons bracket base =>
                    have open_ : other.brackets ≠ [] := by
                      intro none_
                      rw [none_] at stacked
                      cases stacked
                    rw [if_neg (by simpa using open_), List.nil_append]
                    have moved : Within (bracket :: base) { state with line := margin.line } { other with line } :=
                      ⟨within.columns, within.level, within.brackets⟩
                    exact .inr ⟨_, rfl, ⟨rfl, rfl, within_advance moved _ _⟩, fun none_ => absurd none_ (List.cons_ne_nil _ _)⟩
              · rw [if_neg blank, closed] at stepped
                simp only [List.isEmpty_nil, Bool.not_true, Bool.false_eq_true, if_false, nest, level] at stepped
                rcases nesting_level (if margin.held = 0 then margin.wide else margin.held)
                  (if margin.held = 0 then margin.narrow else margin.held) with same | wrong | deeper
                · rw [same] at stepped
                  refine ⟨_, stepped, fun base tail other within => .inr ?_⟩
                  obtain ⟨line, passed⟩ := margin_passes tail _ margin text rest c other measured
                  have moved : Within base ⟨margin.line, [], []⟩ { other with line } := by
                    refine ⟨rfl, within.level, ?_⟩
                    rw [within.brackets, closed]
                  exact ⟨_, passed, ⟨rfl, rfl, moved⟩, fun _ => .inl rfl⟩
                · rw [wrong] at stepped
                  rw [tokensFrom_stop _ _ stepped] at clean
                  cases clean _ (List.mem_singleton_self _)
                · rw [deeper] at stepped
                  rw [tokensFrom_next _ _ _ stepped] at clean
                  cases clean _ List.mem_cons_self

-- What becomes of the tokens of a text that is part of a line. `last` is where the text is used up.
structure Continues (text : Text) (front : List Token) (last : Position) : Prop where
  used : UsedUp last
  closed : last.state.brackets = []
  runs : Runs ⟨true, .start 1, text⟩ last front
  inLine : ∀ base tail other, SetOff tail → Within base (.start 1) other →
    (base ≠ [] → ∀ token ∈ tokensFrom ⟨false, other, text ++ tail⟩, token.isBroken = false) →
    (base = [] ∧ ∃ token rest, tokensFrom ⟨false, other, text ++ tail⟩ = token :: rest ∧ token.lexeme = .newline) ∨
      ∃ others after, tokensFrom ⟨false, other, text ++ tail⟩ = others ++ tokensFrom after ∧
        AlikeTokens (kept base front) others ∧ Followed base tail last after ∧
        (base = [] → (∀ token ∈ front, token.lexeme ≠ .newline) → last.fresh = false)

theorem text_continues (text : Text) (clean : ∀ token ∈ tokensFrom ⟨true, .start 1, text⟩, token.isStray = false) :
    (∃ token, tokensFrom ⟨true, .start 1, text⟩ = [token] ∧ token.lexeme = .finish) ∨
      ∃ front token last, tokensFrom ⟨true, .start 1, text⟩ = front ++ [token] ∧ token.lexeme = .finish ∧
        Continues text front last := by
  by_cases spent : UsedUp ⟨true, .start 1, text⟩
  · exact .inl (usedUp_tokens _ rfl spent clean).2
  obtain ⟨next, stepped, begins⟩ := begins_on_line (.start 1) text rfl rfl clean spent
  have all := tokensFrom_next _ _ _ stepped
  rw [List.nil_append] at all
  rw [all] at clean ⊢
  obtain ⟨front, token, last, same, finished, used, closed, runs⟩ :=
    runs_to_end next (level_next _ next [] stepped rfl spent nofun) clean
  refine .inr ⟨front, token, last, same, finished, used, closed, runs_step _ next last [] front stepped spent nofun runs, ?_⟩
  intro base tail other off within whole
  rcases begins base tail other within with newline | ⟨after, begun, followed, inside⟩
  · exact .inl newline
  rw [begun] at whole ⊢
  obtain ⟨others, end_, same, alike, ended⟩ := runs.follows base tail after off followed whole
  refine .inr ⟨others, end_, same, alike, ended, fun outer unended => ?_⟩
  rcases runs.inside (inside outer) with (flat | opened) | ⟨token, member, ends⟩
  · exact flat
  · exact absurd closed opened
  · exact absurd ends (unended token member)

end Lexer

end Statewright.Code
