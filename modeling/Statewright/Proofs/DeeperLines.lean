import Statewright.Proofs.DeeperMargins

/-!
Steps of telling tokens apart in a text and in a deeper one. Both go from line to line and from token to token together.
Inside one more block the lines nest in the same way, and only strings over several lines hold something else.
-/
set_option autoImplicit false

namespace Statewright.Code

/-! Tokens and positions. -/

namespace Token

def carried (width : Nat) (token : Token) : Token :=
  match token.lexeme with
  | .string literal => { token with lexeme := .string { literal with body := Code.carried width literal.body } }
  | _ => token

def isBroken (token : Token) : Bool :=
  match token.lexeme with
  | .broken _ => true
  | _ => false

def nests (token : Token) : Bool := token.lexeme = .indent || token.lexeme = .dedent

end Token

-- Blocks that open below others leave room for one more around them.
def shallow : Nat → List Token → Bool
  | _, [] => true
  | depth, token :: rest =>
    if token.lexeme = .indent then depth + 2 < Lexer.maxBlocks && shallow (depth + 1) rest
    else if token.lexeme = .dedent then shallow (depth - 1) rest
    else shallow depth rest

theorem shallow_plain (depth : Nat) (tokens rest : List Token) (plain : ∀ token ∈ tokens, token.nests = false) :
    shallow depth (tokens ++ rest) = shallow depth rest := by
  induction tokens with
  | nil => rfl
  | cons token tokens ih =>
      have first := plain token List.mem_cons_self
      have apart : token.lexeme ≠ .indent ∧ token.lexeme ≠ .dedent := by simpa [Token.nests] using first
      rw [List.cons_append, shallow, if_neg apart.1, if_neg apart.2]
      exact ih fun token member => plain token (List.mem_cons_of_mem _ member)

theorem shallow_dedents (depth count : Nat) (token : Token) (ends : token.lexeme = .dedent) (rest : List Token) :
    shallow depth (List.replicate count token ++ rest) = shallow (depth - count) rest := by
  induction count generalizing depth with
  | zero => rfl
  | succ count ih =>
      rw [List.replicate_succ, List.cons_append, shallow, if_neg (by simp [ends]), if_pos ends, ih]
      congr 1
      omega

namespace Lexer

open Text.Block (isMargin)

theorem deeper_isEmpty {width : Nat} {text other : Text} (deeper : Deeper width true text other) :
    other.isEmpty = text.isEmpty := by
  cases deeper with
  | done => rfl
  | empty => simp
  | line margin c text other =>
      have one : (margin ++ c :: text).isEmpty = false := List.isEmpty_eq_false_iff.mpr (by simp)
      have two : (Text.spaces width ++ (margin ++ c :: other)).isEmpty = false := List.isEmpty_eq_false_iff.mpr (by simp)
      rw [one, two]

theorem deeper_line_end {width : Nat} {text other : Text} (deeper : Deeper width false text other) :
    ∃ rest after, text.dropWhile (· != '\n') = '\n' :: rest ∧ other.dropWhile (· != '\n') = '\n' :: after ∧
      Deeper width true rest after := by
  obtain ⟨_, ended⟩ := deeper_dropWhile (· != '\n') rfl deeper
  have stops : ∀ c rest, text.dropWhile (· != '\n') = c :: rest → c = '\n' := by
    intro c rest same
    have first := List.head?_dropWhile_not (· != '\n') text
    rw [same] at first
    simpa using first
  cases dropped : text.dropWhile (· != '\n') with
  | nil =>
      rw [dropped] at ended
      cases ended
  | cons c rest =>
      obtain rfl := stops c rest dropped
      rw [dropped] at ended
      obtain ⟨after, same, _, below⟩ := deeper_cons ended
      exact ⟨rest, after, rfl, same, below rfl⟩

theorem space_of_margin (margin : Text) (only : margin.all isMargin = true) : ∀ c ∈ margin, isSpace c = true := by
  intro c member
  rcases margin_cases margin only c member with rfl | rfl <;> rfl

-- In the middle of a statement the margin of a line does not count.
theorem deeper_spaces {width : Nat} {text other : Text} (deeper : Deeper width true text other) (more : text ≠ []) :
    Deeper width false (text.dropWhile isSpace) (other.dropWhile isSpace) := by
  cases deeper with
  | done => exact absurd rfl more
  | empty margin text other only further =>
      rw [List.dropWhile_append_of_pos (space_of_margin margin only)]
      simpa [isSpace] using Deeper.ends text other further
  | line margin c text other only even starts further =>
      have stays : isSpace c = false := by
        by_contra space
        have blank : (c = ' ' ∨ c = '\t') ∨ c = '\x0c' := by
          simpa only [isSpace, Bool.not_eq_false, Bool.or_eq_true, decide_eq_true_eq] using space
        rcases blank with (rfl | rfl) | rfl <;> cases starts
      rw [List.dropWhile_append_of_pos (space_of_margin _ (spaces_margin width)),
        List.dropWhile_append_of_pos (space_of_margin margin only),
        List.dropWhile_append_of_pos (space_of_margin margin only)]
      simpa [stays] using further

theorem starts_number_deeper {width : Nat} (c : Char) {rest other : Text} (deeper : Deeper width false rest other) :
    startsNumber c other = startsNumber c rest := by
  cases rest with
  | nil => cases deeper
  | cons d rest =>
      obtain ⟨_, rfl, _⟩ := deeper_cons deeper
      rfl

theorem in_line_stray (state : State) (text rest : Text) (c : Char) (same : text.dropWhile isSpace = '\\' :: c :: rest)
    (stray : c ≠ '\n') : inLine state text = State.stop (state.break_ state.line false) := by
  unfold inLine
  rw [same]
  split <;> grind

theorem in_line_other (state : State) (text rest : Text) (c : Char) (same : text.dropWhile isSpace = c :: rest)
    (comment : c ≠ '#') (line : c ≠ '\n') (escape : c ≠ '\\') :
    inLine state text = if startsNumber c rest then number state c rest else wordOrMark state c rest := by
  unfold inLine
  rw [same]
  split <;> simp_all

theorem stringMarks_flags (word : Text) (literal : Nat → Text → Literal) (marked : stringMarks word = some literal) :
    ∃ raw bytes formatted unicode, literal = (⟨raw, bytes, formatted, unicode, ·, ·⟩) := by
  unfold stringMarks at marked
  extract_lets lower at marked
  repeat' split at marked
  all_goals cases marked
  all_goals exact ⟨_, _, _, _, rfl⟩

theorem quote_marks (text : Text) (quote : Char) (found : quote? text = some quote) :
    (quote = '"' ∨ quote = '\'') ∧ ∃ rest, text = quote :: rest := by
  unfold quote? at found
  split at found
  · cases found
    exact ⟨.inl rfl, _, rfl⟩
  · cases found
    exact ⟨.inr rfl, _, rfl⟩
  · cases found

theorem quote_cons (c : Char) (rest other : Text) : quote? (c :: rest) = quote? (c :: other) := by
  by_cases double : c = '"'
  · simp [quote?, double]
  · by_cases single : c = '\''
    · simp [quote?, single]
    · simp [quote?, double, single]

theorem drop_takeWhile (p : Char → Bool) (text : Text) : text.drop (text.takeWhile p).length = text.dropWhile p := by
  induction text with
  | nil => rfl
  | cons c text ih =>
      by_cases taken : p c = true
      · simp [taken, ih]
      · simp [taken]

def State.deeper (width : Nat) (state : State) : State := { state with columns := inside width state.columns }

-- Two positions on the same line, or at the same token, of a text and a deeper one.
structure Moved (width : Nat) (position other : Position) : Prop where
  fresh : other.fresh = position.fresh
  state : other.state = position.state.deeper width
  nested : Nested width position.state.columns
  text : if position.fresh then Deeper width true position.text other.text
    else Deeper width false (position.text.dropWhile isSpace) (other.text.dropWhile isSpace)

-- A step at one position and the step at the other give the same tokens, apart from what strings hold. The columns are
-- those before the step.
def StepsDeeper (width : Nat) (columns : List (Nat × Nat)) (one other : Step) : Prop :=
  match one with
  | (tokens, none) => ∃ token ∈ tokens, token.isBroken = true
  | (tokens, some next) => ∀ rest, shallow columns.length (tokens ++ rest) = true →
      shallow next.state.columns.length rest = true ∧
        ∃ after, other = (tokens.map (Token.carried width), some after) ∧ Moved width next after

section
variable {width : Nat} (state : State)

theorem breaks_deeper (columns : List (Nat × Nat)) (line : Nat) (insists : Bool) (other : Step) :
    StepsDeeper width columns (State.stop (state.break_ line insists)) other :=
  ⟨_, List.mem_singleton_self _, rfl⟩

variable (nested : Nested width state.columns)
include nested

theorem go_on_deeper (rest other : Text) (tokens : List Token) (plain : ∀ token ∈ tokens, token.nests = false)
    (deeper : Deeper width false rest other) :
    StepsDeeper width state.columns (state.goOn rest tokens)
      ((state.deeper width).goOn other (tokens.map (Token.carried width))) := by
  intro more enough
  rw [shallow_plain _ _ _ plain] at enough
  exact ⟨enough, _, rfl, rfl, rfl, nested, (deeper_dropWhile isSpace rfl deeper).2⟩

theorem go_on_one (rest other : Text) (token : Token) (plain : token.nests = false)
    (deeper : Deeper width false rest other) :
    StepsDeeper width state.columns (state.goOn rest [token])
      ((state.deeper width).goOn other [token.carried width]) := by
  apply go_on_deeper state nested rest other [token] _ deeper
  intro one member
  rwa [List.mem_singleton.mp member]

theorem number_deeper (c : Char) (rest other : Text) (starts : startsNumber c rest = true)
    (deeper : Deeper width false (c :: rest) (c :: other)) :
    StepsDeeper width state.columns (number state c rest) (number (state.deeper width) c other) := by
  have further : Deeper width false rest other := by
    obtain ⟨_, same, within, _⟩ := deeper_cons deeper
    obtain rfl := (List.cons.inj same).2
    apply within
    rintro rfl
    cases starts
  unfold number
  by_cases point : c = '.'
  · simp only [point, if_true]
    cases found : Numeral.fraction rest with
    | none => exact breaks_deeper state _ _ _ _
    | some result =>
        obtain ⟨after, also, below⟩ := Numeral.fraction_deeper _ _ result.1 result.2 further found
        rw [also]
        exact go_on_one state nested _ _ _ rfl below
  · simp only [point, if_false]
    cases found : Numeral.read (c :: rest) with
    | none => exact breaks_deeper state _ _ _ _
    | some result =>
        obtain ⟨after, also, below⟩ := Numeral.read_deeper _ _ result.1 result.2 deeper found
        rw [also]
        exact go_on_one state nested _ _ _ rfl below

theorem name_deeper (word rest other : Text) (deeper : Deeper width false rest other) :
    StepsDeeper width state.columns (name state word rest) (name (state.deeper width) word other) := by
  unfold name
  cases keyword? word with
  | some known => exact go_on_one state nested _ _ _ rfl deeper
  | none =>
      by_cases spelled : Text.isIdentifier word = true
      · simp only [spelled, if_true]
        exact go_on_one state nested _ _ _ rfl deeper
      · simp only [spelled]
        exact breaks_deeper state _ _ _ _

theorem string_deeper (raw bytes formatted unicode : Bool) (quote : Char) (marks : quote = '"' ∨ quote = '\'')
    (rest other : Text) (deeper : Deeper width false rest other) :
    StepsDeeper width state.columns (string state (⟨raw, bytes, formatted, unicode, ·, ·⟩) quote rest)
      (string (state.deeper width) (⟨raw, bytes, formatted, unicode, ·, ·⟩) quote other) := by
  unfold string
  cases read : stringAt quote rest with
  | none => exact breaks_deeper state _ _ _ _
  | some found =>
      obtain ⟨body, ends, left⟩ := found
      obtain ⟨after, also, below⟩ := string_at_deeper quote marks rest body left other ends read deeper
      rw [also]
      exact go_on_one { state with line := state.line + ends } nested left after
        (state.token (.string ⟨raw, bytes, formatted, unicode, state.line, body⟩)) rfl below

theorem mark_deeper (c : Char) (rest other : Text) (within : c ≠ '\n') (deeper : Deeper width false rest other) :
    StepsDeeper width state.columns (mark state c rest) (mark (state.deeper width) c other) := by
  unfold mark
  cases opens : opening? c with
  | some bracket =>
      dsimp only
      unfold openBracket
      by_cases full : maxBrackets ≤ state.brackets.length
      · rw [if_pos full]
        exact breaks_deeper state _ _ _ _
      · have also : ¬ maxBrackets ≤ (state.deeper width).brackets.length := full
        rw [if_neg full, if_neg also]
        exact go_on_one { state with brackets := (bracket, state.line) :: state.brackets } nested _ _ _ rfl deeper
  | none =>
      cases closes : closing? c with
      | some bracket =>
          dsimp only
          unfold closeBracket
          have same : (state.deeper width).brackets = state.brackets := rfl
          rw [same]
          cases stack : state.brackets with
          | nil => exact breaks_deeper state _ _ _ _
          | cons top outer =>
              by_cases fits : top.1 = bracket
              · simp only [fits, if_true]
                exact go_on_one { state with brackets := outer } nested _ _ _ rfl deeper
              · simp only [fits, if_false]
                exact breaks_deeper state _ _ _ _
      | none =>
          dsimp only
          cases found : markAt (c :: rest) with
          | none => exact breaks_deeper state _ _ _ _
          | some result =>
              obtain ⟨after, also, below⟩ :=
                mark_at_deeper _ _ result.1 result.2 (.char c rest other within deeper) found
              rw [also]
              exact go_on_one state nested _ _ _ rfl below

theorem word_or_mark_deeper (c : Char) (rest other : Text) (within : c ≠ '\n') (deeper : Deeper width false rest other) :
    StepsDeeper width state.columns (wordOrMark state c rest) (wordOrMark (state.deeper width) c other) := by
  have whole : Deeper width false (c :: rest) (c :: other) := .char c rest other within deeper
  obtain ⟨words, after⟩ := deeper_dropWhile Numeral.isWordChar (by decide) whole
  rw [← drop_takeWhile, ← drop_takeWhile, ← words] at after
  unfold wordOrMark
  rw [← words]
  generalize worded : (if startsWord c then (c :: rest).takeWhile Numeral.isWordChar else []) = word
  have left : Deeper width false ((c :: rest).drop word.length) ((c :: other).drop word.length) := by
    rw [← worded]
    by_cases starts : startsWord c = true
    · rw [if_pos starts]
      exact after
    · rw [if_neg starts]
      exact whole
  dsimp only
  generalize (c :: rest).drop word.length = one at left
  generalize (c :: other).drop word.length = two at left
  have otherwise_ : StepsDeeper width state.columns
      (if word.isEmpty then mark state c rest else name state word one)
      (if word.isEmpty then mark (state.deeper width) c other else name (state.deeper width) word two) := by
    by_cases wordless : word.isEmpty = true
    · rw [if_pos wordless, if_pos wordless]
      exact mark_deeper state nested c rest other within deeper
    · rw [if_neg wordless, if_neg wordless]
      exact name_deeper state nested word one two left
  cases one with
  | nil => cases left
  | cons d one =>
      obtain ⟨two, rfl, further, _⟩ := deeper_cons left
      rw [quote_cons d two one]
      cases quoted : quote? (d :: one) with
      | none => exact otherwise_
      | some quote =>
          cases marked : stringMarks word with
          | none => exact otherwise_
          | some literal =>
              obtain ⟨marks, _, same⟩ := quote_marks _ quote quoted
              obtain ⟨rfl, rfl⟩ := List.cons.inj same
              obtain ⟨raw, bytes, formatted, unicode, rfl⟩ := stringMarks_flags word literal marked
              have inline : d ≠ '\n' := by rcases marks with rfl | rfl <;> decide
              exact string_deeper state nested raw bytes formatted unicode d marks one two (further inline)

theorem next_line_deeper (rest other : Text) (tokens : List Token) (plain : ∀ token ∈ tokens, token.nests = false)
    (deeper : Deeper width true rest other) :
    StepsDeeper width state.columns (state.nextLine rest tokens)
      ((state.deeper width).nextLine other (tokens.map (Token.carried width))) := by
  intro more enough
  rw [shallow_plain _ _ _ plain] at enough
  have same : (state.deeper width).advance other = (state.advance rest).deeper width := by
    unfold State.advance
    rw [deeper_isEmpty deeper]
    split <;> rfl
  have columns : (state.advance rest).columns = state.columns := by
    unfold State.advance
    split <;> rfl
  refine ⟨by rwa [columns], _, rfl, rfl, same, ?_, deeper⟩
  rwa [columns]

theorem in_line_deeper (text other : Text) (deeper : Deeper width false (text.dropWhile isSpace) (other.dropWhile isSpace)) :
    StepsDeeper width state.columns (inLine state text) (inLine (state.deeper width) other) := by
  cases one : text.dropWhile isSpace with
  | nil =>
      rw [one] at deeper
      cases deeper
  | cons c rest =>
      rw [one] at deeper
      obtain ⟨after, two, within, below⟩ := deeper_cons deeper
      by_cases comment : c = '#'
      · subst comment
        obtain ⟨last, left, ended, also, further⟩ := deeper_line_end (within (by decide))
        unfold inLine
        simp only [one, two, ended, also]
        exact go_on_deeper state nested _ _ [] nofun (.ends last left further)
      by_cases line : c = '\n'
      · subst line
        have plain : ∀ token ∈ (if state.brackets.isEmpty then [state.token .newline] else []), token.nests = false := by
          intro token member
          split at member
          · rw [List.mem_singleton.mp member]
            rfl
          · cases member
        have tokens : (if state.brackets.isEmpty then [state.token .newline] else []).map (Token.carried width) =
            (if (state.deeper width).brackets.isEmpty then [(state.deeper width).token .newline] else []) := by
          change _ = (if state.brackets.isEmpty then [state.token .newline] else [])
          split <;> rfl
        have next := next_line_deeper state nested rest after _ plain (below rfl)
        rw [tokens] at next
        unfold inLine
        rw [one, two]
        exact next
      by_cases escape : c = '\\'
      · subst escape
        have further := within (by decide)
        cases rest with
        | nil => cases further
        | cons d rest =>
            obtain ⟨after, rfl, _, below⟩ := deeper_cons further
            by_cases joined : d = '\n'
            · subst joined
              unfold inLine
              rw [one, two]
              cases rest with
              | nil => exact breaks_deeper state _ _ _ _
              | cons e rest =>
                  have begun := deeper_isEmpty (below rfl)
                  cases after with
                  | nil => cases begun
                  | cons f after =>
                      intro more enough
                      exact ⟨enough, _, rfl, rfl, rfl, nested, deeper_spaces (below rfl) (List.cons_ne_nil e rest)⟩
            · rw [in_line_stray state text rest d one joined]
              exact breaks_deeper state _ _ _ _
      · have inline := within line
        rw [two] at deeper
        rw [in_line_other state text rest c one comment line escape,
          in_line_other (state.deeper width) other after c two comment line escape, starts_number_deeper c inline]
        by_cases starts : startsNumber c rest = true
        · rw [if_pos starts, if_pos starts]
          exact number_deeper state nested c rest after starts deeper
        · rw [if_neg starts, if_neg starts]
          exact word_or_mark_deeper state nested c rest after line inline

theorem nest_deeper (column : Nat × Nat) (told : Told width column) (line : Nat) (rest other : Text)
    (deeper : Deeper width false (rest.dropWhile isSpace) (other.dropWhile isSpace)) :
    StepsDeeper width state.columns (nest state ⟨column.1, column.2, 0, line⟩ rest)
      (nest (state.deeper width) ⟨(shifted width column).1, (shifted width column).2, 0, line⟩ other) := by
  have also := nesting_inside nested told
  simp only [nest, if_true]
  have columns : (state.deeper width).columns = inside width state.columns := rfl
  rw [columns]
  cases stands : nesting column.1 column.2 state.columns with
  | same =>
      rw [stands] at also
      dsimp only at also
      rw [also]
      intro more enough
      exact ⟨enough, _, rfl, rfl, rfl, nested, deeper⟩
  | deeper deep =>
      rw [stands] at also
      dsimp only at also
      obtain ⟨rfl, below⟩ := nesting_deeper column.1 column.2 state.columns deep stands
      intro more enough
      have room : (state.columns.length + 2 < maxBlocks && shallow (state.columns.length + 1) more) = true := enough
      rw [Bool.and_eq_true, decide_eq_true_eq] at room
      rw [also room.1]
      exact ⟨room.2, _, rfl, rfl, rfl, nested_cons nested told below, deeper⟩
  | shallower ended left =>
      rw [stands] at also
      dsimp only at also
      obtain ⟨suffix, lengths⟩ := nesting_shallower column.1 column.2 ended state.columns left stands
      rw [also]
      intro more enough
      rw [shallow_dedents _ _ _ rfl] at enough
      have remaining : state.columns.length - ended = left.length := by omega
      rw [remaining] at enough
      refine ⟨enough, ⟨false, { state with columns := inside width left }, other⟩, ?_, rfl, rfl, ?_, deeper⟩
      · rw [List.map_replicate]
        rfl
      · exact nested_suffix nested suffix
  | wrong => exact breaks_deeper state _ _ _ _

omit nested in
theorem line_start_empty (margin text : Text) (only : margin.all isMargin = true) :
    lineStart state (margin ++ '\n' :: text) = state.nextLine text [] := by
  simp [lineStart, measure_margin margin only _ (measure_newline text), isBlankLine, skipLine]

omit nested in
theorem line_start_solid (margin : Text) (c : Char) (text : Text) (only : margin.all isMargin = true)
    (starts : solid c = true) :
    lineStart state (margin ++ c :: text) =
      if c = '#' then skipLine state (c :: text)
      else if state.brackets.isEmpty then nest state ⟨wideFrom 0 margin, margin.length, 0, state.line⟩ (c :: text)
      else state.goOn (c :: text) [] := by
  have line : c ≠ '\n' := by
    rintro rfl
    cases starts
  by_cases comment : c = '#'
  · subst comment
    simp [lineStart, measure_margin margin only _ (measure_solid '#' starts text), isBlankLine]
  · have code : isBlankLine (c :: text) = false := by
      unfold isBlankLine
      split <;> simp_all
    by_cases open_ : state.brackets.isEmpty = true
    · simp [lineStart, measure_margin margin only _ (measure_solid c starts text), code, comment, open_]
    · simp [lineStart, measure_margin margin only _ (measure_solid c starts text), code, comment, open_]

theorem skip_line_deeper (text other : Text) (deeper : Deeper width false text other) :
    StepsDeeper width state.columns (skipLine state text) (skipLine (state.deeper width) other) := by
  obtain ⟨rest, after, ended, also, below⟩ := deeper_line_end deeper
  simp only [skipLine, ended, also]
  exact next_line_deeper state nested rest after [] nofun below

theorem line_start_deeper (text other : Text) (deeper : Deeper width true text other) (more : text ≠ []) :
    StepsDeeper width state.columns (lineStart state text) (lineStart (state.deeper width) other) := by
  cases deeper with
  | done => exact absurd rfl more
  | empty margin text other only further =>
      rw [line_start_empty state margin text only, show '\n' :: other = [] ++ '\n' :: other from rfl,
        line_start_empty (state.deeper width) [] other rfl]
      exact next_line_deeper state nested text other [] nofun further
  | line margin c text other only even starts further =>
      have spaces := spaces_before width margin only
      rw [← List.append_assoc, line_start_solid state margin c text only starts,
        line_start_solid (state.deeper width) _ c other spaces starts]
      by_cases comment : c = '#'
      · rw [if_pos comment, if_pos comment]
        exact skip_line_deeper state nested _ _ further
      · rw [if_neg comment, if_neg comment]
        have same : (state.deeper width).brackets = state.brackets := rfl
        rw [same]
        by_cases open_ : state.brackets.isEmpty = true
        · rw [if_pos open_, if_pos open_]
          obtain ⟨told, columns⟩ := margin_shifted width margin even
          have nests := nest_deeper state nested _ told state.line _ _ (deeper_dropWhile isSpace rfl further).2
          have narrow : (Text.spaces width ++ margin).length = margin.length + width := by
            rw [List.length_append, spaces_length, Nat.add_comm]
          rw [wide_spaces, Nat.zero_add, narrow]
          rwa [← columns] at nests
        · rw [if_neg open_, if_neg open_]
          exact go_on_deeper state nested _ _ [] nofun further

end

theorem step_deeper (width : Nat) (position other : Position) (moved : Moved width position other)
    (more : position.text ≠ []) : StepsDeeper width position.state.columns (step position) (step other) := by
  have text := moved.text
  unfold step
  rw [moved.fresh, moved.state]
  cases fresh : position.fresh with
  | true =>
      rw [fresh] at text
      exact line_start_deeper position.state moved.nested _ _ text more
  | false =>
      rw [fresh] at text
      exact in_line_deeper position.state moved.nested _ _ text

/-! Whole texts. -/

theorem unwind_all (columns : List (Nat × Nat)) (positive : ∀ column ∈ columns, 0 < column.1) :
    unwind 0 columns = (columns.length, []) := by
  induction columns with
  | nil => rfl
  | cons column outer ih =>
      have first : 0 < column.1 := positive column List.mem_cons_self
      have rest := ih fun column member => positive column (List.mem_cons_of_mem _ member)
      simp [unwind, first, rest]

theorem nesting_end (columns : List (Nat × Nat)) (positive : ∀ column ∈ columns, 0 < column.1) :
    nesting 0 0 columns = if columns = [] then .same else .shallower columns.length [] := by
  cases columns with
  | nil => rfl
  | cons column outer =>
      have first : 0 < column.1 := positive column List.mem_cons_self
      have level : ¬ 0 = column.1 := by omega
      have all := unwind_all (column :: outer) positive
      simp only [nesting, List.headD_cons, level, if_false, Nat.not_lt_zero, all]
      simp

theorem nest_end (state : State) (positive : ∀ column ∈ state.columns, 0 < column.1) :
    nest state ⟨0, 0, 0, state.line⟩ [] =
      (List.replicate state.columns.length (state.token .dedent), some ⟨false, { state with columns := [] }, []⟩) := by
  have nested := nesting_end state.columns positive
  by_cases flat : state.columns = []
  · rw [if_pos flat] at nested
    obtain ⟨line, columns, brackets⟩ := state
    obtain rfl : columns = [] := flat
    simp only [nest, if_true, nested]
    rfl
  · rw [if_neg flat] at nested
    simp only [nest, if_true, nested]
    rfl

-- At the end of a text the open blocks end. An open bracket is a break.
theorem scan_end (state : State) (positive : ∀ column ∈ state.columns, 0 < column.1) (fuel : Nat) :
    scan (fuel + 2) ⟨true, state, []⟩ =
      if state.brackets.isEmpty then
        List.replicate state.columns.length (state.token .dedent) ++ [state.token .finish]
      else state.cutOff := by
  have measured : measure ⟨0, 0, 0, state.line⟩ [] = some (⟨0, 0, 0, state.line⟩, []) := rfl
  have started : step ⟨true, state, []⟩ = if state.brackets.isEmpty then nest state ⟨0, 0, 0, state.line⟩ []
      else state.goOn [] [] := by
    by_cases open_ : state.brackets.isEmpty = true <;> simp [step, lineStart, measured, isBlankLine, open_]
  have finished : ∀ columns, scan (fuel + 1) ⟨false, { state with columns }, []⟩ = state.finish := fun _ => rfl
  rw [scan, started]
  by_cases open_ : state.brackets.isEmpty = true
  · rw [if_pos open_, if_pos open_, nest_end state positive]
    dsimp only
    rw [finished, State.finish, if_pos open_]
  · rw [if_neg open_, if_neg open_]
    have ended : scan (fuel + 1) ⟨false, state, []⟩ = state.finish := rfl
    rw [State.goOn]
    dsimp only
    rw [ended, State.finish, if_neg open_]
    rfl

-- What the tokens of a text become in a deeper one: the block around them ends before the text does.
def Enclosed (width : Nat) (tokens others : List Token) : Prop :=
  ∃ shared line, tokens = shared ++ [⟨.finish, line, 0⟩] ∧
    others = shared.map (Token.carried width) ++ [⟨.dedent, line, 0⟩, ⟨.finish, line, 0⟩]

theorem scan_end_deeper (width : Nat) (indents : 0 < width) (state : State)
    (nested : Nested width state.columns) (fuel : Nat)
    (unbroken : ∀ token ∈ scan (fuel + 2) ⟨true, state, []⟩, token.isBroken = false) :
    Enclosed width (scan (fuel + 2) ⟨true, state, []⟩) (scan (fuel + 2) ⟨true, state.deeper width, []⟩) := by
  have deep : ∀ column ∈ (state.deeper width).columns, 0 < column.1 := by
    intro column member
    obtain ⟨outer, among, rfl⟩ := List.mem_map.mp member
    rcases List.mem_append.mp among with open_ | last
    · exact Nat.add_pos_left (nested_positive nested outer open_) _
    · rw [List.mem_singleton.mp last]
      simpa [shifted] using indents
  rw [scan_end state (nested_positive nested)] at unbroken ⊢
  rw [scan_end (state.deeper width) deep]
  by_cases open_ : state.brackets.isEmpty = true
  · have same : (state.deeper width).brackets.isEmpty = true := open_
    have flat : state.brackets.length = 0 := by rw [List.isEmpty_iff.mp open_]; rfl
    have longer : (state.deeper width).columns.length = state.columns.length + 1 := by simp [State.deeper, inside]
    have token : ∀ lexeme, state.token lexeme = ⟨lexeme, state.line, 0⟩ := by simp [State.token, flat]
    have token' : ∀ lexeme, (state.deeper width).token lexeme = ⟨lexeme, state.line, 0⟩ := token
    rw [if_pos open_, if_pos same, longer, token, token, token', token']
    refine ⟨List.replicate state.columns.length ⟨.dedent, state.line, 0⟩, state.line, rfl, ?_⟩
    rw [List.map_replicate, List.replicate_succ', List.append_assoc]
    rfl
  · rw [if_neg open_] at unbroken
    have broken := unbroken _ (List.mem_singleton_self _)
    cases broken

-- From two positions that correspond, the tokens of both texts are told apart in the same steps.
theorem scan_deeper (width : Nat) (indents : 0 < width) (fuel : Nat) (position other : Position)
    (moved : Moved width position other) (enough : work position < fuel) (also : work other < fuel)
    (unbroken : ∀ token ∈ scan fuel position, token.isBroken = false)
    (room : shallow position.state.columns.length (scan fuel position) = true) :
    Enclosed width (scan fuel position) (scan fuel other) := by
  induction fuel generalizing position other with
  | zero => omega
  | succ fuel ih =>
      by_cases more : position.text = []
      · have text := moved.text
        obtain ⟨fresh, state, text'⟩ := position
        obtain ⟨fresh', state', text''⟩ := other
        obtain rfl : text' = [] := more
        obtain rfl : fresh' = fresh := moved.fresh
        obtain rfl : state' = state.deeper width := moved.state
        cases fresh' with
        | false => cases text
        | true =>
            cases fuel with
            | zero => simp [work] at enough
            | succ fuel =>
                generalize empty : ([] : Text) = nothing at text
                cases text with
                | done => exact scan_end_deeper width indents state moved.nested fuel unbroken
                | empty margin => simp at empty
                | line margin => simp at empty
      · have left := step_leaves position
        have left' := step_leaves other
        have stepped := step_deeper width position other moved more
        rw [scan] at unbroken room ⊢
        rw [scan]
        rcases one : step position with ⟨tokens, _ | next⟩
        · rw [one] at stepped unbroken
          obtain ⟨token, member, broken⟩ := stepped
          rw [unbroken token member] at broken
          cases broken
        · rw [one] at stepped unbroken room
          obtain ⟨shallower, after, two, further⟩ := stepped _ room
          rw [two]
          dsimp only at unbroken ⊢
          have less := left next (by rw [one])
          have less' := left' after (by rw [two])
          obtain ⟨shared, line, same, same'⟩ := ih next after further (by omega) (by omega)
            (fun token member => unbroken token (List.mem_append_right _ member)) shallower
          refine ⟨tokens ++ shared, line, ?_, ?_⟩
          · rw [same, List.append_assoc]
          · rw [same', List.map_append, List.append_assoc]

-- The state before any line of code.
def State.start (line : Nat) : State := ⟨line, [], []⟩

theorem scan_passes (fuel line : Nat) (text rest : Text)
    (passed : step ⟨true, .start line, text⟩ = (State.start line).nextLine rest []) :
    scan (fuel + 1) ⟨true, .start line, text⟩ = scan fuel ⟨true, (State.start line).advance rest, rest⟩ := by
  rw [scan, passed]
  rfl

theorem start_advance (line : Nat) (rest : Text) : ∃ next, (State.start line).advance rest = .start next := by
  unfold State.advance
  split <;> exact ⟨_, rfl⟩

-- What tells the opening of a text apart: no block, and something.
def Opens (tokens : List Token) : Prop :=
  ∀ token ∈ tokens.head?, token.lexeme ≠ .indent ∧ token.lexeme ≠ .finish

theorem nest_start (line wide narrow : Nat) (indented : 0 < wide) (rest : Text) :
    nest (.start line) ⟨wide, narrow, 0, line⟩ rest =
      if narrow = 0 then State.stop ((State.start line).break_ line false)
      else ([(State.start line).token .indent], some ⟨false, ⟨line, [(wide, narrow)], []⟩, rest⟩) := by
  have uneven : ¬ wide = 0 := by omega
  by_cases flat : narrow = 0
  · simp [nest, nesting, State.start, uneven, indented, flat, maxBlocks]
  · simp [nest, nesting, State.start, uneven, indented, flat, maxBlocks, State.goOn]

theorem step_start (line : Nat) (margin : Text) (c : Char) (text : Text) (only : margin.all isMargin = true)
    (starts : solid c = true) :
    step ⟨true, .start line, margin ++ c :: text⟩ =
      if c = '#' then skipLine (.start line) (c :: text)
      else nest (.start line) ⟨wideFrom 0 margin, margin.length, 0, line⟩ (c :: text) :=
  line_start_solid (.start line) margin c text only starts

-- The first line of code opens the block around the deeper text, and none in the text itself.
theorem scan_first_line (width : Nat) (indents : 0 < width) (fuel line : Nat) (margin : Text) (c : Char)
    (text other : Text) (only : margin.all isMargin = true) (starts : solid c = true) (code : c ≠ '#')
    (further : Deeper width false (c :: text) (c :: other))
    (enough : work ⟨true, .start line, margin ++ c :: text⟩ < fuel + 1)
    (also : work ⟨true, .start line, Text.spaces width ++ (margin ++ c :: other)⟩ < fuel + 1)
    (unbroken : ∀ token ∈ scan (fuel + 1) ⟨true, .start line, margin ++ c :: text⟩, token.isBroken = false)
    (room : shallow 0 (scan (fuel + 1) ⟨true, .start line, margin ++ c :: text⟩) = true)
    (opens : Opens (scan (fuel + 1) ⟨true, .start line, margin ++ c :: text⟩)) :
    ∃ others, scan (fuel + 1) ⟨true, .start line, Text.spaces width ++ (margin ++ c :: other)⟩ =
        ⟨.indent, line, 0⟩ :: others ∧
      Enclosed width (scan (fuel + 1) ⟨true, .start line, margin ++ c :: text⟩) others := by
  have one := step_start line margin c text only starts
  rw [if_neg code] at one
  cases margin with
  | cons first rest =>
      have indented := wide_grows (first :: rest) 0
      rw [List.length_cons] at indented
      rw [nest_start line _ _ (by omega), if_neg (by simp)] at one
      rw [scan, one] at opens
      exact absurd rfl (opens _ rfl).1
  | nil =>
      have two := step_start line (Text.spaces width) c other (spaces_margin width) starts
      have wide : wideFrom 0 (Text.spaces width) = width := by simpa [wideFrom] using wide_spaces width 0 []
      rw [if_neg code, wide, spaces_length, nest_start line _ _ indents, if_neg (by omega)] at two
      have level : nest (.start line) ⟨0, 0, 0, line⟩ (c :: text) = ([], some ⟨false, .start line, c :: text⟩) := rfl
      have one' : step ⟨true, .start line, c :: text⟩ = ([], some ⟨false, .start line, c :: text⟩) := one.trans level
      have scanned : scan (fuel + 1) ⟨true, .start line, c :: text⟩ = scan fuel ⟨false, .start line, c :: text⟩ := by
        rw [scan, one']
        rfl
      have outermost : (⟨line, [(width, width)], []⟩ : State) = (State.start line).deeper width := by
        simp [State.start, State.deeper, inside, shifted]
      have moved : Moved width ⟨false, .start line, c :: text⟩ ⟨false, ⟨line, [(width, width)], []⟩, c :: other⟩ :=
        ⟨rfl, outermost, nested_nil width, (deeper_dropWhile isSpace rfl further).2⟩
      refine ⟨scan fuel ⟨false, ⟨line, [(width, width)], []⟩, c :: other⟩, ?_, ?_⟩
      · rw [List.nil_append, scan, two]
        rfl
      · rw [List.nil_append] at unbroken room enough also ⊢
        rw [scanned] at unbroken room ⊢
        apply scan_deeper width indents fuel _ _ moved _ _ unbroken room
        · simp only [work, List.length_cons, if_true, Bool.false_eq_true, if_false] at enough ⊢
          omega
        · simp only [work, List.length_append, List.length_cons, if_true, Bool.false_eq_true, if_false] at also ⊢
          omega

-- Comments and empty lines before the first line of code are passed over in both texts.
theorem scan_opening (width : Nat) (indents : 0 < width) (fuel line : Nat) (text other : Text)
    (deeper : Deeper width true text other) (enough : work ⟨true, .start line, text⟩ < fuel)
    (also : work ⟨true, .start line, other⟩ < fuel)
    (unbroken : ∀ token ∈ scan fuel ⟨true, .start line, text⟩, token.isBroken = false)
    (room : shallow 0 (scan fuel ⟨true, .start line, text⟩) = true) (opens : Opens (scan fuel ⟨true, .start line, text⟩)) :
    ∃ first others, scan fuel ⟨true, .start line, other⟩ = ⟨.indent, first, 0⟩ :: others ∧
      Enclosed width (scan fuel ⟨true, .start line, text⟩) others := by
  induction fuel generalizing line text other with
  | zero => omega
  | succ fuel ih =>
      have passed : ∀ rest after, Deeper width true rest after →
          step ⟨true, .start line, text⟩ = (State.start line).nextLine rest [] →
          step ⟨true, .start line, other⟩ = (State.start line).nextLine after [] →
          ∃ first others, scan (fuel + 1) ⟨true, .start line, other⟩ = ⟨.indent, first, 0⟩ :: others ∧
            Enclosed width (scan (fuel + 1) ⟨true, .start line, text⟩) others := by
        intro rest after further one two
        have less := step_leaves ⟨true, .start line, text⟩ _ (by rw [one]; rfl)
        have less' := step_leaves ⟨true, .start line, other⟩ _ (by rw [two]; rfl)
        obtain ⟨next, counted⟩ := start_advance line rest
        have counted' : (State.start line).advance after = .start next := by
          rw [← counted, State.advance, State.advance, deeper_isEmpty further]
        rw [counted] at less
        rw [counted'] at less'
        rw [scan_passes fuel line text rest one, counted] at unbroken room opens ⊢
        rw [scan_passes fuel line other after two, counted']
        exact ih next rest after further (by omega) (by omega) unbroken room opens
      cases deeper with
      | done =>
          cases fuel with
          | zero => simp [work] at enough
          | succ fuel =>
              rw [scan_end (.start line) nofun] at opens
              exact absurd rfl (opens _ rfl).2
      | empty margin text other only further =>
          exact passed text other further (line_start_empty _ margin text only) (line_start_empty _ [] other rfl)
      | line margin c text other only even starts further =>
          by_cases comment : c = '#'
          · have spaces := spaces_before width margin only
            have one := step_start line margin c text only starts
            have two := step_start line (Text.spaces width ++ margin) c other spaces starts
            obtain ⟨rest, after, ended, ended', below⟩ := deeper_line_end further
            simp only [comment, if_true, skipLine] at one two ended ended'
            rw [ended] at one
            rw [ended', List.append_assoc] at two
            subst comment
            exact passed rest after below one two
          · obtain ⟨others, scanned, enclosed⟩ := scan_first_line width indents fuel line margin c text other only starts
              comment further enough also unbroken room opens
            exact ⟨line, others, scanned, enclosed⟩

end Lexer

end Statewright.Code
