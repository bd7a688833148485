import Statewright.Proofs.FollowedTokens
import Statewright.Proofs.Headings
import Statewright.Proofs.TwinExpressions

/-!
Expressions that stand alone, and the same texts as parts of a line. Read there, such a text gives the same tree, and
what follows it is left, unless the text ends in a comment.
-/
set_option autoImplicit false

namespace Statewright.Code

open Reader Expression Statement Lexer

theorem tokensOf_from (text : Text) : tokensOf text = tokensFrom ⟨true, .start 1, evenLineEnds text⟩ :=
  scan_text _

/-! ## Expressions that stand alone -/

theorem lines_read (fuel turns : Nat) (tokens rest : List Token)
    (ran : iterate (fun _ : Unit => (do
      if ← accept .newline then return .inl ()
      return .inr () : Reader (Unit ⊕ Unit))) fuel () turns tokens = .ok ((), rest)) :
    ∃ lines, tokens = lines ++ rest ∧ ∀ token ∈ lines, token.lexeme = .newline := by
  induction fuel generalizing tokens with
  | zero => exact absurd ran (fail_ne_ok _ _ _)
  | succ fuel ih =>
      rw [iterate] at ran
      obtain ⟨step, left, stepped, goesOn⟩ := (bind_read_ok _ _ _ _ _).mp ran
      cases tokens with
      | nil => cases stepped
      | cons token more =>
          rw [bind_read, accept_read _ _ _ ⟨token, more, rfl, rfl⟩] at stepped
          by_cases ends : token.lexeme = .newline
          · rw [if_pos ends] at stepped
            cases stepped
            obtain ⟨lines, rfl, all⟩ := ih _ goesOn
            exact ⟨token :: lines, rfl, List.forall_mem_cons.mpr ⟨ends, all⟩⟩
          · rw [if_neg ends] at stepped
            cases stepped
            cases goesOn
            exact ⟨[], rfl, List.forall_mem_nil _⟩

theorem beside_same (stop front : List Token) (inner : ∀ token ∈ front, token.lexeme.ends = false) :
    Beside stop stop (front ++ stop) (front ++ stop) := by
  induction front with
  | nil => exact .stop
  | cons token front ih =>
      exact .cons token token _ _ (inner token List.mem_cons_self) (.same _)
        (ih fun one member => inner one (List.mem_cons_of_mem _ member))

theorem beside_alike (stop other front others : List Token) (inner : ∀ token ∈ front, token.lexeme.ends = false)
    (alike : AlikeTokens front others) : Beside stop other (front ++ stop) (others ++ other) := by
  induction alike with
  | nil => exact .stop
  | cons one _ ih =>
      exact .cons _ _ _ _ (inner _ List.mem_cons_self) one (ih fun token member => inner token (List.mem_cons_of_mem _ member))

theorem last_ends (token : Token) (last : token.isLast = true) : token.lexeme.ends = true := by
  unfold Token.isLast Token.isBroken at last
  cases lexeme : token.lexeme with
  | finish | broken => rfl
  | _ => simp [lexeme] at last

theorem stray_ends (token : Token) (stray : token.isStray = true) : token.lexeme.ends = true := by
  unfold Token.isStray Token.isBroken Token.nests at stray
  cases lexeme : token.lexeme with
  | indent | dedent | broken => rfl
  | _ => simp [lexeme] at stray

-- The tokens of a text before the first one that no expression goes on with.
theorem tokens_split (position : Position) :
    ∃ front stop, tokensFrom position = front ++ stop ∧ (∀ token ∈ front, token.lexeme.ends = false) ∧
      ∃ lexeme, HeadIs stop lexeme ∧ lexeme.ends = true := by
  obtain ⟨before, last, all, -, ends⟩ := tokens_end position
  refine ⟨_, _, (List.takeWhile_append_dropWhile (p := fun token => !token.lexeme.ends)).symm, ?_, ?_⟩
  · intro token member
    simpa using List.mem_takeWhile_imp member
  · cases stop : (tokensFrom position).dropWhile fun token => !token.lexeme.ends with
    | nil =>
        have inner := List.dropWhile_eq_nil_iff.mp stop last (by simp [all])
        rw [last_ends last ends] at inner
        cases inner
    | cons token rest =>
        have first := List.head?_dropWhile_not (fun token : Token => !token.lexeme.ends) (tokensFrom position)
        rw [stop] at first
        exact ⟨token.lexeme, ⟨token, rest, rfl, rfl⟩, by simpa using first⟩

theorem lines_end (lines : List Token) (last : Token) (ended : ∀ token ∈ lines, token.lexeme = .newline)
    (finished : last.lexeme = .finish) (more : List Token) :
    ∃ lexeme, HeadIs (lines ++ last :: more) lexeme ∧ lexeme.ends = true := by
  cases lines with
  | nil => exact ⟨_, ⟨last, more, rfl, finished⟩, rfl⟩
  | cons token lines => exact ⟨_, ⟨token, _, rfl, ended token List.mem_cons_self⟩, rfl⟩

-- An expression that stands alone, with what its tokens are: its own, ends of lines, and the end of the text.
structure Sole (depth turns : Nat) (tokens : List Token) (value : Expr) (front lines : List Token) (last : Token) :
    Prop where
  all : tokens = front ++ (lines ++ [last])
  inner : ∀ token ∈ front, token.lexeme.ends = false
  ended : ∀ token ∈ lines, token.lexeme = .newline
  finished : last.lexeme = .finish
  ran : list (rules depth).expression turns tokens = .ok (value, lines ++ [last])

theorem sole_read (depth turns : Nat) (position : Position) (value : Expr) (rest : List Token)
    (ran : soleExpression (rules depth) turns (tokensFrom position) = .ok (value, rest)) :
    ∃ front lines last, Sole depth turns (tokensFrom position) value front lines last := by
  obtain ⟨front, stop, all, inner, ends⟩ := tokens_split position
  have parting : Parting stop stop := ⟨ends, ends.imp fun lexeme found => ⟨found.1, follows_of_ends lexeme found.2⟩⟩
  obtain ⟨read, left, listed, follows⟩ := (bind_read_ok _ _ _ _ _).mp ran
  obtain ⟨_, after, looped, finishes⟩ := (bind_read_ok _ _ _ _ _).mp follows
  obtain ⟨_, end_, needed, given⟩ := (bind_read_ok _ _ _ _ _).mp finishes
  cases given
  obtain ⟨lines, rfl, ended⟩ := lines_read turns turns left after looped
  obtain ⟨⟨last, more, rfl, finished⟩, -⟩ := need_read _ _ _ _ needed
  -- What is left of the list begins with what ends an expression, so nothing of it is its own.
  have beside := (agree_list parting (agree_rules depth depth stop stop parting).expression turns turns _ _ _ _ _ _
    (all ▸ beside_same stop front inner) listed listed).2.1
  obtain ⟨lexeme, stands, stops⟩ := lines_end lines last ended finished more
  obtain ⟨rfl, -⟩ := beside_ended _ _ lexeme beside stands stops
  have whole : tokensFrom position = (front ++ lines) ++ last :: more := by rw [all, List.append_assoc]
  obtain ⟨rfl, -⟩ := tokens_before_finish position (front ++ lines) more last whole finished
  exact ⟨front, lines, last, all, inner, ended, finished, listed⟩

section
variable {depth turns : Nat} {position : Position} {value : Expr} {front lines : List Token} {last : Token}

theorem sole_clean (sole : Sole depth turns (tokensFrom position) value front lines last) :
    ∀ token ∈ tokensFrom position, token.isStray = false := by
  intro token member
  rw [sole.all] at member
  rcases List.mem_append.mp member with member | member
  · refine Bool.eq_false_iff.mpr fun stray => ?_
    have inner := sole.inner token member
    rw [stray_ends token stray] at inner
    cases inner
  unfold Token.isStray Token.isBroken Token.nests
  rcases List.mem_append.mp member with member | member
  · rw [sole.ended token member]
    rfl
  · rw [List.mem_singleton.mp member, sole.finished]
    rfl

-- An expression has a first token of its own.
theorem sole_begins (sole : Sole depth turns (tokensFrom position) value front lines last) : front ≠ [] := by
  rintro rfl
  have refuses (lexeme : Lexeme) (ends : lexeme.ends = true) : ¬ HeadIs (tokensFrom position) lexeme := by
    intro head
    exact refuses_bind _ _ (expression_refuses depth lexeme (ends_starts_nothing lexeme ends)) turns _ _ head sole.ran
  have all := sole.all
  cases lines with
  | nil => exact refuses .finish rfl ⟨last, [], all, sole.finished⟩
  | cons token lines => exact refuses .newline rfl ⟨token, _, all, sole.ended token List.mem_cons_self⟩

end

/-! ## As parts of a line -/

-- The tokens of an expression inside a line. Its own text is used up at `used`, which is `after` in the line.
structure Placed (base : List Bracket) (tail : Text) (used after : Position) (front lines tokens others ends : List Token) :
    Prop where
  all : tokens = others ++ (ends ++ tokensFrom after)
  alike : AlikeTokens front others
  ended : AlikeTokens (kept base lines) ends
  followed : Followed base tail used after
  flat : base = [] → lines = [] → used.fresh = false

theorem alike_append (front lines others : List Token) (alike : AlikeTokens (front ++ lines) others) :
    ∃ first second, others = first ++ second ∧ AlikeTokens front first ∧ AlikeTokens lines second := by
  have turned : List.Forall₂ (fun two one : Token => one.lexeme.Alike two.lexeme) others (front ++ lines) :=
    List.Forall₂.flip alike
  exact ⟨_, _, (List.take_append_drop front.length others).symm,
    (List.forall₂_take_append others front lines turned).flip, (List.forall₂_drop_append others front lines turned).flip⟩

theorem kept_ends (base : List Bracket) (lines : List Token) (ended : ∀ token ∈ lines, token.lexeme = .newline)
    (inner : base ≠ []) : kept base lines = [] :=
  List.filter_eq_nil_iff.mpr fun token member => by simp [ended token member, inner]

theorem kept_inner (base : List Bracket) (front : List Token) (inner : ∀ token ∈ front, token.lexeme.ends = false) :
    kept base front = front :=
  List.filter_eq_self.mpr fun token member => by
    have apart : token.lexeme ≠ .newline := by
      intro same
      have found := inner token member
      rw [same] at found
      cases found
    simp [apart]

/-! ## What follows -/

def EndsBlank (position : Position) : Prop := left? position = some []

def EndsInComment (position : Position) : Prop := ∃ rest, left? position = some rest ∧ isComment rest = true

theorem usedUp_cases (position : Position) (used : UsedUp position) : EndsBlank position ∨ EndsInComment position := by
  obtain ⟨rest, left, rfl | comment⟩ := used
  · exact .inl left
  · exact .inr ⟨rest, left, comment⟩

section
variable (tail : Text)

theorem blank_in_line (state : Lexer.State) (text : Text) (blank : text.dropWhile isSpace = []) :
    tokensFrom ⟨false, state, text ++ tail⟩ = tokensFrom ⟨false, state, tail⟩ := by
  refine tokensFrom_congr _ _ ?_
  have same : (text ++ tail).dropWhile isSpace = tail.dropWhile isSpace := by
    rw [List.dropWhile_append, blank]
    rfl
  change inLine state (text ++ tail) = inLine state tail
  unfold inLine
  rw [same]

theorem comment_dropped (text : Text) (comment : isComment text = true) :
    (text ++ tail).dropWhile (· != '\n') = tail.dropWhile (· != '\n') := by
  obtain ⟨_, _, _, unended⟩ := comment_unended text comment
  rw [List.dropWhile_append, unended]
  rfl

theorem comment_in_line (state : Lexer.State) (text rest : Text) (left : text.dropWhile isSpace = rest)
    (comment : isComment rest = true) :
    tokensFrom ⟨false, state, text ++ tail⟩ = tokensFrom ⟨false, state, tail.dropWhile (· != '\n')⟩ := by
  obtain ⟨inner, rfl, unended, -⟩ := comment_unended rest comment
  have also : (text ++ tail).dropWhile isSpace = '#' :: (inner ++ tail) := dropWhile_on isSpace text inner '#' left
  have dropped : (inner ++ tail).dropWhile (· != '\n') = tail.dropWhile (· != '\n') := by
    rw [List.dropWhile_append, unended]
    rfl
  have stepped : step ⟨false, state, text ++ tail⟩ = inLine state (text ++ tail) := rfl
  unfold inLine at stepped
  simp only [also, dropped] at stepped
  cases ends : tail.dropWhile (· != '\n') with
  | nil =>
      rw [ends] at stepped
      rw [tokensFrom_stop _ _ stepped]
      exact (tokensFrom_stop ⟨false, state, []⟩ _ rfl).symm
  | cons c more =>
      rw [ends] at stepped
      exact tokensFrom_next _ _ _ stepped

theorem measure_blank_on (start margin : Margin) (text : Text) (line : Nat)
    (measured : measure start text = some (margin, [])) :
    ∃ after, measure { start with line } (text ++ tail) = measure after tail := by
  fun_induction measure start text generalizing line with
  | case1 start text ih => exact ih line measured
  | case2 start text ih => exact ih line measured
  | case3 start text ih => exact ih line measured
  | case4 start d text ih => exact ih (line + 1) measured
  | case5 => cases measured
  | case6 start text =>
      obtain ⟨-, rfl⟩ := Prod.mk.inj (Option.some.inj measured)
      exact ⟨_, rfl⟩

end

section
variable {base : List Bracket} {tail : Text} {used after : Position} (followed : Followed base tail used after)
include followed

theorem blank_goes_on (blank : EndsBlank used) (flat : used.fresh = false) :
    tokensFrom after = tokensFrom ⟨false, after.state, tail⟩ := by
  obtain ⟨fresh, state, text⟩ := used
  obtain ⟨fresh', state', text'⟩ := after
  obtain ⟨same, also, -⟩ := followed
  dsimp only at same also flat
  subst same also flat
  exact blank_in_line tail state' text (Option.some.inj blank)

theorem blank_measured (blank : EndsBlank used) (fresh : used.fresh = true) :
    ∃ start, measure ⟨0, 0, 0, after.state.line⟩ after.text = measure start tail := by
  obtain ⟨fresh_, state, text⟩ := used
  obtain ⟨fresh', state', text'⟩ := after
  obtain ⟨same, also, -⟩ := followed
  dsimp only at same also fresh
  subst same also fresh
  obtain ⟨⟨margin, rest⟩, measured, ended⟩ := Option.map_eq_some_iff.mp (show left? ⟨true, state, text⟩ = some [] from blank)
  obtain rfl : rest = [] := ended
  exact measure_blank_on tail ⟨0, 0, 0, state.line⟩ margin text state'.line measured

-- The comment goes on to the end of its line. That end is no token if the comment stands on a line of its own.
theorem comment_goes_on (comment : EndsInComment used) :
    ∃ state : Lexer.State, state.brackets = after.state.brackets ∧
      match tail.dropWhile (· != '\n') with
      | [] => tokensFrom after = state.finish
      | _ :: more => ∃ ends, ends.lexeme = .newline ∧
          tokensFrom after = (if used.fresh || !after.state.brackets.isEmpty then [] else [ends]) ++
            tokensFrom ⟨true, state.advance more, more⟩ := by
  obtain ⟨fresh, state, text⟩ := used
  obtain ⟨fresh', state', text'⟩ := after
  obtain ⟨same, also, -⟩ := followed
  obtain ⟨rest, left, comment⟩ := comment
  dsimp only at same also
  subst same also
  cases fresh' with
  | false =>
      refine ⟨state', rfl, ?_⟩
      rw [comment_in_line tail state' text rest (Option.some.inj left) comment]
      cases ends : tail.dropWhile (· != '\n') with
      | nil => exact tokensFrom_stop _ _ rfl
      | cons c more =>
          obtain rfl : c = '\n' := by
            have first := List.head?_dropWhile_not (· != '\n') tail
            rw [ends] at first
            simpa using first
          refine ⟨state'.token .newline, rfl, ?_⟩
          rw [lineEnd_tokens]
          cases stack : state'.brackets <;> simp
  | true =>
      obtain ⟨⟨margin, found⟩, measured, same⟩ := Option.map_eq_some_iff.mp (show left? ⟨true, state, text⟩ = some rest from left)
      obtain rfl : found = rest := same
      obtain ⟨inner, rfl, -, -⟩ := comment_unended found comment
      obtain ⟨line, also⟩ : ∃ line, measure ⟨0, 0, 0, state'.line⟩ (text ++ tail) =
          some ({ margin with line }, '#' :: (inner ++ tail)) := measure_on ⟨0, 0, 0, state.line⟩ text inner '#' margin state'.line measured
      have dropped := comment_dropped tail ('#' :: inner) comment
      have stepped : step ⟨true, state', text ++ tail⟩ = lineStart state' (text ++ tail) := rfl
      rw [List.cons_append] at dropped
      rw [lineStart, also] at stepped
      simp only [isBlankLine, if_true, skipLine, dropped] at stepped
      refine ⟨{ state' with line }, rfl, ?_⟩
      cases ends : tail.dropWhile (· != '\n') with
      | nil =>
          rw [ends] at stepped
          exact tokensFrom_stop _ _ stepped
      | cons c more =>
          rw [ends] at stepped
          exact ⟨state'.token .newline, rfl, tokensFrom_next _ _ _ stepped⟩

end

section
variable {tail : Text} {used after : Position}

theorem closed_after (followed : Followed [] tail used after) (closed : used.state.brackets = []) :
    after.state.brackets = [] := by
  have stacked := followed.within.brackets
  rw [closed] at stacked
  exact List.map_eq_nil_iff.mp stacked

theorem open_after (bracket : Bracket) (followed : Followed [bracket] tail used after) (closed : used.state.brackets = []) :
    ∃ line, after.state.brackets = [(bracket, line)] := by
  have stacked := followed.within.brackets
  rw [closed] at stacked
  obtain ⟨⟨opened, line⟩, same, rfl⟩ := List.map_eq_singleton_iff.mp stacked
  exact ⟨line, same⟩

-- A comment behind code leaves the end of the line.
theorem comment_ends_line (followed : Followed [] tail used after) (closed : used.state.brackets = [])
    (comment : EndsInComment used) (flat : used.fresh = false) :
    HeadIs (tokensFrom after) .newline ∨ HeadIs (tokensFrom after) .finish := by
  obtain ⟨state, same, goesOn⟩ := comment_goes_on followed comment
  rw [closed_after followed closed] at same goesOn
  split at goesOn
  · refine .inr ⟨state.token .finish, [], ?_, rfl⟩
    rw [goesOn, Lexer.State.finish, same]
    rfl
  · obtain ⟨ends, newline, all⟩ := goesOn
    rw [flat] at all
    exact .inl ⟨ends, _, all, newline⟩

-- A line that begins with blanks and goes on with a mark does not end, and is no line of the block that it follows.
theorem blank_stays (followed : Followed [] tail used after) (closed : used.state.brackets = [])
    (blank : EndsBlank used) (more : Text) (mark : tail = ' ' :: '=' :: ' ' :: more) :
    ¬ HeadIs (tokensFrom after) .newline ∧ ¬ HeadIs (tokensFrom after) .finish := by
  have equals (state : Lexer.State) : HeadIs (tokensFrom ⟨false, state, '=' :: ' ' :: more⟩) (.mark .equals) :=
    ⟨state.token (.mark .equals), _, tokensFrom_next _ ⟨false, state, ' ' :: more⟩ [state.token (.mark .equals)] rfl, rfl⟩
  have neither (lexeme : Lexeme) (head : HeadIs (tokensFrom after) lexeme)
      (other : lexeme ≠ .newline ∧ lexeme ≠ .finish) :
      ¬ HeadIs (tokensFrom after) .newline ∧ ¬ HeadIs (tokensFrom after) .finish :=
    ⟨fun also => other.1 (head_unique _ _ _ head also), fun also => other.2 (head_unique _ _ _ head also)⟩
  cases fresh : used.fresh with
  | false =>
      refine neither (.mark .equals) ?_ ⟨Lexeme.noConfusion, Lexeme.noConfusion⟩
      rw [blank_goes_on followed blank fresh, mark, space_passes _ _ _ rfl]
      exact equals after.state
  | true =>
      obtain ⟨start, measured⟩ := blank_measured followed blank fresh
      have closed' := closed_after followed closed
      have level := followed.within.level
      have also := followed.fresh
      obtain ⟨fresh', state, text⟩ := after
      dsimp only at also closed' level measured
      rw [fresh] at also
      subst also
      have found : measure start tail = some ({ start with wide := start.wide + 1, narrow := start.narrow + 1 }, '=' :: ' ' :: more) := by
        rw [mark]
        rfl
      rw [found] at measured
      have stepped : step ⟨true, state, text⟩ = lineStart state text := rfl
      rw [lineStart, measured] at stepped
      simp only [isBlankLine, Bool.false_eq_true, if_false, closed', List.isEmpty_nil, Bool.not_true, nest, level] at stepped
      rcases nesting_level (if start.held = 0 then start.wide + 1 else start.held)
        (if start.held = 0 then start.narrow + 1 else start.held) with same | wrong | deeper
      · rw [same] at stepped
        refine neither (.mark .equals) ?_ ⟨Lexeme.noConfusion, Lexeme.noConfusion⟩
        rw [tokensFrom_next _ _ _ stepped]
        exact equals _
      · rw [wrong] at stepped
        refine neither (.broken _) ⟨_, [], tokensFrom_stop _ _ stepped, rfl⟩ ⟨Lexeme.noConfusion, Lexeme.noConfusion⟩
      · rw [deeper] at stepped
        refine neither .indent ⟨_, _, tokensFrom_next _ _ _ stepped, rfl⟩ ⟨Lexeme.noConfusion, Lexeme.noConfusion⟩

-- Inside brackets lines do not count.
theorem blank_in_brackets (bracket : Bracket) (followed : Followed [bracket] tail used after)
    (closed : used.state.brackets = []) (blank : EndsBlank used) (more : Text) (close : tail = ')' :: more) :
    ∃ state : Lexer.State, state.brackets = after.state.brackets ∧ tokensFrom after = tokensFrom ⟨false, state, tail⟩ := by
  cases fresh : used.fresh with
  | false => exact ⟨after.state, rfl, blank_goes_on followed blank fresh⟩
  | true =>
      obtain ⟨start, measured⟩ := blank_measured followed blank fresh
      obtain ⟨line, opened⟩ := open_after bracket followed closed
      have also := followed.fresh
      obtain ⟨fresh', state, text⟩ := after
      dsimp only at also opened measured
      rw [fresh] at also
      subst also close
      have found : measure start (')' :: more) = some (start, ')' :: more) := rfl
      rw [found] at measured
      have stepped : step ⟨true, state, text⟩ = lineStart state text := rfl
      rw [lineStart, measured] at stepped
      have filled : isBlankLine (')' :: more) = false := rfl
      simp only [filled, Bool.false_eq_true, if_false, opened, List.isEmpty_cons, Bool.not_false, if_true] at stepped
      exact ⟨⟨start.line, state.columns, [(bracket, line)]⟩, opened.symm, tokensFrom_next _ _ _ stepped⟩

theorem comment_in_brackets (bracket : Bracket) (followed : Followed [bracket] tail used after)
    (closed : used.state.brackets = []) (comment : EndsInComment used)
    (ends : tail.dropWhile (· != '\n') = ['\n']) : ∃ token ∈ tokensFrom after, token.isBroken = true := by
  obtain ⟨state, same, goesOn⟩ := comment_goes_on followed comment
  obtain ⟨line, opened⟩ := open_after bracket followed closed
  rw [ends, opened] at goesOn
  obtain ⟨_, -, all⟩ := goesOn
  rw [opened] at same
  have skipped : step ⟨true, state, []⟩ = ([], some ⟨false, state, []⟩) := by
    change lineStart state [] = _
    rw [lineStart, show Lexer.measure ⟨0, 0, 0, state.line⟩ [] = some (⟨0, 0, 0, state.line⟩, []) from rfl]
    have filled : state.brackets.isEmpty = false := by rw [same]; rfl
    simp [isBlankLine, filled, Lexer.State.goOn]
  have stopped : tokensFrom ⟨false, state, []⟩ = state.cutOff := by
    have finished : step ⟨false, state, []⟩ = (state.finish, none) := rfl
    rw [tokensFrom_stop _ _ finished, Lexer.State.finish, same]
    rfl
  have same' : tokensFrom after = tokensFrom ⟨true, state, []⟩ := by
    rw [all]
    simp [Lexer.State.advance]
  rw [same', tokensFrom_next _ _ _ skipped, stopped]
  exact ⟨_, List.mem_singleton_self _, rfl⟩

end

-- A mark that is written behind a text makes no token.
def commented (text : Text) : Bool := (tokensOf (text ++ [','])).length == (tokensOf text).length

section
variable {depth turns : Nat} {text : Text} {value : Expr} {front lines : List Token} {last : Token}
variable (sole : Sole depth turns (tokensFrom ⟨true, .start 1, text⟩) value front lines last)
include sole

theorem sole_continues : ∃ used, Continues text (front ++ lines) used := by
  rcases text_continues text (sole_clean sole) with ⟨token, single, -⟩ | ⟨whole, token, used, all, -, continues⟩
  · have all := sole.all
    rw [single] at all
    have lengths := congrArg List.length all
    have some_ := List.length_pos_iff.mpr (sole_begins sole)
    simp only [List.length_append, List.length_singleton] at lengths
    omega
  · have same := sole.all
    rw [all, ← List.append_assoc] at same
    obtain ⟨rfl, -⟩ := List.append_inj' same rfl
    exact ⟨used, continues⟩

theorem sole_placed (used : Position) (continues : Continues text (front ++ lines) used) (base : List Bracket)
    (tail : Text) (state : Lexer.State) (off : SetOff tail) (within : Within base (.start 1) state)
    (whole : base ≠ [] → ∀ token ∈ tokensFrom ⟨false, state, text ++ tail⟩, token.isBroken = false)
    (begins : ¬ HeadIs (tokensFrom ⟨false, state, text ++ tail⟩) .newline) :
    ∃ after others ends,
      Placed base tail used after front lines (tokensFrom ⟨false, state, text ++ tail⟩) others ends := by
  rcases continues.inLine base tail state off within whole with ⟨-, newline⟩ | ⟨all, after, same, alike, followed, flat⟩
  · exact absurd newline begins
  · rw [kept_append, kept_inner base front sole.inner] at alike
    obtain ⟨others, ends, rfl, first, second⟩ := alike_append front (kept base lines) all alike
    refine ⟨after, others, ends, by rw [same, List.append_assoc], first, second, followed, fun outer none_ => ?_⟩
    refine flat outer fun token member newline => ?_
    rw [none_, List.append_nil] at member
    have inner := sole.inner token member
    rw [newline] at inner
    cases inner

end

theorem ends_alike (lines ends : List Token) (ended : ∀ token ∈ lines, token.lexeme = .newline)
    (alike : AlikeTokens lines ends) : ∀ token ∈ ends, token.lexeme = .newline := by
  induction alike with
  | nil => exact nofun
  | cons one _ ih =>
      obtain ⟨first, rest⟩ := List.forall_mem_cons.mp ended
      refine List.forall_mem_cons.mpr ⟨?_, ih rest⟩
      rw [first] at one
      exact (alike_plain _ _ one fun _ => Lexeme.noConfusion).symm

section
variable {depth turns : Nat} {text tail : Text} {value : Expr} {front lines tokens others ends : List Token} {last : Token}
variable {base : List Bracket} {used after : Position}
variable (sole : Sole depth turns (tokensFrom ⟨true, .start 1, text⟩) value front lines last)
variable (placed : Placed base tail used after front lines tokens others ends)
include sole placed

theorem placed_ends : ∀ token ∈ ends, token.lexeme = .newline :=
  ends_alike _ _ (fun token member => sole.ended token (List.mem_of_mem_filter member)) placed.ended

omit sole in
theorem placed_none (outer : base = []) : lines = [] ↔ ends = [] := by
  subst outer
  have unkept : kept [] lines = lines := List.filter_eq_self.mpr fun _ _ => rfl
  have alike := placed.ended
  rw [unkept] at alike
  rw [← List.length_eq_zero_iff, ← List.length_eq_zero_iff, alike.length_eq]

end

/-! ## The tree -/

section
variable {depth turns : Nat} {text tail : Text} {value : Expr} {front lines tokens others ends : List Token} {last : Token}
variable {base : List Bracket} {used after : Position}
variable (sole : Sole depth turns (tokensFrom ⟨true, .start 1, text⟩) value front lines last)
variable (placed : Placed base tail used after front lines tokens others ends)
variable (follows : ∃ lexeme, HeadIs (ends ++ tokensFrom after) lexeme ∧ lexeme.follows = true)
include sole placed follows

theorem placed_beside : Parting (lines ++ [last]) (ends ++ tokensFrom after) ∧
    Beside (lines ++ [last]) (ends ++ tokensFrom after) (tokensFrom ⟨true, .start 1, text⟩) tokens := by
  rw [sole.all, placed.all]
  exact ⟨⟨lines_end lines last sole.ended sole.finished [], follows⟩,
    beside_alike _ _ _ _ sole.inner placed.alike⟩

-- Without a comma outside of brackets the whole is one expression there as well.
theorem placed_expression (depth' turns' : Nat) (read : Expr) (left : List Token)
    (ran : (rules depth').expression turns' tokens = .ok (read, left)) :
    (read = value ∧ left = ends ++ tokensFrom after) ∨
      (HeadIs left (.mark .comma) ∧ ∃ items, value = .sequence items .round) := by
  obtain ⟨parting, beside⟩ := placed_beside sole placed follows
  have agree := agree_rules depth depth' _ _ parting
  obtain ⟨first, rest, found, goesOn⟩ := (bind_read_ok _ _ _ _ _).mp sole.ran
  obtain ⟨rfl, further, -⟩ := agree.expression _ _ _ _ _ _ _ _ beside found ran
  obtain ⟨one, two, head, head', meets⟩ := meets_heads parting rest left further
  rw [bind_read, isMark_head _ _ _ head] at goesOn
  by_cases comma : one = .mark .comma
  · subst comma
    rw [decide_eq_true rfl] at goesOn
    obtain rfl := (meets_same (.mark .comma) (.mark .comma) two (fun _ => Lexeme.noConfusion) rfl meets).mp rfl
    obtain ⟨items, _, -, given⟩ := (bind_read_ok _ _ _ _ _).mp goesOn
    cases given
    exact .inr ⟨head', items, rfl⟩
  · rw [decide_eq_false comma] at goesOn
    cases goesOn
    obtain ⟨lexeme, stands, stops⟩ := lines_end lines last sole.ended sole.finished []
    exact .inl ⟨rfl, (beside_ended _ _ lexeme further stands stops).2⟩

theorem placed_values (depth' turns' : Nat) (read : Expr) (left : List Token)
    (ran : yieldedOrValues (rules depth') turns' tokens = .ok (read, left)) :
    read = value ∧ left = ends ++ tokensFrom after := by
  obtain ⟨parting, beside⟩ := placed_beside sole placed follows
  have agree := agree_rules depth depth' _ _ parting
  obtain ⟨one, two, head, head', meets⟩ := meets_heads parting _ _ beside
  have plain : two ≠ .keyword .yield_ := by
    rintro rfl
    obtain rfl := (meets_same (.keyword .yield_) one (.keyword .yield_) (fun _ => Lexeme.noConfusion) rfl meets).mpr rfl
    exact refuses_bind _ _ (expression_refuses depth _ rfl) turns _ _ head sole.ran
  unfold yieldedOrValues yieldedOrExpressions at ran
  rw [bind_read, isWord_head _ _ _ head', decide_eq_false plain] at ran
  have listed := agree_list parting
    (agree_plain_starOrExpression parting (rules depth').operand agree.expression (expression_refuses depth _ rfl))
  obtain ⟨rfl, further, -⟩ := listed _ _ _ _ _ _ _ _ beside sole.ran ran
  obtain ⟨lexeme, stands, stops⟩ := lines_end lines last sole.ended sole.finished []
  exact ⟨rfl, (beside_ended _ _ lexeme further stands stops).2⟩

end

/-! ## A mark behind the text -/

-- Where a mark would stand behind the text.
theorem sole_marked (text : Text) (depth turns : Nat) (value : Expr) (front lines : List Token) (last : Token)
    (sole : Sole depth turns (tokensFrom ⟨true, .start 1, evenLineEnds text⟩) value front lines last) (used : Position)
    (continues : Continues (evenLineEnds text) (front ++ lines) used) :
    ∃ after, Followed [] [','] used after ∧ (commented text = true ↔ (tokensFrom after).length = 1) := by
  have here : Followed [] [','] ⟨true, .start 1, evenLineEnds text⟩ ⟨true, .start 1, evenLineEnds text ++ [',']⟩ :=
    ⟨rfl, rfl, rfl, rfl, rfl⟩
  obtain ⟨others, after, same, alike, followed⟩ :=
    continues.runs.follows [] [','] _ (setOff_cons _ _ rfl) here fun inner => absurd rfl inner
  refine ⟨after, followed, ?_⟩
  have unkept : kept [] (front ++ lines) = front ++ lines := List.filter_eq_self.mpr fun _ _ => rfl
  have lengths := alike.length_eq
  have marked : evenLineEnds (text ++ [',']) = evenLineEnds text ++ [','] := even_before ',' text [] (by decide)
  rw [unkept] at lengths
  rw [commented, tokensOf_from, tokensOf_from, marked, same, sole.all, beq_iff_eq]
  simp only [List.length_append, List.length_singleton] at lengths ⊢
  omega

theorem comment_marked (used after : Position) (followed : Followed [] [','] used after) (comment : EndsInComment used) :
    (tokensFrom after).length = 1 := by
  obtain ⟨state, -, goesOn⟩ := comment_goes_on followed comment
  rw [show tokensFrom after = state.finish from goesOn, Lexer.State.finish]
  split <;> rfl

theorem blank_marked (used after : Position) (followed : Followed [] [','] used after) (blank : EndsBlank used)
    (flat : used.fresh = false) : (tokensFrom after).length ≠ 1 := by
  have comma : step ⟨false, after.state, [',']⟩ = ([after.state.token (.mark .comma)], some ⟨false, after.state, []⟩) := rfl
  obtain ⟨front, last, ended, -⟩ := tokens_end ⟨false, after.state, []⟩
  rw [blank_goes_on followed blank flat, tokensFrom_next _ _ _ comma, ended]
  simp

end Statewright.Code
