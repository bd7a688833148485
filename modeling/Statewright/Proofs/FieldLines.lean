import Statewright.Emission.Classes
import Statewright.Machine.Fields
import Statewright.Proofs.CalledFactories
import Statewright.Proofs.FragmentChecks
import Statewright.Proofs.SoleExpressions

/-!
Lines that give a field a type and a default. Where such a line can be read, its default is the one that the field
declares, unless a comment at the end of the type goes on with it.
-/
set_option autoImplicit false

namespace Statewright.Code

open Reader Expression Statement Lexer

/-! ## Names -/

theorem starts_word (c : Char) (starts : Text.startsIdentifier c = true) : startsWord c = true := by
  unfold Text.startsIdentifier at starts
  unfold startsWord
  split at starts
  · rw [starts]
    rfl
  · rename_i wide
    simp [Nat.le_of_not_lt wide]

theorem continues_word (c : Char) (continues : Text.continuesIdentifier c = true) : Numeral.isWordChar c = true := by
  unfold Text.continuesIdentifier at continues
  unfold Numeral.isWordChar
  split at continues
  · rw [continues]
    rfl
  · rename_i wide
    simp [Nat.le_of_not_lt wide]

theorem word_continues (c : Char) (starts : startsWord c = true) : Numeral.isWordChar c = true := by
  simp only [startsWord, Numeral.isWordChar, Char.isAlphanum, Bool.or_eq_true] at starts ⊢
  rcases starts with (letter | line) | wide
  · exact .inl (.inl (.inl letter))
  · exact .inl (.inr line)
  · exact .inr wide

theorem word_no_digit (c : Char) (starts : startsWord c = true) : c.isDigit = false := by
  have letters : c.isAlpha = (decide ('A'.val ≤ c.val ∧ c.val ≤ 'Z'.val) ||
      decide ('a'.val ≤ c.val) && decide (c.val ≤ 'z'.val)) := rfl
  simp only [startsWord, letters, Bool.or_eq_true, Bool.and_eq_true, decide_eq_true_eq,
    UInt32.le_iff_toNat_le] at starts
  simp only [Char.isDigit, Bool.and_eq_false_iff, decide_eq_false_iff_not, ge_iff_le, UInt32.le_iff_toNat_le]
  have same : c.toNat = c.val.toNat := rfl
  have codes : '0'.val.toNat = 48 ∧ '9'.val.toNat = 57 ∧ 'A'.val.toNat = 65 ∧ 'Z'.val.toNat = 90 ∧
      'a'.val.toNat = 97 ∧ 'z'.val.toNat = 122 := by decide
  rcases starts with (letter | rfl) | wide
  · omega
  · decide
  · omega

theorem word_apart (c : Char) (starts : startsWord c = true) (other : Char) (differs : startsWord other = false) :
    c ≠ other := by
  rintro rfl
  rw [starts] at differs
  cases differs

-- A name stands as one token up to a character that it cannot have.
theorem name_token (name rest : Text) (c : Char) (named : isName name = true) (stops : Numeral.isWordChar c = false)
    (unquoted : quote? (c :: rest) = none) (state : Lexer.State) :
    tokensFrom ⟨false, state, name ++ c :: rest⟩ = state.token (.name name) :: tokensFrom ⟨false, state, c :: rest⟩ := by
  rw [isName, Bool.and_eq_true, Option.isNone_iff_eq_none] at named
  obtain ⟨spelled, free⟩ := named
  cases name with
  | nil => cases spelled
  | cons d name =>
      have parts := spelled
      rw [Text.isIdentifier, Bool.and_eq_true, List.all_eq_true] at parts
      have starts := starts_word d parts.1
      have digit := word_no_digit d starts
      have apart := word_apart d starts
      have first : (d :: (name ++ c :: rest)).dropWhile isSpace = d :: (name ++ c :: rest) := by
        rw [List.dropWhile_cons, if_neg]
        simp [isSpace, apart ' ' rfl, apart '\t' rfl, apart '\x0c' rfl]
      have word : (d :: (name ++ c :: rest)).takeWhile Numeral.isWordChar = d :: name := by
        rw [← List.cons_append, List.takeWhile_append_of_pos, List.takeWhile_cons, if_neg (by simp [stops]), List.append_nil]
        intro e member
        rcases List.mem_cons.mp member with rfl | member
        · exact word_continues e starts
        · exact continues_word e (parts.2 e member)
      refine tokensFrom_next ⟨false, state, d :: (name ++ c :: rest)⟩ _ [state.token (.name (d :: name))] ?_
      change inLine state (d :: (name ++ c :: rest)) = _
      rw [in_line_other state _ _ d first (apart '#' rfl) (apart '\n' rfl) (apart '\\' rfl)]
      have unnumbered : startsNumber d (name ++ c :: rest) = false := by simp [startsNumber, digit, apart '.' rfl]
      have after : (d :: (name ++ c :: rest)).drop (d :: name).length = c :: rest :=
        (List.drop_left : ((d :: name) ++ c :: rest).drop (d :: name).length = c :: rest)
      rw [if_neg (by rw [unnumbered]; exact Bool.false_ne_true), wordOrMark, if_pos starts, word]
      rw [after, unquoted]
      dsimp only
      rw [List.isEmpty_cons, if_neg Bool.false_ne_true, Lexer.name, free]
      dsimp only
      rw [if_pos spelled]
      rfl

theorem named_line (name text : Text) (named : isName name = true) :
    tokensFrom ⟨true, .start 1, name ++ ':' :: ' ' :: text⟩ =
      ⟨.name name, 1, 0⟩ :: ⟨.mark .colon, 1, 0⟩ :: tokensFrom ⟨false, .start 1, text⟩ := by
  have begun : step ⟨true, .start 1, name ++ ':' :: ' ' :: text⟩ =
      ([], some ⟨false, .start 1, name ++ ':' :: ' ' :: text⟩) := by
    have spelled := named
    rw [isName, Bool.and_eq_true] at spelled
    cases name with
    | nil => cases spelled.1
    | cons c name =>
        have starts := starts_word c (Bool.and_eq_true _ _ ▸ spelled.1).1
        have apart := word_apart c starts
        change lineStart (.start 1) (c :: (name ++ ':' :: ' ' :: text)) = _
        have flush (start : Margin) (rest : Text) : Lexer.measure start (c :: rest) = some (start, c :: rest) := by
          rw [Lexer.measure] <;> simp [apart ' ' rfl, apart '\t' rfl, apart '\x0c' rfl, apart '\\' rfl]
        have code : isBlankLine (c :: (name ++ ':' :: ' ' :: text)) = false := by
          simp [isBlankLine, apart '#' rfl, apart '\n' rfl]
        rw [lineStart, flush]
        dsimp only
        rw [if_neg (by simp [code])]
        rfl
  have colon : step ⟨false, .start 1, ':' :: ' ' :: text⟩ =
      ([⟨.mark .colon, 1, 0⟩], some ⟨false, .start 1, ' ' :: text⟩) := rfl
  rw [tokensFrom_next _ _ _ begun, name_token name _ ':' named rfl rfl, tokensFrom_next _ _ _ colon, space_passes _ _ _ rfl]
  rfl

/-! ## The line -/

theorem tokensOfLines_from (text : Text) :
    ∃ ends, (ends = [] ∧ ((evenLineEnds text).isEmpty || (evenLineEnds text).getLast? = some '\n') = true ∨ ends = ['\n']) ∧
      tokensOfLines text = tokensFrom ⟨true, .start 1, evenLineEnds text ++ ends⟩ := by
  have enough (text : Text) : scan (2 * text.length + 2) ⟨true, ⟨1, [], []⟩, text⟩ = tokensFrom ⟨true, .start 1, text⟩ :=
    scan_text text
  unfold tokensOfLines
  dsimp only
  rw [enough]
  cases ended : (evenLineEnds text).isEmpty || (evenLineEnds text).getLast? = some '\n' with
  | true => exact ⟨[], .inl ⟨rfl, rfl⟩, by rw [if_pos rfl, List.append_nil]⟩
  | false => exact ⟨['\n'], .inr rfl, by rw [if_neg Bool.false_ne_true]⟩

theorem declaration_read (rules : Rules) (turns : Nat) (name : Text) (line depth line' depth' : Nat)
    (tokens rest : List Token) (declared : Declaration)
    (ran : declaration rules turns (⟨.name name, line, depth⟩ :: ⟨.mark .colon, line', depth'⟩ :: tokens) =
      .ok (declared, rest)) :
    declared.name = name ∧ ∃ newline finish more, newline.lexeme = .newline ∧ finish.lexeme = .finish ∧
      annotation rules turns tokens = .ok ((declared.hint, declared.value), newline :: finish :: more) := by
  unfold declaration at ran
  obtain ⟨found, left, identified, goesOn⟩ := (bind_read_ok _ _ _ _ _).mp ran
  cases identified
  obtain ⟨_, left, coloned, goesOn⟩ := (bind_read_ok _ _ _ _ _).mp goesOn
  cases coloned
  obtain ⟨read, left, annotated, goesOn⟩ := (bind_read_ok _ _ _ _ _).mp goesOn
  obtain ⟨_, after, ended, goesOn⟩ := (bind_read_ok _ _ _ _ _).mp goesOn
  obtain ⟨_, last, finished, given⟩ := (bind_read_ok _ _ _ _ _).mp goesOn
  cases given
  obtain ⟨⟨newline, others, rfl, isNewline⟩, same⟩ := need_read _ _ _ _ ended
  obtain rfl : after = others := same
  obtain ⟨⟨finish, more, same, isFinish⟩, -⟩ := need_read _ _ _ _ finished
  obtain rfl : after = finish :: more := same
  exact ⟨rfl, newline, finish, more, isNewline, isFinish, annotated⟩

theorem agree_yieldedOrValues {stop other : List Token} (parting : Parting stop other) (rules twin : Rules)
    (agree : RulesAgree stop other rules twin) : Agree stop other Eq (yieldedOrValues rules) (yieldedOrValues twin) := by
  refine agree_bind (agree_isWord parting _) fun yields _ same => ?_
  obtain rfl := same
  cases yields with
  | true => exact agree_yielded parting agree.operand agree.expression
  | false => exact agree_list parting (agree_starOrExpression parting agree.operand agree.expression)

-- What is left of a line after its type and its value.
theorem annotation_leaves (depth turns : Nat) (position : Position) (read : Expr × Option Expr) (left : List Token)
    (ran : annotation (rules depth) turns (tokensFrom position) = .ok (read, left)) : left <:+ tokensFrom position := by
  obtain ⟨front, stop, all, inner, ends⟩ := tokens_split position
  have parting : Parting stop stop := parting_self ⟨ends, ends.imp fun lexeme found => ⟨found.1, follows_of_ends lexeme found.2⟩⟩
  have agree := agree_rules depth depth stop stop parting
  obtain ⟨hint, left, hinted, goesOn⟩ := (bind_read_ok _ _ _ _ _).mp ran
  obtain ⟨-, beside, used⟩ := agree.expression _ _ _ _ _ _ _ _ (all ▸ beside_same stop front inner) hinted hinted
  obtain ⟨more, after, accepted, goesOn⟩ := (bind_read_ok _ _ _ _ _).mp goesOn
  obtain ⟨one, _, head, -, -⟩ := meets_heads parting left left beside
  rw [acceptMark, accept_read _ _ _ head] at accepted
  by_cases equals : one = .mark .equals
  · subst equals
    rw [if_pos rfl] at accepted
    cases accepted
    obtain ⟨_, _, rest, rest', rfl, same, -, -, further⟩ := beside_inner parting left left _ beside head rfl
    obtain rfl := (List.cons.inj same).2
    obtain ⟨value, last, valued, given⟩ := (bind_read_ok _ _ _ _ _).mp goesOn
    cases given
    obtain ⟨-, -, also⟩ := agree_yieldedOrValues parting _ _ agree _ _ _ _ _ _ _ _ further valued valued
    exact also.trans ((List.suffix_cons _ _).trans used)
  · rw [if_neg equals] at accepted
    cases accepted
    cases goesOn
    exact used

theorem annotation_whole (depth turns : Nat) (position : Position) (read : Expr × Option Expr)
    (newline finish : Token) (more : List Token) (finished : finish.lexeme = .finish)
    (ran : annotation (rules depth) turns (tokensFrom position) = .ok (read, newline :: finish :: more)) :
    ∀ token ∈ tokensFrom position, token.isBroken = false := by
  obtain ⟨front, same⟩ := annotation_leaves depth turns position read _ ran
  have split : tokensFrom position = (front ++ [newline]) ++ finish :: more := by
    rw [← same, List.append_assoc]
    rfl
  exact (tokens_before_finish position _ more finish split finished).2

/-! ## Its type -/

theorem expression_sole (text : Text) (tree : Expr) (read : readExpression text = .ok tree) :
    ∃ front lines last used,
      Sole (levels (tokensOf text)) (levels (tokensOf text)) (tokensFrom ⟨true, .start 1, evenLineEnds text⟩) tree front lines last ∧
        Continues (evenLineEnds text) (front ++ lines) used := by
  unfold readExpression refuseNull at read
  split at read
  · cases read
  · have ran : readTokens soleExpression (levels (tokensOf text)) (tokensOf text) = .ok tree := read
    unfold readTokens at ran
    split at ran
    · rename_i value rest found
      cases ran
      rw [tokensOf_from] at found
      obtain ⟨front, lines, last, sole⟩ := sole_read _ _ _ _ rest found
      obtain ⟨used, continues⟩ := sole_continues sole
      exact ⟨front, lines, last, used, sole, continues⟩
    · cases ran

theorem start_after (used after : Position) (tail : Text) (followed : Followed [] tail used after)
    (closed : used.state.brackets = []) : ∃ line, after.state = .start line := by
  have open_ := closed_after followed closed
  have level := followed.within.level
  obtain ⟨fresh, ⟨line, columns, brackets⟩, text⟩ := after
  dsimp only at open_ level
  subst open_ level
  exact ⟨line, rfl⟩

-- The end of a type: nothing goes on behind its lines, nor behind a comment, and otherwise the equals sign does.
theorem hint_follows (type : Text) (depth turns : Nat) (tree : Expr) (front lines tokens others ends : List Token)
    (last : Token) (used after : Position) (more : Text)
    (sole : Sole depth turns (tokensFrom ⟨true, .start 1, evenLineEnds type⟩) tree front lines last)
    (continues : Continues (evenLineEnds type) (front ++ lines) used)
    (placed : Placed [] (' ' :: '=' :: ' ' :: more) used after front lines tokens others ends) :
    HeadIs (ends ++ tokensFrom after) .newline ∨ HeadIs (ends ++ tokensFrom after) .finish ∨
      ends = [] ∧ EndsBlank used ∧ used.fresh = false ∧ ∃ line equals, equals.lexeme = .mark .equals ∧
        tokensFrom after = equals :: tokensFrom ⟨false, .start line, more⟩ := by
  have newline := placed_ends sole placed
  cases ends with
  | cons end_ ends => exact .inl ⟨end_, _, rfl, newline end_ List.mem_cons_self⟩
  | nil =>
      have flat : used.fresh = false := placed.flat rfl ((placed_none placed rfl).mpr rfl)
      rcases usedUp_cases used continues.used with blank | comment
      · obtain ⟨line, same⟩ := start_after used after _ placed.followed continues.closed
        have equals : step ⟨false, .start line, '=' :: ' ' :: more⟩ =
            ([(Lexer.State.start line).token (.mark .equals)], some ⟨false, .start line, ' ' :: more⟩) := rfl
        refine .inr (.inr ⟨rfl, blank, flat, line, (Lexer.State.start line).token (.mark .equals), rfl, ?_⟩)
        rw [blank_goes_on placed.followed blank flat, same, space_passes _ _ _ rfl, tokensFrom_next _ _ _ equals,
          space_passes _ _ _ rfl]
        rfl
      · exact (comment_ends_line placed.followed continues.closed comment flat).imp id .inl

-- A line does not end with blanks that the equals sign stands behind.
theorem blank_unended (depth turns : Nat) (text : Text) (tree : Expr) (front lines tokens others ends : List Token)
    (last : Token) (used after : Position) (more : Text)
    (sole : Sole depth turns (tokensFrom ⟨true, .start 1, text⟩) tree front lines last)
    (placed : Placed [] (' ' :: '=' :: ' ' :: more) used after front lines tokens others ends)
    (closed : used.state.brackets = []) (blank : EndsBlank used) (newline finish : Token) (rest : List Token)
    (isNewline : newline.lexeme = .newline) (isFinish : finish.lexeme = .finish) :
    ends ++ tokensFrom after ≠ newline :: finish :: rest := by
  intro same
  obtain ⟨unended, unfinished⟩ := blank_stays placed.followed closed blank more rfl
  have all := placed_ends sole placed
  cases ends with
  | nil => exact unended ⟨newline, _, same, isNewline⟩
  | cons first ends =>
      obtain ⟨-, same⟩ := List.cons.inj same
      cases ends with
      | nil => exact unfinished ⟨finish, rest, same, isFinish⟩
      | cons second ends =>
          obtain ⟨rfl, -⟩ := List.cons.inj same
          have ended := all second (List.mem_cons_of_mem _ List.mem_cons_self)
          rw [isFinish] at ended
          cases ended

theorem hint_read (type : Text) (tree : Expr) (read : readExpression type = .ok tree) (more : Text) (depth turns : Nat)
    (hint : Expr) (value : Option Expr) (newline finish : Token) (rest : List Token) (isNewline : newline.lexeme = .newline)
    (isFinish : finish.lexeme = .finish)
    (ran : annotation (rules depth) turns (tokensFrom ⟨false, .start 1, evenLineEnds type ++ ' ' :: '=' :: ' ' :: more⟩) =
      .ok ((hint, value), newline :: finish :: rest)) :
    (commented type = true ∧ value = none) ∨
      (commented type = false ∧ ∃ code line, value = some code ∧
        yieldedOrValues (rules depth) turns (tokensFrom ⟨false, .start line, more⟩) = .ok (code, newline :: finish :: rest) ∧
        tokensFrom ⟨false, .start line, more⟩ <:+
          tokensFrom ⟨false, .start 1, evenLineEnds type ++ ' ' :: '=' :: ' ' :: more⟩) := by
  obtain ⟨front, lines, last, used, sole, continues⟩ := expression_sole type tree read
  obtain ⟨found, left, hinted, goesOn⟩ := (bind_read_ok _ _ _ _ _).mp ran
  obtain ⟨more_, after_, accepted, goesOn⟩ := (bind_read_ok _ _ _ _ _).mp goesOn
  have within : Within [] (.start 1) (.start 1) := ⟨rfl, rfl, rfl⟩
  have begins : ¬ HeadIs (tokensFrom ⟨false, .start 1, evenLineEnds type ++ ' ' :: '=' :: ' ' :: more⟩) .newline :=
    fun head => expression_refuses depth .newline rfl turns _ _ head hinted
  obtain ⟨after, others, ends, placed⟩ := sole_placed sole used continues [] _ _ (setOff_cons _ _ rfl) within
    (fun inner => absurd rfl inner) begins
  obtain ⟨marked, beside, comments⟩ := sole_marked type _ _ tree front lines last sole used continues
  have follows := hint_follows type _ _ tree front lines _ others ends last used after more sole continues placed
  have headed : ∃ lexeme, HeadIs (ends ++ tokensFrom after) lexeme ∧ lexeme.follows = true := by
    rcases follows with newline | finish | ⟨rfl, -, -, line, equals, isEquals, same⟩
    · exact ⟨_, newline, rfl⟩
    · exact ⟨_, finish, rfl⟩
    · exact ⟨_, ⟨equals, _, same, isEquals⟩, rfl⟩
  rcases placed_expression sole placed headed depth turns found left hinted with ⟨rfl, rfl⟩ | ⟨comma, -⟩
  · rcases follows with ended | ended | ⟨rfl, blank, flat, line, equals, isEquals, same⟩
    · rw [acceptMark, accept_read _ _ _ ended] at accepted
      cases accepted
      obtain ⟨same, left⟩ := Prod.mk.inj (Except.ok.inj goesOn)
      refine .inl ⟨comments.mpr ?_, (Prod.mk.inj same).2.symm⟩
      rcases usedUp_cases used continues.used with blank | comment
      · exact absurd left (blank_unended _ _ _ found front lines _ others ends last used after more sole placed
          continues.closed blank newline finish rest isNewline isFinish)
      · exact comment_marked used marked beside comment
    · rw [acceptMark, accept_read _ _ _ ended] at accepted
      cases accepted
      obtain ⟨-, left⟩ := Prod.mk.inj (Except.ok.inj goesOn)
      have same := head_unique _ _ _ ended ⟨newline, _, left, isNewline⟩
      cases same
    · rw [List.nil_append, same, acceptMark, accept_read _ _ _ ⟨equals, _, rfl, isEquals⟩, if_pos rfl] at accepted
      cases accepted
      obtain ⟨code, left, valued, given⟩ := (bind_read_ok _ _ _ _ _).mp goesOn
      cases given
      have unmarked : commented type = false :=
        Bool.eq_false_iff.mpr fun found => blank_marked used marked beside blank flat (comments.mp found)
      refine .inr ⟨unmarked, code, line, rfl, valued, ?_⟩
      rw [placed.all, List.nil_append, same]
      exact (List.suffix_cons _ _).trans (List.suffix_append _ _)
  · -- Behind a comma the line does not end.
    rw [acceptMark, accept_read _ _ _ comma] at accepted
    cases accepted
    cases goesOn
    have same := head_unique _ _ _ comma ⟨newline, _, rfl, isNewline⟩
    cases same

/-! ## Its value -/

theorem values_refuse (depth : Nat) (lexeme : Lexeme) (refused : startsExpression lexeme = false)
    (plain : lexeme ≠ .keyword .yield_) (unstarred : lexeme ≠ .mark .star) :
    Refuses lexeme (yieldedOrValues (rules depth)) :=
  refuses_isWord plain (refuses_bind _ _ (refuses_isMark unstarred (expression_refuses depth lexeme refused)))

theorem default_read (code : Text) (tree : Expr) (read : readExpression code = .ok tree) (tail : Text)
    (plain : tail = [] ∨ tail = ['\n']) (line depth turns : Nat) (value : Expr) (rest : List Token)
    (ran : yieldedOrValues (rules depth) turns (tokensFrom ⟨false, .start line, evenLineEnds code ++ tail⟩) =
      .ok (value, rest)) : value = tree := by
  obtain ⟨front, lines, last, used, sole, continues⟩ := expression_sole code tree read
  have within : Within [] (.start 1) (.start line) := ⟨rfl, rfl, rfl⟩
  have begins : ¬ HeadIs (tokensFrom ⟨false, .start line, evenLineEnds code ++ tail⟩) .newline := fun head =>
    values_refuse depth .newline rfl Lexeme.noConfusion Lexeme.noConfusion turns _ _ head ran
  have off : SetOff tail := by
    rcases plain with rfl | rfl
    · exact setOff_nil
    · exact setOff_cons _ _ rfl
  obtain ⟨after, others, ends, placed⟩ := sole_placed sole used continues [] _ _ off within
    (fun inner => absurd rfl inner) begins
  have follows : ∃ lexeme, HeadIs (ends ++ tokensFrom after) lexeme ∧ lexeme.follows = true := by
    cases ends with
    | cons end_ ends => exact ⟨.newline, ⟨end_, _, rfl, placed_ends sole placed end_ List.mem_cons_self⟩, rfl⟩
    | nil =>
        have flat : used.fresh = false := placed.flat rfl ((placed_none placed rfl).mpr rfl)
        rcases usedUp_cases used continues.used with blank | comment
        · obtain ⟨next, same⟩ := start_after used after _ placed.followed continues.closed
          rw [List.nil_append, blank_goes_on placed.followed blank flat, same]
          rcases plain with rfl | rfl
          · exact ⟨.finish, ⟨_, [], tokensFrom_stop _ _ rfl, rfl⟩, rfl⟩
          · exact ⟨.newline, ⟨_, _, lineEnd_tokens _ _, rfl⟩, rfl⟩
        · rcases comment_ends_line placed.followed continues.closed comment flat with ended | ended
          · exact ⟨_, ended, rfl⟩
          · exact ⟨_, ended, rfl⟩
  exact (placed_values sole placed follows depth turns value rest ran).1

theorem equals_token (text : Text) (single : ∀ more, text ≠ '=' :: more) (state : Lexer.State) :
    tokensFrom ⟨false, state, '=' :: text⟩ = state.token (.mark .equals) :: tokensFrom ⟨false, state, text⟩ := by
  have equals : markAt ('=' :: text) = some (.equals, text) := by
    rw [markAt]
    exact single
  refine tokensFrom_next _ ⟨false, state, text⟩ [state.token (.mark .equals)] ?_
  change mark state '=' text = _
  have other : opening? '=' = none ∧ closing? '=' = none := ⟨rfl, rfl⟩
  rw [mark, other.1, other.2]
  dsimp only
  rw [equals]
  rfl

-- An expression does not begin with a mark of this kind.
theorem sole_unequal (depth turns : Nat) (text : Text) (value : Expr) (front lines : List Token) (last : Token)
    (sole : Sole depth turns (tokensFrom ⟨true, .start 1, text⟩) value front lines last) (more : Text) :
    text ≠ '=' :: more := by
  rintro rfl
  have begun : step ⟨true, .start 1, '=' :: more⟩ = ([], some ⟨false, .start 1, '=' :: more⟩) := rfl
  have all := tokensFrom_next _ _ _ begun
  have refuses (mark : Mark) (rest : List Token) (refused : startsExpression (.mark mark) = false)
      (same : tokensFrom ⟨false, .start 1, '=' :: more⟩ = (Lexer.State.start 1).token (.mark mark) :: rest) : False :=
    refuses_bind _ _ (expression_refuses depth _ refused) turns _ _ ⟨_, rest, all.trans same, rfl⟩ sole.ran
  by_cases double : ∃ rest, more = '=' :: rest
  · obtain ⟨rest, rfl⟩ := double
    have equal : step ⟨false, .start 1, '=' :: '=' :: rest⟩ =
        ([(Lexer.State.start 1).token (.mark .equal)], some ⟨false, .start 1, rest⟩) := rfl
    exact refuses .equal _ rfl (tokensFrom_next _ _ _ equal)
  · exact refuses .equals _ rfl (equals_token more (fun rest same => double ⟨rest, same⟩) _)

def factoryHead : Text := "field(default_factory="

theorem factory_head (line : Nat) (text : Text) (single : ∀ more, text ≠ '=' :: more) :
    tokensFrom ⟨false, .start line, factoryHead ++ text⟩ =
      ⟨.name "field", line, 0⟩ :: ⟨.mark (.opening .round), line, 0⟩ :: ⟨.name "default_factory", line, 1⟩ ::
        ⟨.mark .equals, line, 1⟩ :: tokensFrom ⟨false, ⟨line, [], [(.round, line)]⟩, text⟩ := by
  have called : step ⟨false, .start line, Text.fixed "(default_factory=" ++ text⟩ =
      ([⟨.mark (.opening .round), line, 0⟩], some ⟨false, ⟨line, [], [(.round, line)]⟩, Text.fixed "default_factory=" ++ text⟩) :=
    rfl
  have first : tokensFrom ⟨false, .start line, factoryHead ++ text⟩ =
      ⟨.name "field", line, 0⟩ :: tokensFrom ⟨false, .start line, Text.fixed "(default_factory=" ++ text⟩ :=
    name_token "field" (Text.fixed "default_factory=" ++ text) '(' (by decide +kernel) rfl rfl (.start line)
  have second : tokensFrom ⟨false, ⟨line, [], [(.round, line)]⟩, Text.fixed "default_factory=" ++ text⟩ =
      ⟨.name "default_factory", line, 1⟩ :: tokensFrom ⟨false, ⟨line, [], [(.round, line)]⟩, '=' :: text⟩ :=
    name_token "default_factory" text '=' (by decide +kernel) rfl rfl ⟨line, [], [(.round, line)]⟩
  rw [first, tokensFrom_next _ _ _ called, second, equals_token text single]
  rfl

theorem values_extends (depth : Nat) : Extends (yieldedOrValues (rules (depth + 1))) (primary (rules depth)) :=
  extends_isWord (extends_trans (list_extends _) (extends_isMark (full_extends (rules depth))))

-- The bracket behind a factory closes the call.
theorem factory_follows (code : Text) (depth turns : Nat) (tree : Expr) (front lines others ends : List Token)
    (last : Token) (used after : Position) (state : Lexer.State)
    (sole : Sole depth turns (tokensFrom ⟨true, .start 1, evenLineEnds code⟩) tree front lines last)
    (continues : Continues (evenLineEnds code) (front ++ lines) used)
    (placed : Placed [.round] (Text.fixed ")\n") used after front lines
      (tokensFrom ⟨false, state, evenLineEnds code ++ Text.fixed ")\n"⟩) others ends)
    (whole : ∀ token ∈ tokensFrom ⟨false, state, evenLineEnds code ++ Text.fixed ")\n"⟩, token.isBroken = false) :
    ∃ close more, ends ++ tokensFrom after = close :: more ∧ close.lexeme = .mark (.closing .round) ∧ HeadIs more .newline := by
  have none_ : ends = [] := by
    have ended := placed.ended
    rw [kept_ends [.round] lines sole.ended (List.cons_ne_nil _ _)] at ended
    exact List.forall₂_nil_left_iff.mp ended
  subst none_
  rcases usedUp_cases used continues.used with blank | comment
  · obtain ⟨⟨line, columns, brackets⟩, stacked, same⟩ := blank_in_brackets .round placed.followed continues.closed blank _ rfl
    obtain ⟨opened, stack⟩ := open_after .round placed.followed continues.closed
    obtain rfl : brackets = [(.round, opened)] := stacked.trans stack
    have closes : step ⟨false, ⟨line, columns, [(.round, opened)]⟩, Text.fixed ")\n"⟩ =
        ([⟨.mark (.closing .round), line, 0⟩], some ⟨false, ⟨line, columns, []⟩, Text.fixed "\n"⟩) := rfl
    rw [List.nil_append, same, tokensFrom_next _ _ _ closes]
    exact ⟨_, _, rfl, rfl, _, _, lineEnd_tokens _ [], rfl⟩
  · obtain ⟨token, member, broken⟩ := comment_in_brackets .round placed.followed continues.closed comment rfl
    rw [placed.all] at whole
    rw [whole token (List.mem_append_right _ (List.mem_append_right _ member))] at broken
    cases broken

theorem factory_read (code : Text) (tree : Expr) (read : readExpression code = .ok tree)
    (callable : ∀ items, tree ≠ .sequence items .round) (line depth turns : Nat) (value : Expr) (rest : List Token)
    (whole : ∀ token ∈ tokensFrom ⟨false, .start line, factoryHead ++ (evenLineEnds code ++ Text.fixed ")\n")⟩,
      token.isBroken = false)
    (ran : yieldedOrValues (rules depth) turns
      (tokensFrom ⟨false, .start line, factoryHead ++ (evenLineEnds code ++ Text.fixed ")\n")⟩) = .ok (value, rest)) :
    value = .call (.name "field") [.named "default_factory" tree] := by
  obtain ⟨front, lines, last, used, sole, continues⟩ := expression_sole code tree read
  have single (more : Text) : evenLineEnds code ++ Text.fixed ")\n" ≠ '=' :: more := by
    intro same
    cases text : evenLineEnds code with
    | nil =>
        rw [text] at same
        cases same
    | cons c inner =>
        rw [text] at same sole
        exact sole_unequal _ _ _ tree front lines last sole inner (by rw [(List.cons.inj same).1])
  rw [factory_head line _ single] at whole ran
  have inner : ∀ token ∈ tokensFrom ⟨false, ⟨line, [], [(.round, line)]⟩, evenLineEnds code ++ Text.fixed ")\n"⟩,
      token.isBroken = false := fun token member => whole token (by simp [member])
  cases depth with
  | zero =>
      have refused : Refuses (.name "field") (yieldedOrValues (rules 0)) :=
        refuses_isWord Lexeme.noConfusion (refuses_bind _ _ (refuses_isMark Lexeme.noConfusion (refuses_fail _)))
      exact absurd ran (refused turns _ _ ⟨_, _, rfl, rfl⟩)
  | succ depth =>
      obtain ⟨first, left, called, same⟩ := values_extends depth turns _ "field" value _ ⟨_, _, rfl, rfl⟩ ran
      obtain ⟨made, further, argued, closed⟩ := call_read (rules depth) turns "field" "default_factory" _ _ _ _ _ left first
        rfl rfl rfl rfl called
      have within : Within [.round] (.start 1) ⟨line, [], [(.round, line)]⟩ := ⟨rfl, rfl, rfl⟩
      have begins : ¬ HeadIs (tokensFrom ⟨false, ⟨line, [], [(.round, line)]⟩, evenLineEnds code ++ Text.fixed ")\n"⟩)
          .newline := fun head => expression_refuses depth .newline rfl turns _ _ head argued
      obtain ⟨after, others, ends, placed⟩ := sole_placed sole used continues [.round] _ _ (setOff_cons _ _ rfl) within
        (fun _ => inner) begins
      obtain ⟨close, more, goesOn, closes, ended⟩ := factory_follows code _ _ tree front lines others ends last used after _ sole
        continues placed inner
      have follows : ∃ lexeme, HeadIs (ends ++ tokensFrom after) lexeme ∧ lexeme.follows = true :=
        ⟨_, ⟨close, more, goesOn, closes⟩, rfl⟩
      rcases placed_expression sole placed follows depth turns made further argued with ⟨rfl, rfl⟩ | ⟨-, items, tuple⟩
      · obtain ⟨rfl, rfl⟩ := closed close more goesOn closes ended
        exact (same ended).1
      · exact absurd tuple (callable items)

/-! ## The whole line -/

theorem name_plain (name : Text) (named : isName name = true) : '\r' ∉ name := by
  rw [isName, Bool.and_eq_true] at named
  intro member
  cases name with
  | nil => cases member
  | cons c name =>
      have parts := named.1
      rw [Text.isIdentifier, Bool.and_eq_true, List.all_eq_true] at parts
      rcases List.mem_cons.mp member with rfl | member
      · cases parts.1
      · cases parts.2 _ member

theorem line_even (name type value : Text) (named : isName name = true) :
    evenLineEnds (name ++ Text.fixed ": " ++ type ++ (Text.fixed " = " ++ value)) =
      name ++ ':' :: ' ' :: (evenLineEnds type ++ ' ' :: '=' :: ' ' :: evenLineEnds value) := by
  have plain : '\r' ∉ name ++ Text.fixed ": " := by
    simp [name_plain name named]
    decide
  have marked : evenLineEnds (Text.fixed " = " ++ value) = Text.fixed " = " ++ evenLineEnds value :=
    even_after_plain _ _ (by decide)
  rw [List.append_assoc, even_after_plain _ _ plain, List.append_assoc]
  have split : evenLineEnds (type ++ (Text.fixed " = " ++ value)) =
      evenLineEnds type ++ evenLineEnds (Text.fixed " = " ++ value) := even_before ' ' type _ (by decide)
  rw [split, marked]
  rfl

theorem ended_behind (front value : Text)
    (ended : ((front ++ ' ' :: value).isEmpty || (front ++ ' ' :: value).getLast? = some '\n') = true) :
    value.getLast? = some '\n' := by
  cases value with
  | nil => simp at ended
  | cons c value =>
      rw [List.getLast?_append, List.getLast?_cons_cons] at ended
      cases last : (c :: value).getLast? with
      | none => simp at last
      | some d => simpa [last] using ended

theorem declaration_tokens (line : Text) (declared : Declaration) (ran : readDeclaration line = .ok declared) :
    ∃ rest, declaration (rules (levels (tokensOfLines line))) (levels (tokensOfLines line)) (tokensOfLines line) =
      .ok (declared, rest) := by
  unfold readDeclaration refuseNull at ran
  split at ran
  · cases ran
  · have found : readTokens declaration (levels (tokensOfLines line)) (tokensOfLines line) = .ok declared := ran
    unfold readTokens at found
    split at found
    · rename_i value rest same
      cases found
      exact ⟨rest, same⟩
    · cases found

-- Where a line with a type and a value can be read.
theorem valued_line (name type value : Text) (tree : Expr) (named : isName name = true)
    (typed : readExpression type = .ok tree) (declared : Declaration)
    (ran : readDeclaration (name ++ Text.fixed ": " ++ type ++ (Text.fixed " = " ++ value)) = .ok declared) :
    declared.name = name ∧ ((commented type = true ∧ declared.value = none) ∨
      (commented type = false ∧ ∃ code line depth rest ends, declared.value = some code ∧
        (ends = [] ∧ (evenLineEnds value).getLast? = some '\n' ∨ ends = ['\n']) ∧
        yieldedOrValues (rules depth) depth (tokensFrom ⟨false, .start line, evenLineEnds value ++ ends⟩) = .ok (code, rest) ∧
        ∀ token ∈ tokensFrom ⟨false, .start line, evenLineEnds value ++ ends⟩, token.isBroken = false)) := by
  obtain ⟨rest, found⟩ := declaration_tokens _ declared ran
  obtain ⟨ends, plain, same⟩ := tokensOfLines_from (name ++ Text.fixed ": " ++ type ++ (Text.fixed " = " ++ value))
  rw [same, line_even name type value named] at found
  rw [line_even name type value named] at plain
  have moved : name ++ ':' :: ' ' :: (evenLineEnds type ++ ' ' :: '=' :: ' ' :: evenLineEnds value) ++ ends =
      name ++ ':' :: ' ' :: (evenLineEnds type ++ ' ' :: '=' :: ' ' :: (evenLineEnds value ++ ends)) := by
    simp
  rw [moved, named_line name _ named] at found
  obtain ⟨rfl, newline, finish, more, isNewline, isFinish, annotated⟩ := declaration_read _ _ _ _ _ _ _ _ _ _ found
  refine ⟨rfl, ?_⟩
  have whole := annotation_whole _ _ _ _ newline finish more isFinish annotated
  rcases hint_read type tree typed _ _ _ _ _ newline finish more isNewline isFinish annotated with
    none_ | ⟨unmarked, code, line, given, valued, within⟩
  · exact .inl none_
  · refine .inr ⟨unmarked, code, line, _, _, ends, given, plain.imp ?_ id, valued, fun token member => ?_⟩
    · rintro ⟨none_, ended⟩
      have split : declared.name ++ ':' :: ' ' :: (evenLineEnds type ++ ' ' :: '=' :: ' ' :: evenLineEnds value) =
          (declared.name ++ ':' :: ' ' :: (evenLineEnds type ++ [' ', '='])) ++ ' ' :: evenLineEnds value := by simp
      rw [split] at ended
      exact ⟨none_, ended_behind _ _ ended⟩
    · exact whole token (within.subset member)

def typeText (field : Field) : Text := if field.type.isEmpty then "Any" else field.type

-- The code of the value that a field declares.
def declared? (field : Field) : Option Expr :=
  match field.default, field.factory with
  | some code, _ => (readExpression code).toOption
  | none, some code =>
    (readExpression code).toOption.map fun factory => .call (.name "field") [.named "default_factory" factory]
  | none, none => none

theorem declared_default (field : Field) (code : Text) (given : field.default = some code) :
    declared? field = (readExpression code).toOption := by
  unfold declared?
  rw [given]

theorem declared_factory (field : Field) (code : Text) (none_ : field.default = none) (given : field.factory = some code) :
    declared? field =
      (readExpression code).toOption.map fun factory => .call (.name "field") [.named "default_factory" factory] := by
  unfold declared?
  rw [none_, given]

theorem default_line (field : Field) (code : Text) (given : field.default = some code) :
    Emission.fieldLine field = field.name ++ Text.fixed ": " ++ typeText field ++ (Text.fixed " = " ++ code) := by
  unfold Emission.fieldLine typeText
  rw [given]

theorem factory_line (field : Field) (code : Text) (none_ : field.default = none) (given : field.factory = some code) :
    Emission.fieldLine field =
      field.name ++ Text.fixed ": " ++ typeText field ++ (Text.fixed " = " ++ (factoryHead ++ (code ++ [')']))) := by
  unfold Emission.fieldLine typeText
  rw [none_, given]
  dsimp only
  rw [← List.append_assoc factoryHead, ← List.append_assoc (Text.fixed " = "), ← List.append_assoc (Text.fixed " = ")]
  rfl

theorem type_read (field : Field) (reads : Validation.FieldReads field) :
    (∃ tree, readExpression (typeText field) = .ok tree) ∧ commented (typeText field) = commented field.type := by
  unfold typeText
  cases type : field.type with
  | nil => exact ⟨⟨.name "Any", rfl⟩, by decide +kernel⟩
  | cons c rest =>
      have read := reads.type (by rw [type]; exact List.cons_ne_nil _ _)
      rw [type] at read
      exact ⟨read, rfl⟩

-- A line that can be read gives its field what the field declares, and nothing if its type ends in a comment.
theorem field_line_read (field : Field) (named : isName field.name = true) (reads : Validation.FieldReads field)
    (given : field.hasDefault = true)
    (callable : ∀ code ∈ field.factory, ∀ items, readExpression code ≠ .ok (.sequence items .round))
    (declared : Declaration) (ran : readDeclaration (Emission.fieldLine field) = .ok declared) :
    declared.name = field.name ∧ declared.value = if commented field.type then none else declared? field := by
  obtain ⟨⟨tree, typed⟩, marked⟩ := type_read field reads
  rw [← marked]
  cases default : field.default with
  | some code =>
      rw [default_line field code default] at ran
      obtain ⟨value, read⟩ := reads.default code default
      obtain ⟨sameName, ⟨comment, none_⟩ | ⟨plain, found, line, depth, rest, ends, shown, tail, valued, -⟩⟩ :=
        valued_line field.name _ code tree named typed declared ran
      · exact ⟨sameName, by rw [none_, if_pos comment]⟩
      · obtain rfl := default_read code value read ends (tail.imp And.left id) line depth depth found rest valued
        rw [shown, plain, if_neg Bool.false_ne_true, declared_default field code default, read]
        exact ⟨sameName, rfl⟩
  | none =>
      obtain ⟨code, factory⟩ : ∃ code, field.factory = some code := by
        rw [Field.hasDefault, default, Option.isSome_none, Bool.false_or] at given
        exact Option.isSome_iff_exists.mp given
      rw [factory_line field code default factory] at ran
      obtain ⟨value, read⟩ := reads.factory code factory
      have even : evenLineEnds (factoryHead ++ (code ++ [')'])) = factoryHead ++ (evenLineEnds code ++ [')']) := by
        rw [even_after_plain factoryHead _ (by decide)]
        exact congrArg (factoryHead ++ ·) (even_before ')' code [] (by decide))
      obtain ⟨sameName, ⟨comment, none_⟩ | ⟨plain, found, line, depth, rest, ends, shown, tail, valued, whole⟩⟩ :=
        valued_line field.name _ _ tree named typed declared ran
      · exact ⟨sameName, by rw [none_, if_pos comment]⟩
      · have last : ends = ['\n'] := by
          refine tail.resolve_left fun closed => ?_
          rw [even, ← List.append_assoc, List.getLast?_concat] at closed
          cases closed.2
        subst last
        have text : evenLineEnds (factoryHead ++ (code ++ [')'])) ++ ['\n'] =
            factoryHead ++ (evenLineEnds code ++ Text.fixed ")\n") := by
          rw [even, List.append_assoc, List.append_assoc]
          rfl
        rw [text] at valued whole
        obtain rfl := factory_read code value read
          (fun items same => callable code factory items (by rw [read, same])) line depth depth found rest whole valued
        rw [shown, plain, if_neg Bool.false_ne_true, declared_factory field code default factory, read]
        exact ⟨sameName, rfl⟩

end Statewright.Code
