import Statewright.Proofs.Headings
import Statewright.Proofs.Readers

/-!
Lists of parameters, read after the object they belong to and read alone. Putting the object in front changes what
has been read and nothing else, except where a list begins with a slash: only the object stands before it.
-/
set_option autoImplicit false

namespace Statewright.Code

open Reader Expression Statement

namespace Expression.ParamsRead

-- What is read of a list that follows the object.
def behind (object : Param) (read : ParamsRead) : ParamsRead :=
  { read with
    positionalOnly := if read.positionalOnly.isEmpty then [] else object :: read.positionalOnly
    positional := if read.positionalOnly.isEmpty then object :: read.positional else read.positional }

-- Something other than a slash has been read.
def begun (read : ParamsRead) : Bool :=
  read.starred || read.keywords.isSome || !read.positional.isEmpty || !read.positionalOnly.isEmpty

end Expression.ParamsRead

section
variable (object : Param) (expression : Reader Expr) (hint starHint : Reader (Option Expr)) (read : ParamsRead)

theorem slash_behind (given : read.begun) (more : read.keywords = none) :
    slashItem (read.behind object) = ParamsRead.behind object <$> slashItem read := by
  obtain ⟨positionalOnly, positional, rest, keywordOnly, keywords, starred, bare⟩ := read
  change keywords = none at more
  subst more
  cases starred with
  | true => simp [slashItem, ParamsRead.behind, fail_bind, map_fail]
  | false =>
      cases positionalOnly with
      | cons only after => simp [slashItem, ParamsRead.behind, fail_bind, map_fail]
      | nil =>
          cases positional with
          | cons one after => simp [slashItem, ParamsRead.behind]
          | nil => simp [ParamsRead.begun] at given

theorem star_behind : starItem starHint (read.behind object) = ParamsRead.behind object <$> starItem starHint read := by
  unfold starItem
  rw [show (read.behind object).starred = read.starred from rfl]
  cases read.starred with
  | true => simp only [if_true, fail_bind, map_fail]
  | false =>
      simp only [Bool.false_eq_true, if_false, map_bind]
      refine bind_congr fun _ => bind_congr fun next => ?_
      cases next with
      | name id =>
          simp only [map_bind, map_pure]
          rfl
      | _ =>
          simp only [map_bind]
          refine bind_congr fun comma => ?_
          cases comma with
          | true => rfl
          | false => simp only [Bool.not_false, if_true, fail_bind, map_fail]

theorem doubleStar_behind :
    doubleStarItem hint (read.behind object) = ParamsRead.behind object <$> doubleStarItem hint read := by
  unfold doubleStarItem
  rw [show (read.behind object).bare = read.bare from rfl]
  cases read.bare with
  | true => simp only [if_true, fail_bind, map_fail]
  | false =>
      simp only [Bool.false_eq_true, if_false, map_bind, map_pure]
      rfl

theorem plain_behind (plain : object.default = none) :
    plainItem expression hint (read.behind object) = ParamsRead.behind object <$> plainItem expression hint read := by
  have before : ((read.behind object).positionalOnly ++ (read.behind object).positional).any (·.default.isSome) =
      (read.positionalOnly ++ read.positional).any (·.default.isSome) := by
    cases only : read.positionalOnly <;> simp [ParamsRead.behind, only, plain]
  have after : ∀ one, { read.behind object with positional := (read.behind object).positional ++ [one] } =
      ParamsRead.behind object { read with positional := read.positional ++ [one] } := by
    intro one
    cases only : read.positionalOnly <;> simp [ParamsRead.behind, only]
  unfold plainItem
  simp only [map_bind, before, show (read.behind object).starred = read.starred from rfl]
  refine bind_congr fun line => bind_congr fun one => ?_
  by_cases starred : read.starred = true
  · rw [if_pos starred, if_pos starred]
    rfl
  · rw [if_neg starred, if_neg starred]
    by_cases late : (one.default.isNone && (read.positionalOnly ++ read.positional).any (·.default.isSome)) = true
    · rw [if_pos late, if_pos late, failAt_bind, failAt_bind, map_failAt]
    · rw [if_neg late, if_neg late]
      exact congrArg pure (after one)

end

section
variable (object : Param) (expression : Reader Expr) (hint starHint : Reader (Option Expr)) (read : ParamsRead)
  (turns : Nat) (tokens : List Token)

-- The next token is a slash.
def slashNext : List Token → Bool
  | token :: _ => token.lexeme = .mark .slash
  | [] => false

theorem item_behind (plain : object.default = none) (told : read.begun ∨ slashNext tokens = false) :
    paramItem expression hint starHint (read.behind object) turns tokens =
      (ParamsRead.behind object <$> paramItem expression hint starHint read) turns tokens := by
  unfold paramItem
  rw [show (read.behind object).keywords = read.keywords from rfl]
  cases more : read.keywords with
  | some last => simp only [Option.isSome_some, if_true, fail_bind, map_fail]
  | none =>
      simp only [Option.isSome_none, Bool.false_eq_true, if_false, map_bind]
      rw [bind_read, bind_read]
      cases tokens with
      | nil => rfl
      | cons token after =>
          obtain ⟨lexeme, line, depth⟩ := token
          cases lexeme with
          | mark mark =>
              cases mark with
              | slash =>
                  have given : read.begun := told.resolve_right (by simp [slashNext])
                  exact congrFun (congrFun (slash_behind object read given more) turns) _
              | star => exact congrFun (congrFun (star_behind object starHint read) turns) _
              | doubleStar => exact congrFun (congrFun (doubleStar_behind object hint read) turns) _
              | _ => exact congrFun (congrFun (plain_behind object expression hint read plain) turns) _
          | _ => exact congrFun (congrFun (plain_behind object expression hint read plain) turns) _

end

theorem slash_begins (read : ParamsRead) : Yields (slashItem read) (·.begun = true) := by
  unfold slashItem
  by_cases misplaced : (read.starred || read.positional.isEmpty || !read.positionalOnly.isEmpty) = true
  · rw [if_pos misplaced, fail_bind]
    exact yields_fail
  · rw [if_neg misplaced]
    refine yields_bind _ _ fun _ => yields_return _ ?_
    simp only [Bool.not_eq_true, Bool.or_eq_false_iff] at misplaced
    simp [ParamsRead.begun, misplaced]

theorem star_begins (starHint : Reader (Option Expr)) (read : ParamsRead) :
    Yields (starItem starHint read) (·.begun = true) := by
  unfold starItem
  by_cases again : read.starred = true
  · rw [if_pos again, fail_bind]
    exact yields_fail
  · rw [if_neg again]
    refine yields_bind _ _ fun _ => yields_bind _ _ fun next => ?_
    cases next with
    | name id => exact yields_bind _ _ fun _ => yields_bind _ _ fun _ => yields_return _ rfl
    | _ =>
        refine yields_bind _ _ fun comma => ?_
        cases comma with
        | true => exact yields_return _ rfl
        | false =>
            rw [if_pos (by rfl), fail_bind]
            exact yields_fail

theorem doubleStar_begins (hint : Reader (Option Expr)) (read : ParamsRead) :
    Yields (doubleStarItem hint read) (·.begun = true) := by
  unfold doubleStarItem
  by_cases bare : read.bare = true
  · rw [if_pos bare, fail_bind]
    exact yields_fail
  · rw [if_neg bare]
    refine yields_bind _ _ fun _ => yields_bind _ _ fun _ => yields_bind _ _ fun _ => yields_return _ ?_
    simp [ParamsRead.begun]

theorem plain_begins (expression : Reader Expr) (hint : Reader (Option Expr)) (read : ParamsRead) :
    Yields (plainItem expression hint read) (·.begun = true) := by
  unfold plainItem
  refine yields_bind _ _ fun line => yields_bind _ _ fun one => ?_
  by_cases starred : read.starred = true
  · rw [if_pos starred]
    exact yields_return _ (by simp [ParamsRead.begun, starred])
  · rw [if_neg starred]
    by_cases late : (one.default.isNone && (read.positionalOnly ++ read.positional).any (·.default.isSome)) = true
    · rw [if_pos late, failAt_bind]
      exact yields_failAt line
    · rw [if_neg late]
      exact yields_return _ (by simp [ParamsRead.begun])

theorem item_begins (expression : Reader Expr) (hint starHint : Reader (Option Expr)) (read : ParamsRead) :
    Yields (paramItem expression hint starHint read) (·.begun = true) := by
  unfold paramItem
  by_cases last : read.keywords.isSome = true
  · rw [if_pos last, fail_bind]
    exact yields_fail
  · rw [if_neg last]
    refine yields_bind _ _ fun next => ?_
    cases next with
    | mark mark =>
        cases mark with
        | slash => exact slash_begins read
        | star => exact star_begins starHint read
        | doubleStar => exact doubleStar_begins hint read
        | _ => exact plain_begins expression hint read
    | _ => exact plain_begins expression hint read

section
variable (inner : Rules)

-- The parameters in a heading.
def listed : Reader Params :=
  paramList inner.expression (hint inner.expression) (starHint inner.operand inner.expression) (.closing .round)

def listTurn (read : ParamsRead) : Reader (ParamsRead ⊕ Params) := do
  if ← isMark (.closing .round) then
    if read.bare then fail
    return .inr read.params
  let read ← paramItem inner.expression (hint inner.expression) (starHint inner.operand inner.expression) read
  if ← isMark (.closing .round) then
    if read.bare then fail
    return .inr read.params
  needMark .comma
  return .inl read

def closedList (read : ParamsRead) : Reader Params := do
  if read.bare then fail
  return read.params

-- The list after one of its items.
def listAfter (fuel : Nat) (read : ParamsRead) : Reader Params := do
  if ← isMark (.closing .round) then closedList read
  else
    needMark .comma
    iterate (listTurn inner) fuel read

theorem list_turn (fuel : Nat) (read : ParamsRead) :
    iterate (listTurn inner) (fuel + 1) read = (do
      if ← isMark (.closing .round) then closedList read
      else
        let read ← paramItem inner.expression (hint inner.expression) (starHint inner.operand inner.expression) read
        listAfter inner fuel read) := by
  rw [iterate, listTurn]
  simp only [bind_assoc]
  refine bind_congr fun closing => ?_
  cases closing with
  | true => cases bare : read.bare <;> simp [closedList, bare]
  | false =>
      simp only [Bool.false_eq_true, if_false, bind_assoc]
      refine bind_congr fun read => ?_
      rw [listAfter]
      refine bind_congr fun closing => ?_
      cases closing with
      | true => cases bare : read.bare <;> simp [closedList, bare]
      | false => simp

end

theorem params_behind (object : Param) (read : ParamsRead) : (read.behind object).params.dropFirst = read.params := by
  cases only : read.positionalOnly <;> simp [ParamsRead.behind, ParamsRead.params, Params.dropFirst, only]

theorem closed_behind (object : Param) (read : ParamsRead) :
    Params.dropFirst <$> closedList (read.behind object) = closedList read := by
  unfold closedList
  rw [show (read.behind object).bare = read.bare from rfl]
  cases read.bare with
  | true => simp only [if_true, fail_bind, map_fail]
  | false => simp only [Bool.false_eq_true, if_false, map_pure, params_behind]

theorem after_behind (inner : Rules) (object : Param) (fuel : Nat) (read : ParamsRead)
    (later : Params.dropFirst <$> iterate (listTurn inner) fuel (read.behind object) =
      iterate (listTurn inner) fuel read) :
    Params.dropFirst <$> listAfter inner fuel (read.behind object) = listAfter inner fuel read := by
  unfold listAfter
  rw [map_bind]
  refine bind_congr fun closing => ?_
  cases closing with
  | true => exact closed_behind object read
  | false => simp only [Bool.false_eq_true, if_false, map_bind, later]

-- By induction on the turns: the first item may not be a slash, and every later one follows an item.
theorem list_behind (inner : Rules) (object : Param) (plain : object.default = none) (fuel turns : Nat)
    (read : ParamsRead) (tokens : List Token) (told : read.begun ∨ slashNext tokens = false) :
    (Params.dropFirst <$> iterate (listTurn inner) fuel (read.behind object)) turns tokens =
      iterate (listTurn inner) fuel read turns tokens := by
  induction fuel generalizing turns read tokens with
  | zero => exact congrFun (congrFun (map_fail Params.dropFirst) turns) tokens
  | succ fuel ih =>
      rw [list_turn, list_turn, map_bind, bind_read, bind_read]
      cases tokens with
      | nil => rfl
      | cons token more =>
          rw [isMark_read]
          cases token.lexeme == .mark (.closing .round) with
          | true => exact congrFun (congrFun (closed_behind object read) turns) _
          | false =>
              simp only [Bool.false_eq_true, if_false, map_bind]
              rw [bind_read, bind_read, item_behind object _ _ _ read turns _ plain told, map_read]
              cases item : paramItem inner.expression (hint inner.expression) (starHint inner.operand inner.expression)
                  read turns (token :: more) with
              | error fault => rfl
              | ok read =>
                  have given : read.1.begun := item_begins _ _ _ _ _ _ _ _ item
                  have later := after_behind inner object fuel read.1 (funext fun turns => funext fun tokens =>
                    ih turns read.1 tokens (.inl given))
                  exact congrFun (congrFun later turns) read.2

/-! ## The heading -/

def statementsTurn (rules : Rules) (read : List Stmt) : Reader (List Stmt ⊕ List Stmt) := do
  if ← accept .finish then return .inr read
  return .inl (read ++ (← rules.statement))

theorem statements_eq (rules : Rules) : statements rules = loop [] (statementsTurn rules) := rfl

theorem statements_after (rules : Rules) (fuel : Nat) (first : Stmt) (read : List Stmt) :
    iterate (statementsTurn rules) fuel (first :: read) =
      (first :: ·) <$> iterate (statementsTurn rules) fuel read := by
  induction fuel generalizing read with
  | zero => exact (map_fail _).symm
  | succ fuel ih =>
      simp only [iterate, statementsTurn, bind_assoc, map_bind]
      refine bind_congr fun finished => ?_
      cases finished with
      | true => simp
      | false => simp [ih]

-- What follows the parameters in a heading, up to the end of its line.
def bodyAfter (inner : Rules) : Reader (List Stmt) := do
  needMark (.closing .round)
  if ← acceptMark .arrow then
    let _ ← inner.expression
  colonBlock inner

def afterList (depth : Nat) : Reader (List Stmt) := do
  let _ ← bodyAfter (rules depth)
  iterate (statementsTurn (rules (depth + 1))) depth []

theorem first_statement (depth turns : Nat) (rest : List Token) :
    statementsTurn (rules (depth + 1)) [] turns (headTokens ++ rest) =
      (do
        let params ← listed (rules depth)
        let body ← bodyAfter (rules depth)
        return .inl [.define "_f" params body] : Reader (List Stmt ⊕ List Stmt)) turns rest := by
  have defined : (rules (depth + 1)).statement turns (headTokens ++ rest) =
      (do
        let params ← listed (rules depth)
        let body ← bodyAfter (rules depth)
        return [.define "_f" params body] : Reader (List Stmt)) turns rest := by
    change (do
      let one ← (do
        let params ← listed (rules depth)
        needMark (.closing .round)
        if ← acceptMark .arrow then
          let _ ← (rules depth).expression
        return .define "_f" params (← colonBlock (rules depth)) : Reader Stmt)
      return [one] : Reader (List Stmt)) turns rest = _
    simp only [bodyAfter, bind_assoc]
    refine congrFun (congrFun (bind_congr fun params => bind_congr fun _ => bind_congr fun arrow => ?_) turns) rest
    cases arrow <;> simp
  change (do
    let read ← (rules (depth + 1)).statement
    return .inl ([] ++ read) : Reader (List Stmt ⊕ List Stmt)) turns (headTokens ++ rest) = _
  rw [bind_read, defined, ← bind_read]
  simp only [bind_assoc, pure_bind, List.nil_append]

theorem heading_read (depth : Nat) (rest : List Token) :
    (firstParams <$> statements (rules (depth + 1))) (depth + 1) (headTokens ++ rest) =
      (do
        let params ← listed (rules depth)
        let _ ← afterList depth
        return params : Reader Params) (depth + 1) rest := by
  have opened : statements (rules (depth + 1)) (depth + 1) (headTokens ++ rest) =
      (do
        let params ← listed (rules depth)
        let body ← bodyAfter (rules depth)
        iterate (statementsTurn (rules (depth + 1))) depth [.define "_f" params body] : Reader (List Stmt))
        (depth + 1) rest := by
    rw [statements_eq]
    change iterate (statementsTurn (rules (depth + 1))) (depth + 1) [] (depth + 1) (headTokens ++ rest) = _
    rw [iterate, bind_read, first_statement, ← bind_read]
    simp only [bind_assoc, pure_bind]
  have named : ∀ params body,
      firstParams <$> iterate (statementsTurn (rules (depth + 1))) depth [.define "_f" params body] =
        (fun _ => params) <$> iterate (statementsTurn (rules (depth + 1))) depth [] := by
    intro params body
    rw [statements_after, ← comp_map]
    rfl
  rw [map_read, opened, ← map_read]
  simp only [map_bind, named, afterList, bind_assoc]
  rfl

theorem reading_in (depth : Nat) (text : Text) (read : Params) :
    (readStatementsIn depth text).map firstParams = .ok read ↔
      text.contains (Char.ofNat 0) = false ∧
        ∃ rest, (firstParams <$> statements (rules depth)) depth (tokensOfLines text) = .ok (read, rest) := by
  rw [map_read, readStatementsIn, refuseNull]
  cases text.contains (Char.ofNat 0) with
  | true => simp [Bind.bind, Except.bind, Except.map]
  | false =>
      simp only [Bool.false_eq_true, if_false, true_and]
      change (readTokens statements depth (tokensOfLines text)).map firstParams = .ok read ↔ _
      rw [readTokens]
      cases statements (rules depth) depth (tokensOfLines text) with
      | error fault => simp [Except.map]
      | ok result => simp [Except.map]

theorem heading_null (before params : Text) (clean : before.contains (Char.ofNat 0) = false) :
    (heading before params).contains (Char.ofNat 0) = params.contains (Char.ofNat 0) := by
  rw [heading, List.contains_append, List.contains_append, List.contains_append, clean]
  cases params.contains (Char.ofNat 0) <;> rfl

def object : Param := ⟨"self", none, none⟩

theorem object_listed (inner : Rules) (depth : Nat) (rest : List Token) :
    listed inner (depth + 1) (objectTokens ++ rest) =
      iterate (listTurn inner) depth (ParamsRead.start.behind object) (depth + 1) rest := by
  change iterate (listTurn inner) (depth + 1) ParamsRead.start (depth + 1) (objectTokens ++ rest) = _
  rw [list_turn]
  rfl

-- The list begins with a slash: nothing in it stands before the slash.
def opensWithSlash (params : Text) : Bool := slashNext (listTokens params)

-- How deep the rules of the items of a list go.
def itemDepth (params : Text) : Nat := 2 * (tokensOfLines (heading "self, " params)).foldr (room · + ·) 0 + 1

-- A reading of the whole heading is one of its list and one of what follows it.
theorem heading_ran (depth : Nat) (list : Reader Params) (turns : Nat) (tokens : List Token) (read : Params) :
    (∃ rest, (do
        let params ← list
        let _ ← afterList depth
        return params : Reader Params) turns tokens = .ok (read, rest)) ↔
      ∃ left last, list turns tokens = .ok (read, left) ∧ afterList depth turns left = .ok last := by
  constructor
  · rintro ⟨rest, ran⟩
    obtain ⟨found, left, listed, ran⟩ := (bind_read_ok _ _ _ _ _).mp ran
    obtain ⟨body, _, followed, ran⟩ := (bind_read_ok _ _ _ _ _).mp ran
    cases ran
    exact ⟨left, (body, rest), listed, followed⟩
  · rintro ⟨left, ⟨body, after⟩, listed, followed⟩
    exact ⟨after, (bind_read_ok _ _ _ _ _).mpr ⟨read, left, listed,
      (bind_read_ok _ _ _ _ _).mpr ⟨body, after, followed, rfl⟩⟩⟩

theorem alone_read (params : Text) (read : Params) :
    readParams params = .ok read ↔
      params.contains (Char.ofNat 0) = false ∧ ∃ left last,
        iterate (listTurn (rules (itemDepth params))) (itemDepth params + 1) ParamsRead.start (itemDepth params + 1)
          (listTokens params) = .ok (read, left) ∧
        afterList (itemDepth params) (itemDepth params + 1) left = .ok last := by
  change (readStatementsIn (itemDepth params + 1) (heading [] params)).map firstParams = .ok read ↔ _
  rw [reading_in, heading_null [] params rfl, tokens_alone, heading_read, heading_ran]
  rfl

theorem method_read (params : Text) (read : Params) (filled : params.isEmpty = false) :
    readMethodParams params = .ok read ↔
      params.contains (Char.ofNat 0) = false ∧ ∃ found left last,
        iterate (listTurn (rules (itemDepth params))) (itemDepth params) (ParamsRead.start.behind object)
          (itemDepth params + 1) (listTokens params) = .ok (found, left) ∧
        afterList (itemDepth params) (itemDepth params + 1) left = .ok last ∧ found.dropFirst = read := by
  have dropped : readMethodParams params = .ok read ↔
      ∃ found, readHeading "self, " params = .ok found ∧ found.dropFirst = read := by
    rw [readMethodParams, filled, if_neg Bool.false_ne_true]
    cases readHeading "self, " params <;> simp [Except.map]
  have whole : ∀ found, readHeading "self, " params = .ok found ↔
      params.contains (Char.ofNat 0) = false ∧ ∃ left last,
        iterate (listTurn (rules (itemDepth params))) (itemDepth params) (ParamsRead.start.behind object)
          (itemDepth params + 1) (listTokens params) = .ok (found, left) ∧
        afterList (itemDepth params) (itemDepth params + 1) left = .ok last := by
    intro found
    change (readStatementsIn (itemDepth params + 1) (heading "self, " params)).map firstParams = .ok found ↔ _
    rw [reading_in, heading_null _ params (by decide), tokens_after_object, heading_read, heading_ran, object_listed]
  rw [dropped]
  constructor
  · rintro ⟨found, headed, rfl⟩
    obtain ⟨clean, left, last, list, followed⟩ := (whole found).mp headed
    exact ⟨clean, found, left, last, list, followed, rfl⟩
  · rintro ⟨clean, found, left, last, list, followed, rfl⟩
    exact ⟨found, (whole found).mpr ⟨clean, left, last, list, followed⟩, rfl⟩

theorem no_list_opens_with_slash (inner : Rules) (fuel turns : Nat) (tokens : List Token) (result : Params × List Token)
    (slash : slashNext tokens = true) : iterate (listTurn inner) fuel ParamsRead.start turns tokens ≠ .ok result := by
  intro ran
  cases fuel with
  | zero => exact fail_ne_ok turns tokens result ran
  | succ fuel =>
      cases tokens with
      | nil => cases slash
      | cons token more =>
          obtain ⟨lexeme, line, depth⟩ := token
          obtain rfl : lexeme = .mark .slash := of_decide_eq_true slash
          have stuck : iterate (listTurn inner) (fuel + 1) ParamsRead.start turns
              (⟨.mark .slash, line, depth⟩ :: more) = .error (.unexpected line line false) := by
            rw [list_turn]
            rfl
          rw [stuck] at ran
          cases ran

-- A list that can follow the object and does not begin with a slash reads alone as it reads there.
theorem alone_of_after_object (params : Text) (read : Params) (filled : params.isEmpty = false)
    (accepted : readMethodParams params = .ok read) (begins : opensWithSlash params = false) :
    readParams params = .ok read := by
  obtain ⟨clean, found, left, last, list, followed, rfl⟩ := (method_read params read filled).mp accepted
  have same := list_behind (rules (itemDepth params)) object rfl (itemDepth params) (itemDepth params + 1)
    ParamsRead.start (listTokens params) (.inr begins)
  rw [map_read, list] at same
  exact (alone_read params found.dropFirst).mpr
    ⟨clean, left, last, more_turns _ _ _ _ _ _ same.symm, followed⟩

theorem alone_ne_ok (params : Text) (read : Params) (begins : opensWithSlash params = true) :
    readParams params ≠ .ok read := by
  intro accepted
  obtain ⟨_, left, _, list, _⟩ := (alone_read params read).mp accepted
  exact no_list_opens_with_slash _ _ _ _ (read, left) begins list

end Statewright.Code
