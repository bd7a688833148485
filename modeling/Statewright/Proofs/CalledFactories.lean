import Statewright.Proofs.TwinExpressions

/-!
How a call is read that stands alone on the right of an equals sign: a name, and one argument with a name of its own. No
rule for anything looser than a call adds to it, as the line ends behind the call.
-/
set_option autoImplicit false

namespace Statewright.Code

open Reader

namespace Expression

-- At a name the outer reader reads what the inner one reads. It adds nothing if the line ends there.
def Extends (outer inner : Reader Expr) : Prop :=
  ∀ turns tokens id value rest, HeadIs tokens (.name id) → outer turns tokens = .ok (value, rest) →
    ∃ first left, inner turns tokens = .ok (first, left) ∧ (HeadIs left .newline → value = first ∧ rest = left)

-- What goes on with an expression adds nothing at the end of a line.
def Rests (next : Expr → Reader Expr) : Prop :=
  ∀ value turns tokens result rest, HeadIs tokens .newline → next value turns tokens = .ok (result, rest) →
    result = value ∧ rest = tokens

section
variable {outer inner : Reader Expr}

theorem extends_refl (reader : Reader Expr) : Extends reader reader :=
  fun _ _ _ value rest _ ran => ⟨value, rest, ran, fun _ => ⟨rfl, rfl⟩⟩

theorem extends_trans {middle : Reader Expr} (first : Extends outer middle) (second : Extends middle inner) :
    Extends outer inner := by
  intro turns tokens id value rest head ran
  obtain ⟨one, left, below, same⟩ := first turns tokens id value rest head ran
  obtain ⟨two, more, found, also⟩ := second turns tokens id one left head below
  refine ⟨two, more, found, fun ended => ?_⟩
  obtain ⟨rfl, rfl⟩ := also ended
  exact same ended

theorem extends_bind {next : Expr → Reader Expr} (rests : Rests next) : Extends (inner >>= next) inner := by
  intro turns tokens id value rest _ ran
  obtain ⟨first, left, found, after⟩ := (bind_read_ok _ _ _ _ _).mp ran
  exact ⟨first, left, found, fun ended => rests first turns left value rest ended after⟩

theorem extends_looking {α : Type} {first : Reader α} {next : α → Reader Expr} (looks : Looks first)
    (each : ∀ value, Extends (next value) inner) : Extends (first >>= next) inner := by
  intro turns tokens id value rest head ran
  obtain ⟨found, left, looked, after⟩ := (bind_read_ok _ _ _ _ _).mp ran
  obtain rfl := looks turns tokens found left looked
  exact each found turns left id value rest head after

theorem extends_peek {next : Lexeme → Reader Expr} (each : ∀ id, Extends (next (.name id)) inner) :
    Extends (peek >>= next) inner := by
  intro turns tokens id value rest head ran
  rw [peek_bind tokens _ head] at ran
  exact each id turns tokens id value rest head ran

theorem extends_accept {wanted : Lexeme} {next : Bool → Reader Expr} (other : ∀ id, wanted ≠ .name id)
    (each : Extends (next false) inner) : Extends (accept wanted >>= next) inner := by
  intro turns tokens id value rest head ran
  rw [bind_read, accept_read wanted _ tokens head, if_neg (Ne.symm (other id))] at ran
  exact each turns tokens id value rest head ran

theorem extends_isMark {mark : Mark} {next : Bool → Reader Expr} (each : Extends (next false) inner) :
    Extends (isMark mark >>= next) inner := by
  intro turns tokens id value rest head ran
  rw [bind_read, isMark_head mark _ tokens head, decide_eq_false Lexeme.noConfusion] at ran
  exact each turns tokens id value rest head ran

theorem extends_isWord {word : Keyword} {next : Bool → Reader Expr} (each : Extends (next false) inner) :
    Extends (isWord word >>= next) inner := by
  intro turns tokens id value rest head ran
  rw [bind_read, isWord_head word _ tokens head, decide_eq_false Lexeme.noConfusion] at ran
  exact each turns tokens id value rest head ran

end

/-! ## The end of a line -/

theorem accept_ended {α : Type} (lexeme : Lexeme) (other : lexeme ≠ .newline) (next : Bool → Reader α) (tokens : List Token)
    (ended : HeadIs tokens .newline) (turns : Nat) : (accept lexeme >>= next) turns tokens = next false turns tokens := by
  rw [bind_read, accept_read lexeme _ tokens ended, if_neg (Ne.symm other)]

theorem isMark_ended {α : Type} (mark : Mark) (next : Bool → Reader α) (tokens : List Token)
    (ended : HeadIs tokens .newline) (turns : Nat) : (isMark mark >>= next) turns tokens = next false turns tokens := by
  rw [bind_read, isMark_head mark _ tokens ended, decide_eq_false Lexeme.noConfusion]

-- A repetition that takes no step.
theorem loop_ended {α β : Type} (start : α) (step : α → Reader (α ⊕ β)) (value result : β) (turns : Nat)
    (tokens rest : List Token) (ends : ∀ turns, step start turns tokens = .ok (.inr value, tokens))
    (ran : loop start step turns tokens = .ok (result, rest)) : result = value ∧ rest = tokens := by
  change iterate step turns start turns tokens = _ at ran
  cases turns with
  | zero => exact absurd ran (fail_ne_ok _ _ _)
  | succ turns =>
      rw [iterate, bind_read, ends] at ran
      cases ran
      exact ⟨rfl, rfl⟩

theorem chain_extends (operand : Reader Expr) (marks : List Mark) : Extends (chain operand marks) operand := by
  refine extends_bind fun value turns tokens result rest ended ran => ?_
  refine loop_ended _ _ value result turns tokens rest (fun turns => ?_) ran
  rw [peek_bind tokens _ ended]
  rfl

theorem joined_extends (part : Reader Expr) (word : Keyword) : Extends (joined part word) part := by
  refine extends_bind fun value turns tokens result rest ended ran => ?_
  refine loop_ended _ _ value result turns tokens rest (fun turns => ?_) ran
  rw [acceptWord, accept_ended _ Lexeme.noConfusion _ tokens ended]
  rfl

theorem comparison_extends (operand : Reader Expr) : Extends (comparison operand) operand := by
  refine extends_bind fun value turns tokens result rest ended ran => ?_
  refine loop_ended _ _ value result turns tokens rest (fun turns => ?_) ran
  have unrelated : relation? turns tokens = .ok (none, tokens) := by
    rw [relation?, peek_bind tokens _ ended]
    rfl
  change (relation? >>= _) turns tokens = _
  rw [bind_read, unrelated]
  rfl

theorem list_extends (one : Reader Expr) : Extends (list one) one := by
  refine extends_bind fun value turns tokens result rest ended ran => ?_
  rw [isMark_ended _ _ tokens ended] at ran
  cases ran
  exact ⟨rfl, rfl⟩

section
variable (rules : Rules)

theorem power_extends (primary : Reader Expr) : Extends (power rules primary) primary := by
  refine extends_bind fun value turns tokens result rest ended ran => ?_
  rw [acceptMark, accept_ended _ Lexeme.noConfusion _ tokens ended] at ran
  cases ran
  exact ⟨rfl, rfl⟩

theorem operand_extends : Extends (fullOperand rules) (primary rules) := by
  have factor : Extends (factor rules (awaitedPrimary rules)) (primary rules) :=
    extends_peek fun _ => extends_trans (power_extends rules _)
      (extends_accept (fun _ => Lexeme.noConfusion) (extends_refl _))
  exact extends_trans (chain_extends _ _) (extends_trans (chain_extends _ _) (extends_trans (chain_extends _ _)
    (extends_trans (chain_extends _ _) (extends_trans (chain_extends _ _) (extends_trans (chain_extends _ _) factor)))))

theorem full_extends : Extends (full rules) (primary rules) := by
  have negation : Extends (negation rules (fullOperand rules)) (primary rules) :=
    extends_accept (fun _ => Lexeme.noConfusion) (extends_trans (comparison_extends _) (operand_extends rules))
  have disjunction : Extends (fullDisjunction rules) (primary rules) :=
    extends_trans (joined_extends _ _) (extends_trans (joined_extends _ _) negation)
  refine extends_isWord (extends_looking looks_line fun start => extends_looking looks_get fun found =>
    extends_trans (extends_bind fun value turns tokens result rest ended ran => ?_) disjunction)
  rw [acceptWord, accept_ended _ Lexeme.noConfusion _ tokens ended] at ran
  obtain ⟨_, left, looked, after⟩ := (bind_read_ok _ _ _ _ _).mp ran
  obtain rfl := checkJuxtaposed_looks _ _ _ _ turns tokens _ left looked
  cases after
  exact ⟨rfl, rfl⟩

/-! ## The call -/

theorem skip_bind {α : Type} (next : Reader α) (turns : Nat) (token : Token) (tokens : List Token) :
    (skip >>= fun _ => next) turns (token :: tokens) = next turns tokens := rfl

theorem looks_clausesFollow : Looks clausesFollow := by
  intro turns tokens value rest ran
  obtain ⟨head, left, looked, follows⟩ := (bind_read_ok _ _ _ _ _).mp ran
  obtain rfl := looks_peek turns tokens head left looked
  obtain ⟨second, after, looked', ends⟩ := (bind_read_ok _ _ _ _ _).mp follows
  obtain rfl := looks_peekSecond turns left second after looked'
  split at ends <;> cases ends <;> rfl

-- What a loop takes its first step with.
theorem loop_step {α β : Type} (start : α) (step : α → Reader (α ⊕ β)) (turns : Nat) (tokens rest : List Token) (result : β)
    (ran : loop start step turns tokens = .ok (result, rest)) :
    ∃ fuel, (step start >>= fun | .inl next => iterate step fuel next | .inr result => pure result) turns tokens =
      .ok (result, rest) := by
  change iterate step turns start turns tokens = _ at ran
  cases turns with
  | zero => exact absurd ran (fail_ne_ok _ _ _)
  | succ fuel => exact ⟨fuel, ran⟩

def argumentsStep (start : Nat) (read : ArgumentsRead) : Reader (ArgumentsRead ⊕ List Argument) := do
  if ← isMark (.closing .round) then
    if read.misplaced then failAt (← line)
    skip
    return .inr read.arguments
  let read ← argument rules read start
  if ← isMark .comma then
    skip
    return .inl read
  if ← isMark (.closing .round) then return .inl read
  if read.misplaced then failAt (← line)
  fail

theorem arguments_eq :
    arguments rules = line >>= fun start => loop ⟨[], false, false, false⟩ (argumentsStep rules start) := rfl

theorem argument_named (turns start : Nat) (read : ArgumentsRead) (key : Text) (named equals : Token)
    (tokens rest : List Token) (next : ArgumentsRead) (isKey : named.lexeme = .name key)
    (isEquals : equals.lexeme = .mark .equals)
    (ran : argument rules read start turns (named :: equals :: tokens) = .ok (next, rest)) :
    ∃ made, rules.expression turns tokens = .ok (made, rest) ∧
      next = { read with arguments := read.arguments ++ [.named key made], named := true } := by
  unfold argument at ran
  rw [peek_bind _ _ ⟨named, _, rfl, isKey⟩] at ran
  have second : peekSecond turns (named :: equals :: tokens) = .ok (some (.mark .equals), named :: equals :: tokens) := by
    rw [← isEquals]
    rfl
  rw [bind_read, second] at ran
  dsimp only at ran
  rw [skip_bind, skip_bind] at ran
  obtain ⟨_, left, looked, reads⟩ := (bind_read_ok _ _ _ _ _).mp ran
  obtain rfl := looks_line turns tokens _ left looked
  obtain ⟨made, further, found, follows⟩ := (bind_read_ok _ _ _ _ _).mp reads
  obtain ⟨more, after, looked', ends⟩ := (bind_read_ok _ _ _ _ _).mp follows
  obtain rfl := looks_clausesFollow turns further more after looked'
  cases more with
  | true => exact absurd ends (never_bind (failBeforeClauses_never rules _) turns after _)
  | false =>
      cases ends
      exact ⟨made, found, rfl⟩

theorem arguments_read (turns : Nat) (key : Text) (named equals : Token) (tokens rest : List Token)
    (given : List Argument) (isKey : named.lexeme = .name key) (isEquals : equals.lexeme = .mark .equals)
    (ran : arguments rules turns (named :: equals :: tokens) = .ok (given, rest)) :
    ∃ made left, rules.expression turns tokens = .ok (made, left) ∧
      ∀ close more, left = close :: more → close.lexeme = .mark (.closing .round) →
        given = [.named key made] ∧ rest = more := by
  rw [arguments_eq] at ran
  obtain ⟨start, left, looked, loops⟩ := (bind_read_ok _ _ _ _ _).mp ran
  obtain rfl := looks_line turns _ start left looked
  obtain ⟨fuel, first⟩ := loop_step _ _ _ _ _ _ loops
  obtain ⟨step, left, stepped, goesOn⟩ := (bind_read_ok _ _ _ _ _).mp first
  unfold argumentsStep at stepped
  rw [bind_read, isMark_head _ _ _ ⟨named, _, rfl, isKey⟩, decide_eq_false Lexeme.noConfusion] at stepped
  obtain ⟨read, after, argued, ends⟩ := (bind_read_ok _ _ _ _ _).mp stepped
  obtain ⟨made, found, rfl⟩ := argument_named rules turns start _ key named equals tokens after read isKey isEquals argued
  refine ⟨made, after, found, ?_⟩
  rintro close more rfl closes
  have ended : HeadIs (close :: more) (.mark (.closing .round)) := ⟨close, more, rfl, closes⟩
  have separate : isMark .comma turns (close :: more) = .ok (false, close :: more) := by
    rw [isMark_head _ _ _ ended]
    rfl
  have closed (turns : Nat) : isMark (.closing .round) turns (close :: more) = .ok (true, close :: more) := by
    rw [isMark_head _ _ _ ended]
    rfl
  rw [bind_read, separate] at ends
  dsimp only at ends
  rw [if_neg Bool.false_ne_true, bind_read, closed] at ends
  cases ends
  cases fuel with
  | zero => exact absurd goesOn (fail_ne_ok _ _ _)
  | succ fuel =>
      dsimp only at goesOn
      rw [iterate, bind_read, argumentsStep, bind_read, closed] at goesOn
      cases goesOn
      exact ⟨rfl, rfl⟩

theorem call_read (turns : Nat) (function key : Text) (name open_ named equals : Token) (tokens rest : List Token)
    (value : Expr) (isName : name.lexeme = .name function) (opens : open_.lexeme = .mark (.opening .round))
    (isKey : named.lexeme = .name key) (isEquals : equals.lexeme = .mark .equals)
    (ran : primary rules turns (name :: open_ :: named :: equals :: tokens) = .ok (value, rest)) :
    ∃ made left, rules.expression turns tokens = .ok (made, left) ∧
      ∀ close more, left = close :: more → close.lexeme = .mark (.closing .round) → HeadIs more .newline →
        value = .call (.name function) [.named key made] ∧ rest = more := by
  have atom_ : atom rules turns (name :: open_ :: named :: equals :: tokens) =
      .ok (.name function, open_ :: named :: equals :: tokens) := by
    rw [atom, peek_bind _ _ ⟨name, _, rfl, isName⟩]
    rfl
  unfold primary at ran
  rw [bind_read, atom_] at ran
  obtain ⟨fuel, first⟩ := loop_step _ _ _ _ _ _ ran
  obtain ⟨step, left, stepped, goesOn⟩ := (bind_read_ok _ _ _ _ _).mp first
  rw [peek_bind _ _ ⟨open_, _, rfl, opens⟩] at stepped
  dsimp only at stepped
  rw [skip_bind] at stepped
  obtain ⟨given, after, argued, called⟩ := (bind_read_ok _ _ _ _ _).mp stepped
  cases called
  obtain ⟨made, end_, found, closed⟩ := arguments_read rules turns key named equals tokens _ given isKey isEquals argued
  refine ⟨made, end_, found, fun close more same closes ended => ?_⟩
  obtain ⟨rfl, rfl⟩ := closed close more same closes
  cases fuel with
  | zero => exact absurd goesOn (fail_ne_ok _ _ _)
  | succ fuel =>
      dsimp only at goesOn
      rw [iterate, bind_read, peek_bind _ _ ended] at goesOn
      cases goesOn
      exact ⟨rfl, rfl⟩

end

end Expression

end Statewright.Code
