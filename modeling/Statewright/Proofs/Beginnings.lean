import Statewright.Code.Statement
import Statewright.Proofs.Readers

/-!
What an expression begins with. Every reader of expressions refuses tokens that begin with anything else, however deep
the rules go that it is built from.
-/
set_option autoImplicit false

namespace Statewright.Code

open Reader

namespace Reader

def HeadIs (tokens : List Token) (lexeme : Lexeme) : Prop := ∃ token rest, tokens = token :: rest ∧ token.lexeme = lexeme

-- Readers that take nothing.
def Looks {α : Type} (reader : Reader α) : Prop :=
  ∀ turns tokens value rest, reader turns tokens = .ok (value, rest) → rest = tokens

def Refuses {α : Type} (lexeme : Lexeme) (reader : Reader α) : Prop :=
  ∀ turns tokens result, HeadIs tokens lexeme → reader turns tokens ≠ .ok result

section
variable {α β : Type}

theorem head_unique (tokens : List Token) (one two : Lexeme) (first : HeadIs tokens one) (second : HeadIs tokens two) :
    one = two := by
  obtain ⟨token, rest, rfl, rfl⟩ := first
  obtain ⟨other, more, same, rfl⟩ := second
  cases same
  rfl

theorem looks_line : Looks line := by
  intro turns tokens value rest ran
  cases tokens with
  | nil => cases ran
  | cons token more =>
      cases ran
      rfl

theorem looks_pure (value : α) : Looks (pure value) := by
  intro turns tokens result rest ran
  cases ran
  rfl

theorem looks_get : Looks (get : Reader (List Token)) := by
  intro turns tokens value rest ran
  cases ran
  rfl

theorem looks_isMark (mark : Mark) : Looks (isMark mark) := by
  intro turns tokens value rest ran
  cases tokens with
  | nil => cases ran
  | cons token more =>
      cases ran
      rfl

theorem looks_peek : Looks peek := by
  intro turns tokens value rest ran
  cases tokens with
  | nil => cases ran
  | cons token more =>
      cases ran
      rfl

theorem looks_peekSecond : Looks peekSecond := by
  intro turns tokens value rest ran
  cases ran
  rfl

theorem peek_read (tokens : List Token) (lexeme : Lexeme) (head : HeadIs tokens lexeme) (turns : Nat) :
    peek turns tokens = .ok (lexeme, tokens) := by
  obtain ⟨token, rest, rfl, rfl⟩ := head
  rfl

theorem peek_bind (tokens : List Token) (lexeme : Lexeme) (head : HeadIs tokens lexeme) (turns : Nat)
    (next : Lexeme → Reader α) : (peek >>= next) turns tokens = next lexeme turns tokens := by
  rw [bind_read, peek_read tokens lexeme head]

theorem accept_read (lexeme head : Lexeme) (tokens : List Token) (stands : HeadIs tokens head) (turns : Nat) :
    accept lexeme turns tokens = if head = lexeme then .ok (true, tokens.drop 1) else .ok (false, tokens) := by
  rw [accept, peek_bind tokens head stands]
  split <;> rfl

theorem isMark_head (mark : Mark) (head : Lexeme) (tokens : List Token) (stands : HeadIs tokens head) (turns : Nat) :
    isMark mark turns tokens = .ok (decide (head = .mark mark), tokens) := by
  obtain ⟨token, rest, rfl, rfl⟩ := stands
  rfl

theorem isWord_head (word : Keyword) (head : Lexeme) (tokens : List Token) (stands : HeadIs tokens head) (turns : Nat) :
    isWord word turns tokens = .ok (decide (head = .keyword word), tokens) := by
  obtain ⟨token, rest, rfl, rfl⟩ := stands
  rfl

theorem need_read (lexeme : Lexeme) (turns : Nat) (tokens rest : List Token)
    (ran : need lexeme turns tokens = .ok ((), rest)) : HeadIs tokens lexeme ∧ rest = tokens.drop 1 := by
  cases tokens with
  | nil => cases ran
  | cons token more =>
      unfold need at ran
      rw [bind_read, accept_read lexeme token.lexeme _ ⟨token, more, rfl, rfl⟩] at ran
      by_cases same : token.lexeme = lexeme
      · rw [if_pos same] at ran
        cases ran
        exact ⟨⟨token, more, rfl, same⟩, rfl⟩
      · rw [if_neg same] at ran
        exact absurd ran (fail_ne_ok turns (token :: more) _)

/-! ## Refusals -/

theorem refuses_fail (lexeme : Lexeme) : Refuses lexeme (fail : Reader α) :=
  fun turns tokens _ _ => fail_ne_ok turns tokens _

theorem refuses_bind {lexeme : Lexeme} (first : Reader α) (next : α → Reader β) (refused : Refuses lexeme first) :
    Refuses lexeme (first >>= next) := by
  intro turns tokens result head ran
  obtain ⟨value, rest, one, _⟩ := (bind_read_ok _ _ _ _ _).mp ran
  exact refused turns tokens _ head one

theorem refuses_looking {lexeme : Lexeme} {first : Reader α} {next : α → Reader β} (looks : Looks first)
    (refused : ∀ value, Refuses lexeme (next value)) : Refuses lexeme (first >>= next) := by
  intro turns tokens result head ran
  obtain ⟨value, rest, one, after⟩ := (bind_read_ok _ _ _ _ _).mp ran
  obtain rfl := looks turns tokens value rest one
  exact refused value turns rest result head after

theorem refuses_peek {lexeme : Lexeme} {next : Lexeme → Reader α} (refused : Refuses lexeme (next lexeme)) :
    Refuses lexeme (peek >>= next) := by
  intro turns tokens result head ran
  rw [peek_bind tokens lexeme head] at ran
  exact refused turns tokens result head ran

theorem refuses_accept {lexeme wanted : Lexeme} {next : Bool → Reader α} (differs : lexeme ≠ wanted)
    (refused : Refuses lexeme (next false)) : Refuses lexeme (accept wanted >>= next) := by
  intro turns tokens result head ran
  rw [bind_read, accept_read wanted lexeme tokens head, if_neg differs] at ran
  exact refused turns tokens result head ran

theorem refuses_isMark {lexeme : Lexeme} {mark : Mark} {next : Bool → Reader α} (differs : lexeme ≠ .mark mark)
    (refused : Refuses lexeme (next false)) : Refuses lexeme (isMark mark >>= next) := by
  intro turns tokens result head ran
  rw [bind_read, isMark_head mark lexeme tokens head, decide_eq_false differs] at ran
  exact refused turns tokens result head ran

theorem refuses_isWord {lexeme : Lexeme} {word : Keyword} {next : Bool → Reader α} (differs : lexeme ≠ .keyword word)
    (refused : Refuses lexeme (next false)) : Refuses lexeme (isWord word >>= next) := by
  intro turns tokens result head ran
  rw [bind_read, isWord_head word lexeme tokens head, decide_eq_false differs] at ran
  exact refused turns tokens result head ran

theorem refuses_need {lexeme wanted : Lexeme} (differs : lexeme ≠ wanted) : Refuses lexeme (need wanted) :=
  refuses_accept differs (refuses_fail lexeme)

end

end Reader

namespace Expression

variable (lexeme : Lexeme)

-- Marks and words are told from a lexeme that starts nothing by what they start.
theorem starts_not {lexeme other : Lexeme} {starts : Lexeme → Bool} (refused : starts lexeme = false)
    (begins : starts other = true) : lexeme ≠ other := by
  rintro rfl
  rw [refused] at begins
  cases begins

section
variable (rules : Rules) (refused : startsOperand lexeme = false)
include refused

theorem atom_refuses : Refuses lexeme (atom rules) := by
  refine refuses_peek ?_
  cases lexeme with
  | keyword word =>
      cases word with
      | none_ | true_ | false_ => cases refused
      | _ => exact refuses_fail _
  | mark mark =>
      cases mark with
      | ellipsis => cases refused
      | opening bracket => cases refused
      | _ => exact refuses_fail _
  | name | number | string => cases refused
  | _ => exact refuses_fail _

theorem primary_refuses : Refuses lexeme (awaitedPrimary rules) := by
  have owner : Refuses lexeme (primary rules) := refuses_bind _ _ (atom_refuses lexeme rules refused)
  exact refuses_accept (starts_not refused rfl) owner

theorem factor_refuses : Refuses lexeme (factor rules (awaitedPrimary rules)) := by
  refine refuses_peek ?_
  have power : Refuses lexeme (power rules (awaitedPrimary rules)) := refuses_bind _ _ (primary_refuses lexeme rules refused)
  cases lexeme with
  | mark mark =>
      cases mark with
      | plus | minus | tilde => cases refused
      | _ => exact power
  | _ => exact power

omit refused in
theorem chain_refuses (operand : Reader Expr) (marks : List Mark) (first : Refuses lexeme operand) :
    Refuses lexeme (chain operand marks) := refuses_bind _ _ first

theorem operand_refuses : Refuses lexeme (fullOperand rules) :=
  chain_refuses lexeme _ _ (chain_refuses lexeme _ _ (chain_refuses lexeme _ _ (chain_refuses lexeme _ _
    (chain_refuses lexeme _ _ (chain_refuses lexeme _ _ (factor_refuses lexeme rules refused))))))

end

theorem starts_operand (refused : startsExpression lexeme = false) : startsOperand lexeme = false := by
  unfold startsExpression at refused
  split at refused
  · cases refused
  · cases refused
  · exact refused

theorem full_refuses (rules : Rules) (refused : startsExpression lexeme = false) : Refuses lexeme (full rules) := by
  have operand := operand_refuses lexeme rules (starts_operand lexeme refused)
  have negation : Refuses lexeme (negation rules (fullOperand rules)) :=
    refuses_accept (starts_not refused rfl) (refuses_bind _ _ operand)
  have disjunction : Refuses lexeme (fullDisjunction rules) := refuses_bind _ _ (refuses_bind _ _ negation)
  refine refuses_isWord (starts_not refused rfl) ?_
  exact refuses_looking looks_line fun _ => refuses_looking looks_get fun _ => refuses_bind _ _ disjunction

-- What stands side by side with an expression is never taken for a part of it.
theorem checkJuxtaposed_looks (operand expression : Reader Expr) (start : Nat) (plain : Bool) :
    Looks (checkJuxtaposed operand expression start plain) := by
  intro turns tokens value rest ran
  obtain ⟨next, left, looked, ran⟩ := (bind_read_ok _ _ _ _ _).mp ran
  cases tokens with
  | nil => cases looked
  | cons token more =>
      cases looked
      split at ran
      · cases ran
        rfl
      · dsimp only at ran
        split at ran
        · split at ran <;> cases ran
        · cases ran
        · cases ran
        · split at ran
          · cases ran
          · split at ran <;> cases ran

end Expression

namespace Statement

open Expression

theorem expression_refuses (depth : Nat) (lexeme : Lexeme) (refused : startsExpression lexeme = false) :
    Refuses lexeme (rules depth).expression := by
  cases depth with
  | zero => exact refuses_fail lexeme
  | succ depth => exact full_refuses lexeme (rules depth) refused

theorem operand_level_refuses (depth : Nat) (lexeme : Lexeme) (refused : startsOperand lexeme = false) :
    Refuses lexeme (rules depth).operand := by
  cases depth with
  | zero => exact refuses_fail lexeme
  | succ depth => exact operand_refuses lexeme (rules depth) refused

end Statement

end Statewright.Code
