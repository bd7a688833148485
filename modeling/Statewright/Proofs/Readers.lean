import Statewright.Code.Reader

/-!
Laws of readers. A sequence of readers passes the rest of the text on and stops at the first failure; a repetition that
ends does so with any greater number of turns.
-/
set_option autoImplicit false

namespace Statewright.Code

namespace Reader

theorem bind_read {α β : Type} (first : Reader α) (next : α → Reader β) (turns : Nat) (tokens : List Token) :
    (first >>= next) turns tokens =
      match first turns tokens with
      | .ok (value, rest) => next value turns rest
      | .error fault => .error fault := by
  change (first turns tokens >>= fun (read : α × List Token) => next read.1 turns read.2) = _
  cases first turns tokens <;> rfl

theorem bind_read_ok {α β : Type} (first : Reader α) (next : α → Reader β) (turns : Nat) (tokens : List Token)
    (result : β × List Token) :
    (first >>= next) turns tokens = .ok result ↔
      ∃ value rest, first turns tokens = .ok (value, rest) ∧ next value turns rest = .ok result := by
  rw [bind_read]
  cases one : first turns tokens with
  | error fault => simp
  | ok read => exact ⟨fun ran => ⟨read.1, read.2, rfl, ran⟩, fun ⟨_, _, same, ran⟩ => Except.ok.inj same ▸ ran⟩

theorem map_read {α β : Type} (change : α → β) (reader : Reader α) (turns : Nat) (tokens : List Token) :
    (change <$> reader) turns tokens =
      match reader turns tokens with
      | .ok (value, rest) => .ok (change value, rest)
      | .error fault => .error fault := by
  rw [← bind_pure_comp, bind_read]
  rfl

theorem isMark_read (mark : Mark) (turns : Nat) (token : Token) (more : List Token) :
    isMark mark turns (token :: more) = .ok (token.lexeme == .mark mark, token :: more) := rfl

theorem fail_ne_ok {α : Type} (turns : Nat) (tokens : List Token) (result : α × List Token) :
    (fail : Reader α) turns tokens ≠ .ok result := by
  intro ran
  cases tokens with
  | nil => cases ran
  | cons token more =>
      obtain ⟨lexeme, line, depth⟩ := token
      cases lexeme <;> cases ran

theorem failAt_ne_ok {α : Type} (line turns : Nat) (tokens : List Token) (result : α × List Token) :
    (failAt line : Reader α) turns tokens ≠ .ok result := by
  intro ran
  cases tokens with
  | nil => cases ran
  | cons token more =>
      obtain ⟨lexeme, tokenLine, depth⟩ := token
      cases lexeme <;> cases ran

theorem fail_bind {α β : Type} (next : α → Reader β) : (fail >>= next) = fail := by
  funext turns tokens
  cases tokens with
  | nil => rfl
  | cons token more =>
      obtain ⟨lexeme, line, depth⟩ := token
      cases lexeme <;> rfl

theorem failAt_bind {α β : Type} (line : Nat) (next : α → Reader β) : (failAt line >>= next) = failAt line := by
  funext turns tokens
  cases tokens with
  | nil => rfl
  | cons token more =>
      obtain ⟨lexeme, tokenLine, depth⟩ := token
      cases lexeme <;> rfl

theorem map_fail {α β : Type} (change : α → β) : change <$> (fail : Reader α) = fail := by
  rw [← bind_pure_comp, fail_bind]

theorem map_failAt {α β : Type} (change : α → β) (line : Nat) : change <$> (failAt line : Reader α) = failAt line := by
  rw [← bind_pure_comp, failAt_bind]

-- What the reader returns, whenever it returns.
def Yields {α : Type} (reader : Reader α) (holds : α → Prop) : Prop :=
  ∀ turns tokens value rest, reader turns tokens = .ok (value, rest) → holds value

section
variable {α β : Type} {holds : β → Prop}

theorem yields_return (value : β) (fact : holds value) : Yields (pure value) holds := by
  intro turns tokens result rest ran
  cases ran
  exact fact

theorem yields_fail : Yields (fail : Reader β) holds :=
  fun turns tokens _ _ ran => absurd ran (fail_ne_ok turns tokens _)

theorem yields_failAt (line : Nat) : Yields (failAt line : Reader β) holds :=
  fun turns tokens _ _ ran => absurd ran (failAt_ne_ok line turns tokens _)

theorem yields_bind (first : Reader α) (next : α → Reader β) (after : ∀ value, Yields (next value) holds) :
    Yields (first >>= next) holds := by
  intro turns tokens result rest ran
  obtain ⟨value, left, _, ran⟩ := (bind_read_ok _ _ _ _ _).mp ran
  exact after value turns left result rest ran

end

theorem more_turns {α β : Type} (step : α → Reader (α ⊕ β)) (fuel : Nat) (a : α) (turns : Nat) (tokens : List Token)
    (result : β × List Token) (ran : iterate step fuel a turns tokens = .ok result) :
    iterate step (fuel + 1) a turns tokens = .ok result := by
  induction fuel generalizing a tokens with
  | zero => exact absurd ran (fail_ne_ok turns tokens result)
  | succ fuel ih =>
      rw [iterate, bind_read_ok] at ran ⊢
      obtain ⟨next | value, rest, one, ran⟩ := ran
      · exact ⟨.inl next, rest, one, ih next rest ran⟩
      · exact ⟨.inr value, rest, one, ran⟩

end Reader

end Statewright.Code
