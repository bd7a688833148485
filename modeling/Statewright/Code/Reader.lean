import Statewright.Code.Tree

/-!
Readers of code: functions that take a tree from the front of a list of tokens, or say where that fails. A
failure carries the line to report and the line of the furthest token looked at. It is `known` when a rule for
that mistake has chosen the line, and otherwise the line of the first token that fits nowhere; indentation that fits
nowhere is reported whatever follows it. Readers are told how many turns a repetition may take.
-/
set_option autoImplicit false

namespace Statewright.Code

inductive Fault where
  | unexpected (line reach : Nat) (known : Bool)
  | indentation (line : Nat)
  | lexical (stop : Break)

abbrev Reader := ReaderT Nat (StateT (List Token) (Except Fault))

namespace Reader

def here : Reader Token := fun _ tokens =>
  match tokens with
  | t :: _ => .ok (t, tokens)
  | [] => .error (.unexpected 0 0 false)

def fail {α : Type} : Reader α := fun _ tokens =>
  match tokens with
  | [] => .error (.unexpected 0 0 false)
  | t :: _ =>
    match t.lexeme with
    | .broken stop => .error (.lexical stop)
    | .indent => .error (.indentation t.line)
    | .dedent => .error (.indentation t.line)
    | _ => .error (.unexpected t.line t.line false)

-- Fails with a line chosen by a rule, unless the text itself breaks off at the next token.
def failAt {α : Type} (line : Nat) : Reader α := fun _ tokens =>
  match tokens with
  | [] => .error (.unexpected line line true)
  | t :: _ =>
    match t.lexeme with
    | .broken stop => .error (.lexical stop)
    | _ => .error (.unexpected line t.line true)

def peek : Reader Lexeme := do return (← here).lexeme

def line : Reader Nat := do return (← here).line

def peekSecond : Reader (Option Lexeme) := fun _ tokens => .ok ((tokens[1]?).map (·.lexeme), tokens)

def skip : Reader Unit := fun _ tokens => .ok ((), tokens.drop 1)

def accept (lexeme : Lexeme) : Reader Bool := do
  if (← peek) = lexeme then
    skip
    return true
  return false

def need (lexeme : Lexeme) : Reader Unit := do
  if !(← accept lexeme) then fail

def acceptMark (mark : Mark) : Reader Bool := accept (.mark mark)
def acceptWord (word : Keyword) : Reader Bool := accept (.keyword word)
def needMark (mark : Mark) : Reader Unit := need (.mark mark)
def needWord (word : Keyword) : Reader Unit := need (.keyword word)

def isMark (mark : Mark) : Reader Bool := do return (← peek) = .mark mark
def isWord (word : Keyword) : Reader Bool := do return (← peek) = .keyword word

def identifier : Reader Text := do
  match ← peek with
  | .name id => do
    skip
    return id
  | _ => fail

-- Repeats a step that either goes on with a new value or ends with a result.
def iterate {α β : Type} (step : α → Reader (α ⊕ β)) : Nat → α → Reader β
  | 0, _ => fail
  | turns + 1, a => do
    match ← step a with
    | .inl next => iterate step turns next
    | .inr result => return result

def loop {α β : Type} (start : α) (step : α → Reader (α ⊕ β)) : Reader β := do
  iterate step (← read) start

def reachOf : Fault → Nat
  | .unexpected _ reach _ => reach
  | .indentation line => line
  | .lexical stop => stop.line

-- The first reader, or the second where it fails; if both fail, the failure that looked further.
def orElse {α : Type} (first second : Reader α) : Reader α := fun turns tokens =>
  match first turns tokens with
  | .ok result => .ok result
  | .error fault =>
    match second turns tokens with
    | .ok result => .ok result
    | .error other => .error (if reachOf other < reachOf fault then fault else other)

end Reader

-- The readers that call themselves through the readers of smaller parts. Each one stands for a nesting level, so a
-- whole text is read with more levels than it can nest.
structure Rules where
  factor : Reader Expr
  operand : Reader Expr
  negation : Reader Expr
  disjunction : Reader Expr
  expression : Reader Expr
  pattern : Reader Unit
  statement : Reader (List Stmt)

end Statewright.Code
