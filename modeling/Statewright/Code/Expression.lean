import Statewright.Code.Reader
import Statewright.Code.Lexer
import Statewright.Code.StringValue

/-!
Readers of expressions, from atoms up to the lists of expressions that statements use, and of parameter lists.
Each reader takes the rules of the next nesting level for the parts that may hold any expression again.
-/
set_option autoImplicit false

namespace Statewright.Code.Expression

open Reader

def startsOperand : Lexeme → Bool
  | .name _ => true
  | .number _ => true
  | .string _ => true
  | .keyword .true_ => true
  | .keyword .false_ => true
  | .keyword .none_ => true
  | .keyword .await_ => true
  | .mark .ellipsis => true
  | .mark (.opening _) => true
  | .mark .plus => true
  | .mark .minus => true
  | .mark .tilde => true
  | _ => false

def startsExpression : Lexeme → Bool
  | .keyword .not_ => true
  | .keyword .lambda_ => true
  | lexeme => startsOperand lexeme

def startsItem (lexeme : Lexeme) : Bool := lexeme = .mark .star || startsExpression lexeme

def itemFollows : Reader Bool := do return startsItem (← peek)

-- Targets of assignments, loops and deletions, told from the expressions that they are read as.

def isPlace : Expr → Bool
  | .name _ => true
  | .attribute _ _ => true
  | .subscript _ => true
  | _ => false

mutual

def isTarget : Expr → Bool
  | .name _ => true
  | .attribute _ _ => true
  | .subscript _ => true
  | .starred value => isTarget value
  | .sequence items _ => areTargets items
  | _ => false

def areTargets : List Expr → Bool
  | [] => true
  | item :: rest => isTarget item && areTargets rest

end

mutual

def isDeletable : Expr → Bool
  | .name _ => true
  | .attribute _ _ => true
  | .subscript _ => true
  | .sequence items _ => areDeletable items
  | _ => false

def areDeletable : List Expr → Bool
  | [] => true
  | item :: rest => isDeletable item && areDeletable rest

end

def chain (operand : Reader Expr) (marks : List Mark) : Reader Expr := do
  let first ← operand
  loop first fun left => do
    match ← peek with
    | .mark mark =>
      if marks.contains mark then
        skip
        let _ ← operand
        return .inl .other
      else return .inr left
    | _ => return .inr left

-- Strings.

def literals : Reader (List Literal) := do
  loop [] fun read => do
    match ← peek with
    | .string literal =>
      skip
      return .inl (literal :: read)
    | _ => return .inr read.reverse

-- Reads the code of a field as if it stood in parentheses. A mistake is reported on the field's line.
def field (expression : StateT (List Token) (Except Fault) Expr) (line : Nat) (code : Text) : Except Fault Unit :=
  let tokens := (tokensOf ('(' :: code ++ [')'])).map fun token => { token with line := token.line + line - 1 }
  match expression tokens with
  | .ok _ => .ok ()
  | .error (.lexical stop) => .error (.unexpected (stop.line + line - 1) (stop.line + line - 1) true)
  | .error (.unexpected at_ reach _) => .error (.unexpected at_ reach true)
  | .error (.indentation at_) => .error (.unexpected at_ at_ true)

def checkFields (expression : StateT (List Token) (Except Fault) Expr) (line : Nat) :
    List StringValue.Field → Except Fault Unit
  | [] => .ok ()
  | one :: rest =>
    match field expression (line + one.ends) one.code with
    | .ok () => checkFields expression line rest
    | .error fault => .error fault

def failWith {α : Type} (fault : Fault) : Reader α := fun _ _ => .error fault

def checkLiteral (expression : Reader Expr) (bytes : Bool) (literal : Literal) : Reader (Option Text) := do
  if literal.bytes && literal.body.any (128 ≤ ·.toNat) then failAt literal.line
  else if literal.bytes != bytes then failAt (← line)
  else if literal.formatted then
    match StringValue.fields literal with
    | none => failAt (← line)
    | some all =>
      match checkFields (expression (← read)) literal.line all with
      | .ok () => return none
      | .error fault => failWith fault
  else match StringValue.textOf literal with
    | some text => return some text
    | none => failAt (← line)

def checkLiterals (expression : Reader Expr) (bytes : Bool) : List Literal → Reader (Option Text)
  | [] => return some []
  | literal :: rest => do
    let first ← checkLiteral expression bytes literal
    let more ← checkLiterals expression bytes rest
    return (first.bind fun a => more.map fun b => a ++ b)

def string (expression : Reader Expr) : Reader Expr := do
  let all ← literals
  match all with
  | [] => fail
  | first :: _ =>
    let value ← checkLiterals expression first.bytes all
    match value with
    | none => return .other
    | some text => return .constant (if first.bytes then .bytes else .text text first.unicode)

-- Items and sequences.

def starredOperand (operand : Reader Expr) : Reader Expr := do
  needMark .star
  return .starred (← operand)

def restOfItems (item : Reader Expr) (close : Mark) (first : Expr) : Reader (List Expr) := do
  loop [first] fun read => do
    if ← acceptMark close then return .inr read.reverse
    needMark .comma
    if ← acceptMark close then return .inr read.reverse
    return .inl ((← item) :: read)

-- Operators, loosest last.

section
variable (rules : Rules)

def power (primary : Reader Expr) : Reader Expr := do
  let base ← primary
  if ← acceptMark .doubleStar then
    let _ ← rules.factor
    return .other
  return base

def factor (primary : Reader Expr) : Reader Expr := do
  match ← peek with
  | .mark .plus => do
    skip
    let _ ← rules.factor
    return .other
  | .mark .minus => do
    skip
    return .negative (← rules.factor)
  | .mark .tilde => do
    skip
    let _ ← rules.factor
    return .other
  | _ => power rules primary

def operand (primary : Reader Expr) : Reader Expr :=
  let product := chain (factor rules primary) [.star, .slash, .doubleSlash, .percent, .at_]
  let sum := chain product [.plus, .minus]
  let shift := chain sum [.shiftLeft, .shiftRight]
  let meet := chain shift [.ampersand]
  let difference := chain meet [.caret]
  chain difference [.bar]

def comparesBy : Lexeme → Bool
  | .mark .equal => true
  | .mark .notEqual => true
  | .mark .less => true
  | .mark .lessEqual => true
  | .mark .greater => true
  | .mark .greaterEqual => true
  | .keyword .is_ => true
  | .keyword .not_ => true
  | _ => false

def relation? : Reader (Option Relation) := do
  match ← peek with
  | .mark .equal => take .equal
  | .mark .notEqual => take .notEqual
  | .mark .less => take .less
  | .mark .lessEqual => take .lessEqual
  | .mark .greater => take .greater
  | .mark .greaterEqual => take .greaterEqual
  | .keyword .in_ => take .among
  | .keyword .is_ => do
    skip
    if ← acceptWord .not_ then return some .notSame
    return some .same
  | .keyword .not_ => do
    if (← peekSecond) = some (.keyword .in_) then
      skip
      take .notAmong
    else return none
  | _ => return none
where
  take (relation : Relation) : Reader (Option Relation) := do
    skip
    return some relation

def comparison (operand : Reader Expr) : Reader Expr := do
  let first ← operand
  loop (first, true) fun (left, single) => do
    match ← relation? with
    | none => return .inr left
    | some relation =>
      let right ← operand
      return .inl (if single then .compare left relation right else .other, false)

def negation (operand : Reader Expr) : Reader Expr := do
  if ← acceptWord .not_ then return .inverse (← rules.negation)
  comparison operand

def joined (part : Reader Expr) (word : Keyword) : Reader Expr := do
  let first ← part
  loop first fun left => do
    if ← acceptWord word then
      let _ ← part
      return .inl .other
    return .inr left

def disjunction (operand : Reader Expr) : Reader Expr :=
  joined (joined (negation rules operand) .and_) .or_

end

-- Two operands side by side.

-- Inside brackets, an expression that another one follows directly lacks a comma, and is reported where the first one
-- begins. Nothing is reported when what follows only begins like an expression, or when the first one begins with a
-- word that could have been meant as something else.
def checkJuxtaposed (operand expression : Reader Expr) (startLine : Nat) (plain : Bool) : Reader Unit := do
  let next ← here
  if next.depth = 0 || !plain || !startsExpression next.lexeme then return ()
  let simple := match next.lexeme with
    | .name _ => true
    | .number _ => true
    | .string _ => true
    | .keyword .true_ => true
    | .keyword .false_ => true
    | .keyword .none_ => true
    | .mark .ellipsis => true
    | _ => false
  fun turns tokens =>
    let attempt : Except Fault (Expr × List Token) := if simple then operand turns tokens else expression turns tokens
    match attempt with
    | .ok (_, rest) =>
      match rest with
      | { lexeme := .broken stop, .. } :: _ => .error (.lexical stop)
      | after :: _ => .error (.unexpected startLine after.line true)
      | [] => .error (.unexpected startLine startLine true)
    | .error (.lexical stop) => .error (.lexical stop)
    | .error (.indentation line) => .error (.indentation line)
    | .error (.unexpected at_ reach known) =>
      if known then .error (.unexpected at_ reach true)
      else if simple then .error (.unexpected startLine reach true)
      else .error (.unexpected next.line reach false)

def isPlainStart (tokens : List Token) : Bool :=
  match tokens with
  | { lexeme := .name id, .. } :: rest =>
    let soft := id = Text.fixed "match" || id = Text.fixed "case" || id = Text.fixed "_"
    let string := match rest with
      | { lexeme := .string _, .. } :: _ => true
      | _ => false
    !soft && !string
  | _ => true

-- Parameter lists.

structure ParamsRead where
  positionalOnly : List Param
  positional : List Param
  rest : Option Param
  keywordOnly : List Param
  keywords : Option Param
  starred : Bool
  bare : Bool

namespace ParamsRead

def params (read : ParamsRead) : Params :=
  ⟨read.positionalOnly, read.positional, read.rest, read.keywordOnly, read.keywords⟩

def start : ParamsRead := ⟨[], [], none, [], none, false, false⟩

end ParamsRead

def param (expression : Reader Expr) (hint : Reader (Option Expr)) : Reader Param := do
  let name ← identifier
  let hint ← hint
  if ← acceptMark .equals then
    return ⟨name, hint, some (← expression)⟩
  return ⟨name, hint, none⟩

-- The parameters before a slash are given by position only.
def slashItem (read : ParamsRead) : Reader ParamsRead := do
  if read.starred || read.positional.isEmpty || !read.positionalOnly.isEmpty then fail
  skip
  return { read with positionalOnly := read.positional, positional := [] }

def starItem (starHint : Reader (Option Expr)) (read : ParamsRead) : Reader ParamsRead := do
  if read.starred then fail
  skip
  match ← peek with
  | .name _ => do
    let name ← identifier
    let hint ← starHint
    return { read with rest := some ⟨name, hint, none⟩, starred := true }
  | _ => do
    if !(← isMark .comma) then fail
    return { read with starred := true, bare := true }

def doubleStarItem (hint : Reader (Option Expr)) (read : ParamsRead) : Reader ParamsRead := do
  if read.bare then fail
  skip
  let name ← identifier
  let hint ← hint
  return { read with keywords := some ⟨name, hint, none⟩ }

def plainItem (expression : Reader Expr) (hint : Reader (Option Expr)) (read : ParamsRead) : Reader ParamsRead := do
  let line ← line
  let one ← param expression hint
  if read.starred then
    return { read with keywordOnly := read.keywordOnly ++ [one], bare := false }
  let before := read.positionalOnly ++ read.positional
  if one.default.isNone && before.any (·.default.isSome) then failAt line
  return { read with positional := read.positional ++ [one] }

def paramItem (expression : Reader Expr) (hint starHint : Reader (Option Expr))
    (read : ParamsRead) : Reader ParamsRead := do
  if read.keywords.isSome then fail
  match ← peek with
  | .mark .slash => slashItem read
  | .mark .star => starItem starHint read
  | .mark .doubleStar => doubleStarItem hint read
  | _ => plainItem expression hint read

def paramList (expression : Reader Expr) (hint starHint : Reader (Option Expr)) (close : Mark) :
    Reader Params := do
  loop ParamsRead.start fun read => do
    if ← isMark close then
      if read.bare then fail
      return .inr read.params
    let read ← paramItem expression hint starHint read
    if ← isMark close then
      if read.bare then fail
      return .inr read.params
    needMark .comma
    return .inl read

def hint (expression : Reader Expr) : Reader (Option Expr) := do
  if ← acceptMark .colon then return some (← expression)
  return none

def starHint (operand expression : Reader Expr) : Reader (Option Expr) := do
  if ← acceptMark .colon then
    if ← isMark .star then return some (← starredOperand operand)
    return some (← expression)
  return none

-- Expressions built from the readers of one nesting level.

def named (expression : Reader Expr) : Reader Expr := do
  match ← peek, ← peekSecond with
  | .name _, some (.mark .walrus) => do
    skip
    skip
    let _ ← expression
    return .other
  | _, _ => do
    let line ← line
    let value ← expression
    if ← isMark .walrus then failAt line
    return value

def item (operand expression : Reader Expr) : Reader Expr := do
  if ← isMark .star then starredOperand operand else named expression

def list (one : Reader Expr) : Reader Expr := do
  let first ← one
  if !(← isMark .comma) then return first
  let items ← loop [first] fun read => do
    if !(← acceptMark .comma) then return .inr read.reverse
    if !(← itemFollows) then return .inr read.reverse
    return .inl ((← one) :: read)
  return .sequence items .round

def starOrExpression (operand expression : Reader Expr) : Reader Expr := do
  if ← isMark .star then starredOperand operand else expression

def expressions (operand expression : Reader Expr) : Reader Expr := list (starOrExpression operand expression)

def yielded (operand expression : Reader Expr) : Reader Expr := do
  needWord .yield_
  if ← acceptWord .from_ then
    let _ ← expression
    return .other
  if ← itemFollows then
    let _ ← expressions operand expression
    return .other
  return .other

def yieldedOrExpressions (operand expression : Reader Expr) : Reader Expr := do
  if ← isWord .yield_ then yielded operand expression else expressions operand expression

-- The targets of a loop, which end before the word `in`. What cannot be a target is reported where it begins, unless
-- it turns out to be one side of a comparison.
def targets (operand : Reader Expr) : Reader Unit := do
  let start ← line
  let all ← list (do if ← isMark .star then starredOperand operand else operand)
  if !isTarget all then
    if comparesBy (← peek) then fail else failAt start

def clausesFollow : Reader Bool := do
  match ← peek, ← peekSecond with
  | .keyword .for_, _ => return true
  | .keyword .async_, some (.keyword .for_) => return true
  | _, _ => return false

section
variable (rules : Rules)

def clauses : Reader Unit := do
  loop false fun some_ => do
    if !(← clausesFollow) then
      if some_ then return .inr () else fail
    let _ ← acceptWord .async_
    needWord .for_
    targets rules.operand
    needWord .in_
    let _ ← rules.disjunction
    loop () fun _ => do
      if ← acceptWord .if_ then
        let _ ← rules.disjunction
        return .inl ()
      return .inr ()
    return .inl true

def failBeforeClauses {α : Type} (start : Nat) : Reader α := do
  clauses rules
  failAt start

def isStarred : Expr → Bool
  | .starred _ => true
  | _ => false

def round : Reader Expr := do
  let close : Mark := .closing .round
  if ← acceptMark close then return .sequence [] .round
  if ← isWord .yield_ then
    let value ← yielded rules.operand rules.expression
    needMark close
    return value
  let start ← line
  let first ← item rules.operand rules.expression
  if ← clausesFollow then
    if isStarred first then failBeforeClauses rules start
    clauses rules
    needMark close
    return .other
  if ← isMark close then
    if isStarred first then failAt start
    skip
    return first
  if !(← isMark .comma) then fail
  let items ← restOfItems (item rules.operand rules.expression) close first
  return .sequence items .round

def square : Reader Expr := do
  let close : Mark := .closing .square
  if ← acceptMark close then return .sequence [] .square
  let start ← line
  let first ← item rules.operand rules.expression
  if ← clausesFollow then
    if isStarred first then failBeforeClauses rules start
    clauses rules
    needMark close
    return .other
  let items ← restOfItems (do
    let next ← item rules.operand rules.expression
    if ← clausesFollow then failBeforeClauses rules start
    return next) close first
  return .sequence items .square

def entryValue : Reader Unit := do
  let colon ← line
  needMark .colon
  match ← peek with
  | .mark .comma => failAt colon
  | .mark (.closing .curly) => failAt colon
  | .mark .star => do
    let star ← line
    skip
    let _ ← rules.operand
    failAt star
  | _ => do
    let _ ← rules.expression
    return ()

def entry : Reader Unit := do
  if ← acceptMark .doubleStar then
    let _ ← rules.operand
    return ()
  let start ← line
  let _ ← rules.expression
  if !(← isMark .colon) then failAt start
  entryValue rules

def restOfEntries : Reader Unit := do
  let close : Mark := .closing .curly
  loop () fun _ => do
    if ← acceptMark close then return .inr ()
    needMark .comma
    if ← acceptMark close then return .inr ()
    entry rules
    return .inl ()

def curly : Reader Expr := do
  let close : Mark := .closing .curly
  if ← acceptMark close then return .other
  let start ← line
  if ← acceptMark .doubleStar then
    let _ ← rules.operand
    if ← clausesFollow then failBeforeClauses rules start
    restOfEntries rules
    return .other
  let first ← item rules.operand rules.expression
  if ← isMark .colon then
    if isStarred first then fail
    entryValue rules
    if ← clausesFollow then
      clauses rules
      needMark close
      return .other
    restOfEntries rules
    return .other
  if ← clausesFollow then
    if isStarred first then failBeforeClauses rules start
    clauses rules
    needMark close
    return .other
  let _ ← restOfItems (do
    let next ← item rules.operand rules.expression
    if ← clausesFollow then failBeforeClauses rules start
    return next) close first
  return .other

structure ArgumentsRead where
  arguments : List Argument
  named : Bool
  mapped : Bool
  misplaced : Bool

def argument (read : ArgumentsRead) (start : Nat) : Reader ArgumentsRead := do
  match ← peek, ← peekSecond with
  | .mark .star, _ => do
    skip
    let value ← rules.expression
    if read.mapped then failAt start
    return { read with arguments := read.arguments ++ [.unpacked value] }
  | .mark .doubleStar, _ => do
    skip
    let value ← rules.expression
    return { read with arguments := read.arguments ++ [.mapped value], mapped := true }
  | .name id, some (.mark .equals) => do
    skip
    skip
    let here ← line
    let value ← rules.expression
    if ← clausesFollow then failBeforeClauses rules here
    return { read with arguments := read.arguments ++ [.named id value], named := true }
  | _, _ => do
    let here ← line
    let value ← named rules.expression
    if ← isMark .equals then failAt here
    if ← clausesFollow then
      clauses rules
      if !read.arguments.isEmpty || (← isMark .comma) then failAt here
      return { read with arguments := [.positional .other] }
    return { read with arguments := read.arguments ++ [.positional value],
                       misplaced := read.misplaced || read.named || read.mapped }

def arguments : Reader (List Argument) := do
  let close : Mark := .closing .round
  let start ← line
  loop (⟨[], false, false, false⟩ : ArgumentsRead) fun read => do
    if ← isMark close then
      if read.misplaced then failAt (← line)
      skip
      return .inr read.arguments
    let read ← argument rules read start
    if ← isMark .comma then
      skip
      return .inl read
    if ← isMark close then return .inl read
    if read.misplaced then failAt (← line)
    fail

def slice : Reader Unit := do
  let bound : Reader Unit := do
    if startsExpression (← peek) then
      let _ ← rules.expression
      return ()
  if ← isMark .star then
    let _ ← starredOperand rules.expression
    return ()
  if !(← isMark .colon) then
    let _ ← named rules.expression
  if ← acceptMark .colon then
    bound
    if ← acceptMark .colon then bound

def slices : Reader Unit := do
  let close : Mark := .closing .square
  slice rules
  loop () fun _ => do
    if ← acceptMark close then return .inr ()
    needMark .comma
    if ← acceptMark close then return .inr ()
    slice rules
    return .inl ()

def atom : Reader Expr := do
  match ← peek with
  | .name id => do
    skip
    return .name id
  | .number value => do
    skip
    return .constant (.number value)
  | .string _ => string rules.expression
  | .keyword .none_ => do
    skip
    return .constant .none_
  | .keyword .true_ => do
    skip
    return .constant .true_
  | .keyword .false_ => do
    skip
    return .constant .false_
  | .mark .ellipsis => do
    skip
    return .constant .ellipsis
  | .mark (.opening .round) => do
    skip
    round rules
  | .mark (.opening .square) => do
    skip
    square rules
  | .mark (.opening .curly) => do
    skip
    curly rules
  | _ => fail

def primary : Reader Expr := do
  let first ← atom rules
  loop first fun owner => do
    match ← peek with
    | .mark .dot => do
      skip
      return .inl (.attribute owner (← identifier))
    | .mark (.opening .round) => do
      skip
      return .inl (.call owner (← arguments rules))
    | .mark (.opening .square) => do
      skip
      slices rules
      return .inl (.subscript owner)
    | _ => return .inr owner

def awaitedPrimary : Reader Expr := do
  if ← acceptWord .await_ then return .awaited (← primary rules)
  primary rules

def fullOperand : Reader Expr := operand rules (awaitedPrimary rules)

def fullDisjunction : Reader Expr := disjunction rules (fullOperand rules)

def lambda : Reader Expr := do
  needWord .lambda_
  let _ ← paramList rules.expression (return none) (return none) .colon
  needMark .colon
  let _ ← rules.expression
  return .other

def full : Reader Expr := do
  if ← isWord .lambda_ then lambda rules
  else
    let start ← line
    let plain := isPlainStart (← get)
    let first ← fullDisjunction rules
    if ← acceptWord .if_ then
      let _ ← rules.disjunction
      if ← acceptWord .else_ then
        let _ ← rules.expression
        return .other
      if ← isMark .colon then fail
      failAt start
    checkJuxtaposed (fullOperand rules) (rules.expression) start plain
    return first

end

end Statewright.Code.Expression
