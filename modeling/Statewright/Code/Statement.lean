import Statewright.Code.Pattern

/-!
Readers of statements and blocks, and of whole texts.
-/
set_option autoImplicit false

namespace Statewright.Code.Statement

open Reader Expression

section
variable (rules : Rules)

def values : Reader Expr := expressions rules.operand rules.expression

def yieldedOrValues : Reader Expr := yieldedOrExpressions rules.operand rules.expression

def assigned : Reader Stmt :=
  loop () fun _ => do
    let start ← line
    let value ← yieldedOrValues rules
    if ← isMark .equals then
      if !isTarget value then failAt start
      skip
      return .inl ()
    return .inr .other

-- What follows the colon behind a name: a type, and a value or none.
def annotation : Reader (Expr × Option Expr) := do
  let hint ← rules.expression
  if ← acceptMark .equals then return (hint, some (← yieldedOrValues rules))
  return (hint, none)

def expressionStatement : Reader Stmt := do
  let start ← line
  let first ← yieldedOrValues rules
  match ← peek with
  | .mark .equals => do
    if !isTarget first then failAt start
    skip
    assigned rules
  | .mark .augmented => do
    if !isPlace first then failAt start
    skip
    let _ ← yieldedOrValues rules
    return .other
  | .mark .colon => do
    if !isPlace first then
      skip
      let _ ← rules.expression
      failAt start
    skip
    let _ ← annotation rules
    return .other
  | _ => return .expr first

def dottedName : Reader Unit := do
  let _ ← identifier
  Pattern.dottedRest

def secondName : Reader Unit := do
  if ← acceptWord .as_ then
    let _ ← identifier

def commaSeparated (one : Reader Unit) : Reader Unit := do
  one
  loop () fun _ => do
    if ← acceptMark .comma then
      one
      return .inl ()
    return .inr ()

def importNames : Reader Unit := commaSeparated do
  dottedName
  secondName

def importedName : Reader Unit := do
  let _ ← identifier
  secondName

def importFrom : Reader Unit := do
  let dots ← loop false fun dots => do
    if (← acceptMark .dot) || (← acceptMark .ellipsis) then return .inl true
    return .inr dots
  if !dots || !(← isWord .import_) then dottedName
  needWord .import_
  if ← acceptMark .star then return ()
  if ← acceptMark (.opening .round) then
    importedName
    loop () fun _ => do
      if ← acceptMark (.closing .round) then return .inr ()
      needMark .comma
      if ← acceptMark (.closing .round) then return .inr ()
      importedName
      return .inl ()
  else commaSeparated importedName

def deletion : Reader Unit := do
  let start ← line
  let all ← values rules
  if !isDeletable all then failAt start

def raised : Reader Stmt := do
  if startsExpression (← peek) then
    let value ← rules.expression
    if ← acceptWord .from_ then
      let _ ← rules.expression
      return .other
    return .raise_ (some value)
  return .raise_ none

def simple : Reader Stmt := do
  match ← peek with
  | .keyword .pass_ => do
    skip
    return .pass_
  | .keyword .break_ => do
    skip
    return .other
  | .keyword .continue_ => do
    skip
    return .other
  | .keyword .return_ => do
    skip
    if ← itemFollows then return .return_ (some (← values rules))
    return .return_ none
  | .keyword .raise_ => do
    skip
    raised rules
  | .keyword .global_ => do
    skip
    commaSeparated (do let _ ← identifier)
    return .other
  | .keyword .nonlocal_ => do
    skip
    commaSeparated (do let _ ← identifier)
    return .other
  | .keyword .del_ => do
    skip
    deletion rules
    return .other
  | .keyword .assert_ => do
    skip
    let _ ← rules.expression
    if ← acceptMark .comma then
      let _ ← rules.expression
    return .other
  | .keyword .import_ => do
    skip
    importNames
    return .other
  | .keyword .from_ => do
    skip
    importFrom
    return .other
  | _ => expressionStatement rules

def simpleLine : Reader (List Stmt) := do
  let first ← simple rules
  loop [first] fun read => do
    if ← accept .newline then return .inr read.reverse
    needMark .semicolon
    if ← accept .newline then return .inr read.reverse
    return .inl ((← simple rules) :: read)

def block : Reader (List Stmt) := do
  if ← accept .newline then
    need .indent
    let first ← rules.statement
    loop first fun read => do
      if ← accept .dedent then return .inr read
      return .inl (read ++ (← rules.statement))
  else simpleLine rules

def colonBlock : Reader (List Stmt) := do
  needMark .colon
  block rules

def condition : Reader Expr := named rules.expression

def branches : Reader (List Stmt) := do
  let conditions ← loop [] fun read => do
    if ← acceptWord .elif_ then
      let condition ← condition rules
      let body ← colonBlock rules
      return .inl ((condition, body) :: read)
    return .inr read
  let last ← (do
    if ← acceptWord .else_ then colonBlock rules else return [])
  return conditions.foldl (fun rest (condition, body) => [.if_ condition body rest]) last

def conditional : Reader Stmt := do
  needWord .if_
  let condition ← condition rules
  let body ← colonBlock rules
  return .if_ condition body (← branches rules)

def otherwise : Reader Unit := do
  if ← acceptWord .else_ then
    let _ ← colonBlock rules

def whileLoop : Reader Stmt := do
  needWord .while_
  let _ ← condition rules
  let _ ← colonBlock rules
  otherwise rules
  return .other

def forLoop : Reader Stmt := do
  needWord .for_
  targets rules.operand
  needWord .in_
  let _ ← values rules
  let _ ← colonBlock rules
  otherwise rules
  return .other

def handler : Reader Unit := do
  let starred ← acceptMark .star
  if starred || startsExpression (← peek) then
    let _ ← rules.expression
    if ← acceptWord .as_ then
      let _ ← identifier
  let _ ← colonBlock rules

-- Handlers are all of one kind, starred or not.
def handlers : Reader Nat := do
  let kind := do
    match ← peekSecond with
    | some (.mark .star) => return true
    | _ => return false
  loop (0, none) fun (count, (starred : Option Bool)) => do
    if !(← isWord .except_) then return .inr count
    let this ← kind
    skip
    if starred.any (· != this) then fail
    handler rules
    return .inl (count + 1, some this)

def attempt : Reader Stmt := do
  needWord .try_
  let _ ← colonBlock rules
  let count ← handlers rules
  if 0 < count then
    otherwise rules
  else if !(← isWord .finally_) then fail
  if ← acceptWord .finally_ then
    let _ ← colonBlock rules
  return .other

def resource : Reader Unit := do
  let _ ← rules.expression
  if ← acceptWord .as_ then
    let start ← line
    let target ← starOrExpression rules.operand rules.operand
    if !isTarget target then failAt start

def bracketedResources : Reader Unit := do
  let close : Mark := .closing .round
  needMark (.opening .round)
  resource rules
  loop () fun _ => do
    if ← acceptMark close then return .inr ()
    needMark .comma
    if ← acceptMark close then return .inr ()
    resource rules
    return .inl ()
  if !(← isMark .colon) then fail

def withStatement : Reader Stmt := do
  needWord .with_
  orElse (bracketedResources rules) (do
    commaSeparated (resource rules)
    if !(← isMark .colon) then fail)
  let _ ← colonBlock rules
  return .other

def definition : Reader Stmt := do
  needWord .def_
  let name ← identifier
  needMark (.opening .round)
  let params ← paramList rules.expression (hint rules.expression)
    (starHint rules.operand rules.expression) (.closing .round)
  needMark (.closing .round)
  if ← acceptMark .arrow then
    let _ ← rules.expression
  return .define name params (← colonBlock rules)

def classDefinition : Reader Stmt := do
  needWord .class_
  let _ ← identifier
  if ← acceptMark (.opening .round) then
    let _ ← arguments rules
  let _ ← colonBlock rules
  return .other

def asynchronous : Reader Stmt := do
  needWord .async_
  match ← peek with
  | .keyword .def_ => definition rules
  | .keyword .for_ => forLoop rules
  | .keyword .with_ => withStatement rules
  | _ => fail

def decorated : Reader Stmt := do
  loop () fun _ => do
    if ← acceptMark .at_ then
      let _ ← named rules.expression
      need .newline
      return .inl ()
    return .inr ()
  match ← peek with
  | .keyword .class_ => classDefinition rules
  | .keyword .def_ => definition rules
  | .keyword .async_ => do
    needWord .async_
    definition rules
  | _ => fail

def case : Reader Unit := do
  match ← peek with
  | .name id => if id = Text.fixed "case" then skip else fail
  | _ => fail
  Pattern.top rules
  if ← acceptWord .if_ then
    let _ ← condition rules
  let _ ← colonBlock rules

def choice : Reader Stmt := do
  skip
  let subject ← list (item rules.operand rules.expression)
  if isStarred subject then fail
  needMark .colon
  need .newline
  need .indent
  case rules
  loop () fun _ => do
    if ← accept .dedent then return .inr ()
    case rules
    return .inl ()
  return .other

def statement : Reader (List Stmt) := do
  let alone (one : Reader Stmt) : Reader (List Stmt) := do return [← one]
  match ← peek with
  | .keyword .if_ => alone (conditional rules)
  | .keyword .while_ => alone (whileLoop rules)
  | .keyword .for_ => alone (forLoop rules)
  | .keyword .try_ => alone (attempt rules)
  | .keyword .with_ => alone (withStatement rules)
  | .keyword .def_ => alone (definition rules)
  | .keyword .class_ => alone (classDefinition rules)
  | .keyword .async_ => alone (asynchronous rules)
  | .mark .at_ => alone (decorated rules)
  | .name id =>
    if id = Text.fixed "match" then orElse (alone (choice rules)) (simpleLine rules) else simpleLine rules
  | _ => simpleLine rules

end

def rules : Nat → Rules
  | 0 => ⟨fail, fail, fail, fail, fail, fail, fail⟩
  | depth + 1 =>
    let inner := rules depth
    { factor := factor inner (awaitedPrimary inner)
      operand := fullOperand inner
      negation := negation inner (fullOperand inner)
      disjunction := fullDisjunction inner
      expression := full inner
      pattern := Pattern.full inner
      statement := statement inner }

end Statement

open Reader Expression Statement

def statements (rules : Rules) : Reader (List Stmt) :=
  loop [] fun read => do
    if ← accept .finish then return .inr read
    return .inl (read ++ (← rules.statement))

def soleExpression (rules : Rules) : Reader Expr := do
  let value ← list rules.expression
  loop () fun _ => do
    if ← accept .newline then return .inl ()
    return .inr ()
  need .finish
  return value

-- A line of a class that gives a name a type.
def declaration (rules : Rules) : Reader Declaration := do
  let name ← identifier
  needMark .colon
  let read ← annotation rules
  need .newline
  need .finish
  return ⟨name, read.1, read.2⟩

-- The line to report for a failure. A break that insists comes first; then a bracket that is never closed, if reading
-- went past the line where it was opened.
def reportLine (tokens : List Token) : Fault → Nat
  | .lexical stop => stop.line
  | .indentation line => line
  | .unexpected line reach _ =>
    match tokens.getLast? with
    | some { lexeme := .broken stop, .. } =>
      if stop.insists then stop.line
      else match stop.open? with
        | some opened => if opened < reach then opened else line
        | none => line
    | _ => line

-- The outcome of reading a text of code: a tree, or the line of the first mistake. A text that is refused as a whole
-- has its mistake on line zero.
abbrev Reading := Except Nat

-- How many tokens a token may stand for: the code of a field stands inside the one token of its formatted string.
def room (token : Token) : Nat :=
  match token.lexeme with
  | .string literal => literal.body.length + 2
  | _ => 1

-- Code nests at most as deep as it has tokens, and repeats nothing more often.
def levels (tokens : List Token) : Nat := 2 * tokens.foldr (room · + ·) 0 + 2

def readTokens {α : Type} (reader : Rules → Reader α) (depth : Nat) (tokens : List Token) : Reading α :=
  match reader (rules depth) depth tokens with
  | .ok (value, _) => .ok value
  | .error fault => .error (reportLine tokens fault)

def refuseNull (text : Text) : Reading Unit := if text.contains (Char.ofNat 0) then .error 0 else .ok ()

def readStatementsIn (depth : Nat) (text : Text) : Reading (List Stmt) := do
  refuseNull text
  readTokens statements depth (tokensOfLines text)

def readStatements (text : Text) : Reading (List Stmt) := readStatementsIn (levels (tokensOfLines text)) text

def readExpression (text : Text) : Reading Expr := do
  refuseNull text
  readTokens soleExpression (levels (tokensOf text)) (tokensOf text)

def readDeclaration (line : Text) : Reading Declaration := do
  refuseNull line
  readTokens declaration (levels (tokensOfLines line)) (tokensOfLines line)

end Statewright.Code
