import Statewright.Code.Expression

/-!
Readers of the patterns of a match statement. Only their grammar matters here.
-/
set_option autoImplicit false

namespace Statewright.Code.Pattern

open Reader

def wildcard : Text := "_"

def captured : Reader Unit := do
  let name ← identifier
  if name = wildcard then fail

def dottedRest : Reader Unit :=
  loop () fun _ => do
    if ← acceptMark .dot then
      let _ ← identifier
      return .inl ()
    return .inr ()

def number : Reader Unit := do
  let _ ← acceptMark .minus
  match ← peek with
  | .number _ => skip
  | _ => fail
  if (← isMark .plus) || (← isMark .minus) then
    skip
    match ← peek with
    | .number .inexact => skip
    | _ => fail

section
variable (rules : Rules)

def star : Reader Unit := do
  needMark .star
  let _ ← identifier

def starOrPattern : Reader Unit := do
  if ← isMark .star then star else rules.pattern

def sequence (close : Mark) : Reader (Nat × Bool) :=
  loop (0, false) fun (count, comma) => do
    if ← acceptMark close then return .inr (count, comma)
    if 0 < count && !comma then fail
    starOrPattern rules
    if ← acceptMark .comma then return .inl (count + 1, true)
    needMark close
    return .inr (count + 1, comma)

def group : Reader Unit := do
  let starts ← isMark .star
  let (count, comma) ← sequence rules (.closing .round)
  if count = 1 && starts && !comma then fail

def key : Reader Unit := do
  match ← peek with
  | .name _ => do
    skip
    needMark .dot
    let _ ← identifier
    dottedRest
  | .string _ => do
    let _ ← Expression.string rules.expression
  | .keyword .none_ => skip
  | .keyword .true_ => skip
  | .keyword .false_ => skip
  | _ => number

def mapping : Reader Unit := do
  let close : Mark := .closing .curly
  loop false fun last => do
    if ← acceptMark close then return .inr ()
    if last then fail
    let rest ← acceptMark .doubleStar
    if rest then captured
    else
      key rules
      needMark .colon
      rules.pattern
    if ← acceptMark .comma then return .inl rest
    needMark close
    return .inr ()

def fields : Reader Unit := do
  let close : Mark := .closing .round
  loop false fun named => do
    if ← acceptMark close then return .inr ()
    let byName ← (do
      match ← peek, ← peekSecond with
      | .name _, some (.mark .equals) => do
        skip
        skip
        return true
      | _, _ => return false)
    if named && !byName then fail
    rules.pattern
    if ← acceptMark .comma then return .inl byName
    needMark close
    return .inr ()

def closed : Reader Unit := do
  match ← peek with
  | .name _ => do
    skip
    dottedRest
    if ← acceptMark (.opening .round) then fields rules
  | .string _ => do
    let _ ← Expression.string rules.expression
  | .keyword .none_ => skip
  | .keyword .true_ => skip
  | .keyword .false_ => skip
  | .mark (.opening .round) => do
    skip
    group rules
  | .mark (.opening .square) => do
    skip
    let _ ← sequence rules (.closing .square)
  | .mark (.opening .curly) => do
    skip
    mapping rules
  | _ => number

def full : Reader Unit := do
  closed rules
  loop () fun _ => do
    if ← acceptMark .bar then
      closed rules
      return .inl ()
    return .inr ()
  if ← acceptWord .as_ then captured

def top : Reader Unit := do
  let starts ← isMark .star
  if starts then star else full rules
  if !(← isMark .comma) then
    if starts then fail
    return ()
  loop () fun _ => do
    if !(← acceptMark .comma) then return .inr ()
    match ← peek with
    | .mark .colon => return .inr ()
    | .keyword .if_ => return .inr ()
    | .mark .star => do
      star
      return .inl ()
    | _ => do
      full rules
      return .inl ()

end

end Statewright.Code.Pattern
