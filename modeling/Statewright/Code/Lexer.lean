import Statewright.Code.Numeral
import Statewright.Text.Identifier
import Statewright.Text.Quoted

/-!
Telling tokens apart. Outside brackets the margin of a line opens and closes blocks, and the end of a line is a
token; inside brackets neither counts. A margin is measured twice, with tab stops every eight columns and every
column, and the two must agree on how lines nest. Blank lines and comments make no token.
-/
set_option autoImplicit false

namespace Statewright.Code.Lexer

structure State where
  line : Nat
  columns : List (Nat × Nat)
  brackets : List (Bracket × Nat)

namespace State

-- The line count grows when a new line has at least one character.
def advance (state : State) (rest : Text) : State :=
  if rest.isEmpty then state else { state with line := state.line + 1 }

def token (state : State) (lexeme : Lexeme) : Token := ⟨lexeme, state.line, state.brackets.length⟩

def open? (state : State) : Option Nat := state.brackets.head?.map (·.2)

def break_ (state : State) (line : Nat) (insists : Bool) : List Token :=
  [⟨.broken ⟨line, insists, state.open?⟩, line, state.brackets.length⟩]

def cutOff (state : State) : List Token := state.break_ (state.open?.getD state.line) false

def finish (state : State) : List Token :=
  if state.brackets.isEmpty then [state.token .finish] else state.cutOff

end State

structure Margin where
  wide : Nat
  narrow : Nat
  -- The column of the first continuation mark inside the margin, or zero.
  held : Nat
  line : Nat

def measure : Margin → Text → Option (Margin × Text)
  | m, ' ' :: rest => measure { m with wide := m.wide + 1, narrow := m.narrow + 1 } rest
  | m, '\t' :: rest => measure { m with wide := (m.wide / 8 + 1) * 8, narrow := m.narrow + 1 } rest
  | m, '\x0c' :: rest => measure { m with wide := 0, narrow := 0 } rest
  | m, '\\' :: '\n' :: c :: rest =>
    measure { m with held := if m.held = 0 then m.wide else m.held, line := m.line + 1 } (c :: rest)
  | _, '\\' :: _ => none
  | m, rest => some (m, rest)

def unwind (wide : Nat) : List (Nat × Nat) → Nat × List (Nat × Nat)
  | [] => (0, [])
  | (column, narrow) :: outer =>
    if wide < column then
      let (ended, left) := unwind wide outer
      (ended + 1, left)
    else (0, (column, narrow) :: outer)

def maxBlocks : Nat := 100
def maxBrackets : Nat := 200

inductive Nesting where
  | same
  | deeper (columns : List (Nat × Nat))
  | shallower (ended : Nat) (columns : List (Nat × Nat))
  | wrong

def nesting (wide narrow : Nat) (columns : List (Nat × Nat)) : Nesting :=
  let (column, narrowColumn) := columns.headD (0, 0)
  if wide = column then if narrow = narrowColumn then .same else .wrong
  else if column < wide then
    if maxBlocks ≤ columns.length + 1 || narrow ≤ narrowColumn then .wrong
    else .deeper ((wide, narrow) :: columns)
  else
    let (ended, left) := unwind wide columns
    if left.headD (0, 0) = (wide, narrow) then .shallower ended left else .wrong

def startsWord (c : Char) : Bool := c.isAlpha || c = '_' || 128 ≤ c.toNat

-- Reads a string up to its closing quote: what stands before the quote, how many lines end in it, and the rest. A
-- string in single quotes ends before its line does.
def stringBody (quote : Char) (long : Bool) : Text → Option (Text × Nat × Text)
  | [] => none
  | ['\\'] => none
  | '\\' :: c :: rest =>
    (stringBody quote long rest).map fun (body, ends, after) =>
      ('\\' :: c :: body, if c = '\n' then ends + 1 else ends, after)
  | c :: rest =>
    if long then
      match c :: rest with
      | a :: b :: d :: after =>
        if a = quote && b = quote && d = quote then some ([], 0, after)
        else (stringBody quote long rest).map fun (body, ends, after) =>
          (c :: body, if c = '\n' then ends + 1 else ends, after)
      | _ => none
    else if c = quote then some ([], 0, rest)
    else if c = '\n' then none
    else (stringBody quote long rest).map fun (body, ends, after) => (c :: body, ends, after)

def stringAt (quote : Char) : Text → Option (Text × Nat × Text)
  | a :: b :: rest =>
    if a = quote && b = quote then stringBody quote true rest else stringBody quote false (a :: b :: rest)
  | rest => stringBody quote false rest

def stringMarks (word : Text) : Option (Nat → Text → Literal) :=
  let lower := word.map Char.toLower
  if lower = [] then some (⟨false, false, false, false, ·, ·⟩)
  else if lower = ['r'] then some (⟨true, false, false, false, ·, ·⟩)
  else if lower = ['b'] then some (⟨false, true, false, false, ·, ·⟩)
  else if lower = ['f'] then some (⟨false, false, true, false, ·, ·⟩)
  else if lower = ['u'] then some (⟨false, false, false, true, ·, ·⟩)
  else if lower = ['b', 'r'] || lower = ['r', 'b'] then some (⟨true, true, false, false, ·, ·⟩)
  else if lower = ['f', 'r'] || lower = ['r', 'f'] then some (⟨true, false, true, false, ·, ·⟩)
  else none

def markAt : Text → Option (Mark × Text)
  | '.' :: '.' :: '.' :: rest => some (.ellipsis, rest)
  | '.' :: rest => some (.dot, rest)
  | '*' :: '*' :: '=' :: rest => some (.augmented, rest)
  | '*' :: '*' :: rest => some (.doubleStar, rest)
  | '*' :: '=' :: rest => some (.augmented, rest)
  | '*' :: rest => some (.star, rest)
  | '/' :: '/' :: '=' :: rest => some (.augmented, rest)
  | '/' :: '/' :: rest => some (.doubleSlash, rest)
  | '/' :: '=' :: rest => some (.augmented, rest)
  | '/' :: rest => some (.slash, rest)
  | '<' :: '<' :: '=' :: rest => some (.augmented, rest)
  | '<' :: '<' :: rest => some (.shiftLeft, rest)
  | '<' :: '=' :: rest => some (.lessEqual, rest)
  | '<' :: '>' :: rest => some (.unknown, rest)
  | '<' :: rest => some (.less, rest)
  | '>' :: '>' :: '=' :: rest => some (.augmented, rest)
  | '>' :: '>' :: rest => some (.shiftRight, rest)
  | '>' :: '=' :: rest => some (.greaterEqual, rest)
  | '>' :: rest => some (.greater, rest)
  | '=' :: '=' :: rest => some (.equal, rest)
  | '=' :: rest => some (.equals, rest)
  | '!' :: '=' :: rest => some (.notEqual, rest)
  | '-' :: '>' :: rest => some (.arrow, rest)
  | '-' :: '=' :: rest => some (.augmented, rest)
  | '-' :: rest => some (.minus, rest)
  | '+' :: '=' :: rest => some (.augmented, rest)
  | '+' :: rest => some (.plus, rest)
  | '%' :: '=' :: rest => some (.augmented, rest)
  | '%' :: rest => some (.percent, rest)
  | '&' :: '=' :: rest => some (.augmented, rest)
  | '&' :: rest => some (.ampersand, rest)
  | '|' :: '=' :: rest => some (.augmented, rest)
  | '|' :: rest => some (.bar, rest)
  | '^' :: '=' :: rest => some (.augmented, rest)
  | '^' :: rest => some (.caret, rest)
  | '@' :: '=' :: rest => some (.augmented, rest)
  | '@' :: rest => some (.at_, rest)
  | ':' :: '=' :: rest => some (.walrus, rest)
  | ':' :: rest => some (.colon, rest)
  | ',' :: rest => some (.comma, rest)
  | ';' :: rest => some (.semicolon, rest)
  | '~' :: rest => some (.tilde, rest)
  | '!' :: rest => some (.unknown, rest)
  | '$' :: rest => some (.unknown, rest)
  | '?' :: rest => some (.unknown, rest)
  | '`' :: rest => some (.unknown, rest)
  | _ => none

def opening? (c : Char) : Option Bracket :=
  if c = '(' then some .round else if c = '[' then some .square else if c = '{' then some .curly else none

def closing? (c : Char) : Option Bracket :=
  if c = ')' then some .round else if c = ']' then some .square else if c = '}' then some .curly else none

def isSpace (c : Char) : Bool := c = ' ' || c = '\t' || c = '\x0c'

structure Position where
  -- At the start of a line, before its margin.
  fresh : Bool
  state : State
  text : Text

-- What one step gives: tokens, and where to go on unless the text ends there.
abbrev Step := List Token × Option Position

namespace State

def goOn (state : State) (rest : Text) (tokens : List Token) : Step := (tokens, some ⟨false, state, rest⟩)

def nextLine (state : State) (rest : Text) (tokens : List Token) : Step :=
  (tokens, some ⟨true, state.advance rest, rest⟩)

def stop (tokens : List Token) : Step := (tokens, none)

end State

open State (stop)

def isBlankLine : Text → Bool
  | '#' :: _ => true
  | '\n' :: _ => true
  | _ => false

def skipLine (state : State) (text : Text) : Step :=
  match text.dropWhile (· != '\n') with
  | _ :: rest => state.nextLine rest []
  | [] => stop state.finish

-- The margin of a line opens and closes blocks, unless a bracket is open.
def nest (state : State) (margin : Margin) (rest : Text) : Step :=
  let wide := if margin.held = 0 then margin.wide else margin.held
  let narrow := if margin.held = 0 then margin.narrow else margin.held
  match nesting wide narrow state.columns with
  | .same => state.goOn rest []
  | .deeper columns => { state with columns }.goOn rest [state.token .indent]
  | .shallower ended columns => { state with columns }.goOn rest (List.replicate ended (state.token .dedent))
  | .wrong => stop (state.break_ state.line false)

def lineStart (state : State) (text : Text) : Step :=
  match measure ⟨0, 0, 0, state.line⟩ text with
  | none => stop (state.break_ state.line false)
  | some (margin, rest) =>
    let state := { state with line := margin.line }
    if isBlankLine rest then skipLine state rest
    else if !state.brackets.isEmpty then state.goOn rest []
    else nest state margin rest

def startsNumber (c : Char) (rest : Text) : Bool := c.isDigit || (c = '.' && rest.head?.any Char.isDigit)

def number (state : State) (c : Char) (rest : Text) : Step :=
  match (if c = '.' then Numeral.fraction rest else Numeral.read (c :: rest)) with
  | some (value, rest) => state.goOn rest [state.token (.number value)]
  | none => stop (state.break_ state.line true)

def string (state : State) (literal : Nat → Text → Literal) (quote : Char) (rest : Text) : Step :=
  match stringAt quote rest with
  | some (body, ends, rest) =>
    { state with line := state.line + ends }.goOn rest [state.token (.string (literal state.line body))]
  | none => stop (state.break_ state.line true)

def name (state : State) (word rest : Text) : Step :=
  match keyword? word with
  | some known => state.goOn rest [state.token (.keyword known)]
  | none =>
    if Text.isIdentifier word then state.goOn rest [state.token (.name word)]
    else stop (state.break_ state.line true)

def openBracket (state : State) (bracket : Bracket) (rest : Text) : Step :=
  if maxBrackets ≤ state.brackets.length then stop (state.break_ state.line true)
  else
    { state with brackets := (bracket, state.line) :: state.brackets }.goOn rest
      [state.token (.mark (.opening bracket))]

def closeBracket (state : State) (bracket : Bracket) (rest : Text) : Step :=
  match state.brackets with
  | (opened, _) :: outer =>
    if opened = bracket then
      let state := { state with brackets := outer }
      state.goOn rest [state.token (.mark (.closing bracket))]
    else stop (state.break_ state.line true)
  | [] => stop (state.break_ state.line true)

def mark (state : State) (c : Char) (rest : Text) : Step :=
  match opening? c, closing? c with
  | some bracket, _ => openBracket state bracket rest
  | none, some bracket => closeBracket state bracket rest
  | none, none => match markAt (c :: rest) with
    | some (mark, rest) => state.goOn rest [state.token (.mark mark)]
    | none => stop (state.break_ state.line true)

def quote? : Text → Option Char
  | '"' :: _ => some '"'
  | '\'' :: _ => some '\''
  | _ => none

-- A word may stand before the quote of a string and say how to read it.
def wordOrMark (state : State) (c : Char) (rest : Text) : Step :=
  let word := if startsWord c then (c :: rest).takeWhile Numeral.isWordChar else []
  let after := (c :: rest).drop word.length
  match quote? after, stringMarks word with
  | some quote, some literal => string state literal quote (after.drop 1)
  | _, _ => if word.isEmpty then mark state c rest else name state word after

def inLine (state : State) (text : Text) : Step :=
  match text.dropWhile isSpace with
  | [] => stop state.finish
  | '#' :: rest => match rest.dropWhile (· != '\n') with
    | [] => stop state.finish
    | rest => state.goOn rest []
  | '\n' :: rest => state.nextLine rest (if state.brackets.isEmpty then [state.token .newline] else [])
  | '\\' :: '\n' :: c :: rest => { state with line := state.line + 1 }.goOn (c :: rest) []
  | ['\\', '\n'] => stop state.cutOff
  | '\\' :: _ => stop (state.break_ state.line false)
  | c :: rest => if startsNumber c rest then number state c rest else wordOrMark state c rest

def step (position : Position) : Step :=
  if position.fresh then lineStart position.state position.text else inLine position.state position.text

-- The tokens of a text. Each step uses at least one character or turns from the start of a line to its middle.
def scan : Nat → Position → List Token
  | 0, position => position.state.break_ position.state.line true
  | fuel + 1, position => match step position with
    | (tokens, some next) => tokens ++ scan fuel next
    | (tokens, none) => tokens

end Lexer

def evenLineEnds : Text → Text
  | [] => []
  | '\r' :: '\n' :: rest => '\n' :: evenLineEnds rest
  | '\r' :: rest => '\n' :: evenLineEnds rest
  | c :: rest => c :: evenLineEnds rest

def tokensOfLines (text : Text) : List Token :=
  let text := evenLineEnds text
  let text := if text.isEmpty || text.getLast? = some '\n' then text else text ++ ['\n']
  Lexer.scan (2 * text.length + 2) ⟨true, ⟨1, [], []⟩, text⟩

def tokensOf (text : Text) : List Token :=
  let text := evenLineEnds text
  Lexer.scan (2 * text.length + 2) ⟨true, ⟨1, [], []⟩, text⟩

end Statewright.Code
