import Statewright.Code.Numeral

/-!
What string literals mean. `unescape` gives the text that a literal stands for, or nothing when an escape is
malformed; `fields` cuts a formatted literal into the expressions that it holds. A character given by its name
is taken to exist and stands as the replacement character.
-/
set_option autoImplicit false

namespace Statewright.Code.StringValue

def replacement : Char := Char.ofNat 0xfffd

def ofHex (digits : Text) : Char :=
  let n := Numeral.valueOf 16 digits
  if n.isValidChar then Char.ofNat n else replacement

def takeExactly (n : Nat) (isDigit : Char → Bool) (text : Text) : Option (Text × Text) :=
  let lead := text.take n
  if lead.length = n && lead.all isDigit then some (lead, text.drop n) else none

def simpleEscapes : List (Char × Char) :=
  [('\\', '\\'), ('\'', '\''), ('"', '"'), ('a', '\x07'), ('b', '\x08'), ('f', '\x0c'), ('n', '\n'),
   ('r', '\r'), ('t', '\t'), ('v', '\x0b')]

-- The character that an escape stands for (none for an escaped line end) and the rest, if the escape that follows the
-- backslash is well formed.
def escapeAt (bytes : Bool) : Text → Option (Text × Text)
  | [] => some (['\\'], [])
  | '\n' :: rest => some ([], rest)
  | 'x' :: rest => (takeExactly 2 Numeral.isHex rest).map fun (d, after) => ([ofHex d], after)
  | c :: rest =>
    match simpleEscapes.lookup c with
    | some value => some ([value], rest)
    | none =>
      if Numeral.isOctal c then
        let digits := ((c :: rest).take 3).takeWhile Numeral.isOctal
        some ([Char.ofNat (Numeral.valueOf 8 digits)], (c :: rest).drop digits.length)
      else if bytes then some (['\\', c], rest)
      else if c = 'u' then (takeExactly 4 Numeral.isHex rest).map fun (d, after) => ([ofHex d], after)
      else if c = 'U' then
        (takeExactly 8 Numeral.isHex rest).bind fun (d, after) =>
          if Numeral.valueOf 16 d < 0x110000 then some ([ofHex d], after) else none
      else if c = 'N' then
        match rest with
        | '{' :: named =>
          match named.dropWhile (· != '}') with
          | _ :: after => if named.head? = some '}' then none else some ([replacement], after)
          | [] => none
        | _ => none
      else some (['\\', c], rest)

def unescape (bytes : Bool) : Nat → Text → Option Text
  | 0, _ => some []
  | _ + 1, [] => some []
  | fuel + 1, '\\' :: rest =>
    (escapeAt bytes rest).bind fun (value, after) => (unescape bytes fuel after).map (value ++ ·)
  | fuel + 1, c :: rest => (unescape bytes fuel rest).map (c :: ·)

def textOf (literal : Literal) : Option Text :=
  if literal.raw then some literal.body else unescape literal.bytes literal.body.length literal.body

structure Field where
  ends : Nat
  code : Text

def countEnds (text : Text) : Nat := text.count '\n'

structure Scope where
  quote : Option (Char × Bool)
  brackets : List Char

def matching (c : Char) : Char := if c = ')' then '(' else if c = ']' then '[' else '{'

def endsField (c : Char) : Bool := c = '!' || c = ':' || c = '}' || c = '='

def fieldCode : Nat → Scope → Text → Option (Text × Text)
  | 0, _, _ => none
  | _ + 1, _, [] => none
  | fuel + 1, scope, c :: rest =>
    let go (scope : Scope) (used : Text) (rest : Text) : Option (Text × Text) :=
      (fieldCode fuel scope rest).map fun (code, after) => (used ++ code, after)
    if c = '\\' then none
    else match scope.quote with
      | some (quote, long) =>
        if c = quote then
          if long then
            if rest.take 2 = [c, c] then go { scope with quote := none } [c, c, c] (rest.drop 2)
            else go scope [c] rest
          else go { scope with quote := none } [c] rest
        else go scope [c] rest
      | none =>
        if c = '\'' || c = '"' then
          if rest.take 2 = [c, c] then go { scope with quote := some (c, true) } [c, c, c] (rest.drop 2)
          else go { scope with quote := some (c, false) } [c] rest
        else if c = '[' || c = '{' || c = '(' then go { scope with brackets := c :: scope.brackets } [c] rest
        else if c = '#' then none
        else if scope.brackets.isEmpty && (endsField c || c = '<' || c = '>') then
          if rest.head? = some '=' && c != ':' && c != '}' then go scope [c, '='] (rest.drop 1)
          else if c = '<' || c = '>' then go scope [c] rest
          else some ([], c :: rest)
        else if c = ']' || c = '}' || c = ')' then
          match scope.brackets with
          | opened :: outer => if opened = matching c then go { scope with brackets := outer } [c] rest else none
          | [] => none
        else go scope [c] rest

def isFieldSpace (c : Char) : Bool := c = ' ' || c = '\t' || c = '\n' || c = '\x0c'

-- The fields of a formatted text at a nesting level, and the rest from the brace that ends it; at the outermost level
-- doubled braces are characters and the whole text is used.
def fieldsIn (raw : Bool) : Nat → (level : Nat) → (ends : Nat) → Text → Option (List Field × Nat × Text)
  | 0, _, _, _ => none
  | _ + 1, _, ends, [] => some ([], ends, [])
  | fuel + 1, level, ends, '{' :: rest =>
    if level = 0 && rest.head? = some '{' then fieldsIn raw fuel level ends (rest.drop 1)
    else if 2 ≤ level then none
    else
      (fieldCode (rest.length + 1) ⟨none, []⟩ rest).bind fun (code, after) =>
        if code.all isFieldSpace then none
        else
          let here := ends + countEnds code
          let after := match after with
            | '=' :: more => more.dropWhile fun c => isFieldSpace c || c = '\r' || c = '\x0b'
            | other => other
          let converted : Option Text := match after with
            | '!' :: kind :: more => if kind = 's' || kind = 'r' || kind = 'a' then some more else none
            | ['!'] => none
            | other => some other
          converted.bind fun after =>
            let shaped : Option (List Field × Nat × Text) := match after with
              | ':' :: more => if more.isEmpty then none else fieldsIn raw fuel (level + 1) here more
              | other => some ([], here, other)
            shaped.bind fun (inner, there, after) =>
              match after with
              | '}' :: more =>
                (fieldsIn raw fuel level there more).map fun (later, last, final) =>
                  (⟨ends, code⟩ :: inner ++ later, last, final)
              | _ => none
  | fuel + 1, level, ends, '}' :: rest =>
    if level = 0 then
      if rest.head? = some '}' then fieldsIn raw fuel level ends (rest.drop 1) else none
    else some ([], ends, '}' :: rest)
  | fuel + 1, level, ends, c :: rest =>
    let after :=
      if c = '\\' && !raw then
        match rest with
        | 'N' :: '{' :: more => (more.dropWhile (· != '}')).drop 1
        | '{' :: _ => rest
        | '}' :: _ => rest
        | _ :: more => more
        | [] => []
      else rest
    let used := (c :: rest).take ((c :: rest).length - after.length)
    if c = '\\' && !raw && (escapeAt false rest).isNone then none
    else fieldsIn raw fuel level (ends + countEnds used) after

-- The literal stretches of a formatted text must have well-formed escapes too; the fields are left out.
def fields (literal : Literal) : Option (List Field) :=
  (fieldsIn literal.raw (literal.body.length + 1) 0 0 literal.body).bind fun (all, _, rest) =>
    if rest.isEmpty then some all else none

end Statewright.Code.StringValue
