import Statewright.Markup.Tree
import Statewright.Markup.Encoding

/-!
Reading markup. A document is an optional declaration, an optional document type, and one element, with comments
and processing instructions around them. Where it is malformed, the reader stops and gives the line it stopped
on. Lines are counted by line feeds; a carriage return before a line feed is dropped, and one that stands alone
reads as a line feed but counts for no line.
-/
set_option autoImplicit false

namespace Statewright.Markup

structure Cursor where
  line : Nat
  rest : Text

abbrev Scan := StateT Cursor (Except Nat)

namespace Scan

def stop {α : Type} : Scan α := fun cursor => .error cursor.line

def rest : Scan Text := do return (← get).rest

def skip (count : Nat) : Scan Unit := modify fun cursor => { cursor with rest := cursor.rest.drop count }

def spacesFrom : Nat → Text → Cursor
  | line, [] => ⟨line, []⟩
  | line, c :: rest =>
    if isSpace c then spacesFrom (if c = '\n' then line + 1 else line) rest else ⟨line, c :: rest⟩

def spaces : Scan Bool := do
  let before ← get
  set (spacesFrom before.line before.rest)
  return match before.rest with
    | c :: _ => isSpace c
    | [] => false

def accept (word : Text) : Scan Bool := do
  match Text.after? word (← rest) with
  | some after => do
    modify fun cursor => { cursor with rest := after }
    return true
  | none => return false

def need (word : Text) : Scan Unit := do
  if !(← accept word) then stop

def name : Scan Text := do
  match ← rest with
  | c :: more =>
    if startsName c then
      let found := c :: more.takeWhile continuesName
      skip found.length
      return found
    else stop
  | [] => stop

end Scan

structure Qualified where
  space : Option Text
  own : Text
deriving DecidableEq

namespace Qualified

def full (name : Qualified) : Text :=
  match name.space with
  | some space => space ++ ':' :: name.own
  | none => name.own

def ofText? (text : Text) : Option Qualified :=
  match Text.splitAt ':' text with
  | [own] => some ⟨none, own⟩
  | [space, own] =>
    if space.isEmpty then none
    else match own with
      | c :: _ => if startsName c then some ⟨some space, own⟩ else none
      | [] => none
  | _ => none

end Qualified

-- What a document type declares, as far as it shows: general entities with their replacement texts (none for those
-- kept outside), and whether there may be declarations that are not read.
structure Declared where
  entities : List (Text × Option Text)
  open_ : Bool

def predefined : List (String × Char) := [("lt", '<'), ("gt", '>'), ("amp", '&'), ("quot", '"'), ("apos", '\'')]

def predefined? (name : Text) : Option Char :=
  (predefined.find? fun entry => Text.fixed entry.1 == name).map (·.2)

def digitsOf (base : Nat) (digits : Text) : Nat :=
  digits.foldl (fun n c =>
    n * base + (if c.isDigit then c.toNat - 48 else if c.isUpper then c.toNat - 55 else c.toNat - 87)) 0

def isHexDigit (c : Char) : Bool := c.isDigit || ('a' ≤ c && c ≤ 'f') || ('A' ≤ c && c ≤ 'F')

def numericReference (text : Text) : Option (Char × Text) :=
  let (base, isDigit, text) : Nat × (Char → Bool) × Text := match text with
    | 'x' :: rest => (16, isHexDigit, rest)
    | _ => (10, Char.isDigit, text)
  let digits := text.takeWhile isDigit
  let value := digitsOf base digits
  match digits, text.dropWhile isDigit with
  | _ :: _, ';' :: rest =>
    if value.isValidChar && isAllowed (Char.ofNat value) then some (Char.ofNat value, rest) else none
  | _, _ => none

def namedReference (text : Text) : Option (Text × Text) :=
  match text with
  | c :: more =>
    if startsName c then
      let name := c :: more.takeWhile continuesName
      match text.drop name.length with
      | ';' :: rest => some (name, rest)
      | _ => none
    else none
  | [] => none

-- The replacement text of an entity as it enters an attribute value: white space becomes spaces and references are
-- expanded in turn. No markup may come in that way.
def expand (declared : Declared) : Nat → Text → Option Text
  | 0, _ => none
  | _ + 1, [] => some []
  | fuel + 1, '&' :: '#' :: rest =>
    (numericReference rest).bind fun (c, after) => (expand declared fuel after).map (c :: ·)
  | fuel + 1, '&' :: rest =>
    (namedReference rest).bind fun (name, after) =>
      match predefined? name with
      | some c => (expand declared fuel after).map (c :: ·)
      | none =>
        match declared.entities.lookup name with
        | some (some value) =>
          (expand declared (fuel / 2) value).bind fun inner => (expand declared fuel after).map (inner ++ ·)
        | _ => none
  | _ + 1, '<' :: _ => none
  | fuel + 1, c :: rest => (expand declared fuel rest).map ((if isSpace c then ' ' else c) :: ·)

def expansionDepth : Nat := 1048576

def attributeValue (declared : Declared) (quote : Char) : Nat → Nat → Text → Except Nat (Text × Cursor)
  | 0, line, _ => .error line
  | _ + 1, line, [] => .error line
  | fuel + 1, line, c :: rest =>
    let go (line : Nat) (value : Text) (rest : Text) : Except Nat (Text × Cursor) :=
      (attributeValue declared quote fuel line rest).map fun (more, cursor) => (value ++ more, cursor)
    if c = quote then .ok ([], ⟨line, rest⟩)
    else if c = '<' then .error line
    else if c = '&' then
      match rest with
      | '#' :: digits =>
        match numericReference digits with
        | some (value, after) => go line [value] after
        | none => .error line
      | _ =>
        match namedReference rest with
        | none => .error line
        | some (name, after) =>
          match predefined? name with
          | some value => go line [value] after
          | none =>
            match declared.entities.lookup name with
            | some (some value) =>
              match expand declared expansionDepth value with
              | some inner => go line inner after
              | none => .error line
            | some none => .error line
            | none => if declared.open_ then go line [] after else .error line
    else if c = '\r' then
      match rest with
      | '\n' :: more => go (line + 1) [' '] more
      | _ => go line [' '] rest
    else if c = '\n' then go (line + 1) [' '] rest
    else if c = '\t' then go line [' '] rest
    else if isAllowed c then go line [c] rest
    else .error line

-- Everything up to a closing word, which may not hold forbidden characters; nothing of it is kept.
def skipPast (close : Text) : Nat → Text → Except Nat Cursor
  | line, [] => .error line
  | line, c :: rest =>
    match Text.after? close (c :: rest) with
    | some after => .ok ⟨line, after⟩
    | none => if isAllowed c then skipPast close (if c = '\n' then line + 1 else line) rest else .error line

def skipComment : Nat → Text → Except Nat Cursor
  | line, '-' :: '-' :: rest =>
    match rest with
    | '>' :: after => .ok ⟨line, after⟩
    | _ => .error line
  | line, [] => .error line
  | line, c :: rest => if isAllowed c then skipComment (if c = '\n' then line + 1 else line) rest else .error line

def sectionText : Nat → Text → Except Nat (Text × Cursor)
  | line, ']' :: ']' :: '>' :: rest => .ok ([], ⟨line, rest⟩)
  | line, [] => .error line
  | line, '\r' :: '\n' :: rest => (sectionText (line + 1) rest).map fun (more, cursor) => ('\n' :: more, cursor)
  | line, '\r' :: rest => (sectionText line rest).map fun (more, cursor) => ('\n' :: more, cursor)
  | line, c :: rest =>
    if isAllowed c then
      (sectionText (if c = '\n' then line + 1 else line) rest).map fun (more, cursor) => (c :: more, cursor)
    else .error line

def characters : Nat → Text → Except Nat (Text × Cursor)
  | line, [] => .ok ([], ⟨line, []⟩)
  | line, ']' :: ']' :: '>' :: _ => .error line
  | line, '\r' :: '\n' :: rest => (characters (line + 1) rest).map fun (more, cursor) => ('\n' :: more, cursor)
  | line, '\r' :: rest => (characters line rest).map fun (more, cursor) => ('\n' :: more, cursor)
  | line, c :: rest =>
    if c = '<' || c = '&' then .ok ([], ⟨line, c :: rest⟩)
    else if isAllowed c then
      (characters (if c = '\n' then line + 1 else line) rest).map fun (more, cursor) => (c :: more, cursor)
    else .error line

namespace Scan

def lift (f : Nat → Text → Except Nat Cursor) : Scan Unit := fun cursor =>
  match f cursor.line cursor.rest with
  | .ok after => .ok ((), after)
  | .error line => .error line

def liftText (f : Nat → Text → Except Nat (Text × Cursor)) : Scan Text := fun cursor => f cursor.line cursor.rest

def comment : Scan Unit := do
  need "<!--"
  lift skipComment

-- A processing instruction. Its target holds no colon, and the target that declares a document is kept for that.
def instruction : Scan Unit := do
  need "<?"
  let target ← name
  if target = Text.fixed "xml" || target.contains ':' then stop
  if ← accept "?>" then return ()
  if !(← spaces) then stop
  lift (skipPast "?>")

def around : Nat → Scan Unit
  | 0 => return ()
  | fuel + 1 => do
    let _ ← spaces
    let text ← rest
    if Text.beginsWith "<!--" text then
      comment
      around fuel
    else if Text.beginsWith "<?" text then
      instruction
      around fuel

def quotedUntil : Scan Text := do
  match ← rest with
  | '"' :: more => take '"' more
  | '\'' :: more => take '\'' more
  | _ => stop
where
  take (quote : Char) (more : Text) : Scan Text := do
    let value := more.takeWhile (· != quote)
    if value.length = more.length then
      modify fun cursor => ⟨cursor.line + value.count '\n', []⟩
      stop
    modify fun cursor => ⟨cursor.line + value.count '\n', more.drop (value.length + 1)⟩
    return value

end Scan

open Scan

def entityValue : Nat → Text → Option Text
  | 0, _ => none
  | _ + 1, [] => some []
  | fuel + 1, '&' :: '#' :: rest =>
    (numericReference rest).bind fun (c, after) => (entityValue fuel after).map (c :: ·)
  | fuel + 1, '&' :: rest =>
    (namedReference rest).bind fun (name, after) =>
      (entityValue fuel after).map fun more => '&' :: name ++ ';' :: more
  | _ + 1, '%' :: _ => none
  | fuel + 1, c :: rest => if isAllowed c then (entityValue fuel rest).map (c :: ·) else none

def externalPlace : Scan Bool := do
  if ← accept "SYSTEM" then
    if !(← spaces) then stop
    let _ ← quotedUntil
    return true
  if ← accept "PUBLIC" then
    if !(← spaces) then stop
    let _ ← quotedUntil
    if !(← spaces) then stop
    let _ ← quotedUntil
    return true
  return false

def entityDeclaration (declared : Declared) : Scan Declared := do
  if !(← spaces) then stop
  let parameter ← accept "%"
  if parameter then
    if !(← spaces) then stop
  let name ← name
  if name.contains ':' then stop
  if !(← spaces) then stop
  let value ← (do
    if ← externalPlace then
      if ← spaces then
        if ← accept "NDATA" then
          if !(← spaces) then stop
          let _ ← Scan.name
      return none
    let literal ← quotedUntil
    match entityValue (literal.length + 1) literal with
    | some value => return some value
    | none => stop)
  let _ ← spaces
  need ">"
  if parameter || declared.entities.any (·.1 == name) then return declared
  return { declared with entities := declared.entities ++ [(name, value)] }

-- A declaration that is passed over: up to its closing mark, with quoted parts as wholes.
def passOver : Nat → Scan Unit
  | 0 => stop
  | fuel + 1 => do
    match ← rest with
    | [] => stop
    | '>' :: _ => skip 1
    | '"' :: _ => do
      let _ ← quotedUntil
      passOver fuel
    | '\'' :: _ => do
      let _ ← quotedUntil
      passOver fuel
    | '\n' :: more => do
      modify fun cursor => ⟨cursor.line + 1, more⟩
      passOver fuel
    | _ => do
      skip 1
      passOver fuel

def internalSubset : Nat → Declared → Scan Declared
  | 0, _ => stop
  | fuel + 1, declared => do
    let _ ← spaces
    let text ← rest
    if ← accept "]" then return declared
    if ← accept "%" then
      let _ ← name
      need ";"
      internalSubset fuel { declared with open_ := true }
    else if Text.beginsWith "<!--" text then
      comment
      internalSubset fuel declared
    else if Text.beginsWith "<?" text then
      instruction
      internalSubset fuel declared
    else if ← accept "<!ENTITY" then internalSubset fuel (← entityDeclaration declared)
    else if (← accept "<!ELEMENT") || (← accept "<!ATTLIST") || (← accept "<!NOTATION") then
      if !(← spaces) then stop
      passOver text.length
      internalSubset fuel declared
    else stop

def documentType : Scan Declared := do
  let nothing : Declared := ⟨[], false⟩
  if !(← accept "<!DOCTYPE") then return nothing
  if !(← spaces) then stop
  let _ ← name
  let _ ← spaces
  let outside ← externalPlace
  let _ ← spaces
  let declared := { nothing with open_ := outside }
  let declared ← (do
    if ← accept "[" then
      let declared ← internalSubset ((← rest).length + 1) declared
      let _ ← spaces
      return declared
    return declared)
  need ">"
  return declared

def xmlSpace : Text := "http://www.w3.org/XML/1998/namespace"
def xmlnsSpace : Text := "http://www.w3.org/2000/xmlns/"

def writtenAttributes (declared : Declared) : Nat → Scan (List (Qualified × Text))
  | 0 => stop
  | fuel + 1 => do
    let text ← rest
    if Text.beginsWith ">" text || Text.beginsWith "/>" text then return []
    match Qualified.ofText? (← name) with
    | none => stop
    | some key => do
      let _ ← spaces
      need "="
      let _ ← spaces
      let value ← (do
        match ← rest with
        | '"' :: more => do
          skip 1
          liftText (attributeValue declared '"' (more.length + 1))
        | '\'' :: more => do
          skip 1
          liftText (attributeValue declared '\'' (more.length + 1))
        | _ => stop)
      let spaced ← spaces
      let text ← rest
      if !spaced && !(Text.beginsWith ">" text || Text.beginsWith "/>" text) then stop
      return (key, value) :: (← writtenAttributes declared fuel)

def binding? (key : Qualified) : Option Text :=
  if key.space = some (Text.fixed "xmlns") then some key.own
  else if key.space.isNone && key.own = Text.fixed "xmlns" then some []
  else none

def mayBind (space value : Text) : Bool :=
  if space = Text.fixed "xml" then value == xmlSpace
  else if space = Text.fixed "xmlns" then false
  else value != xmlSpace && value != xmlnsSpace && (space.isEmpty || !value.isEmpty)

-- The key of an attribute in the tree, if its space is bound.
def resolvedKey (bindings : List (Text × Text)) (key : Qualified) : Option Text :=
  match key.space with
  | none => some key.own
  | some space =>
    if space = Text.fixed "xml" then some ('{' :: xmlSpace ++ '}' :: key.own)
    else (bindings.lookup space).map fun value => '{' :: value ++ '}' :: key.own

structure Frame where
  tag : Qualified
  attributes : List (Text × Text)
  line : Nat
  bindings : List (Text × Text)
  content : List Node

namespace Frame

def element (frame : Frame) : Element := .mk frame.tag.own frame.attributes frame.line frame.content.reverse

def push (frame : Frame) (node : Node) : Frame := { frame with content := node :: frame.content }

def pushText (frame : Frame) (value : Text) : Frame :=
  if value.isEmpty then frame
  else match frame.content with
    | .text before :: more => { frame with content := .text (before ++ value) :: more }
    | _ => frame.push (.text value)

end Frame

-- A start tag after its opening mark, and whether it is an element by itself. Names are resolved, and repeated
-- attributes found, where the tag ends.
def startTag (declared : Declared) (outer : List (Text × Text)) : Scan (Frame × Bool) := do
  match Qualified.ofText? (← name) with
  | none => stop
  | some tag => do
    let spaced ← spaces
    let text ← rest
    if !spaced && !(Text.beginsWith ">" text || Text.beginsWith "/>" text) then stop
    let written ← writtenAttributes declared (text.length + 1)
    let line := (← get).line
    let bound := written.filterMap fun (key, value) => (binding? key).map fun space => (space, value)
    let bindings := bound ++ outer
    let plain := written.filter fun (key, _) => (binding? key).isNone
    if !(written.map (·.1)).Nodup || bound.any (fun (space, value) => !mayBind space value) then stop
    match plain.mapM (fun (key, value) => (resolvedKey bindings key).map fun key => (key, value)) with
    | none => stop
    | some attributes => do
      if !(attributes.map (·.1)).Nodup then stop
      if tag.space.isSome && tag.space != some (Text.fixed "xml") && (resolvedKey bindings tag).isNone then stop
      let empty ← accept "/>"
      if !empty then need ">"
      return (⟨tag, attributes, line, bindings, []⟩, empty)

-- The element that the innermost frame belongs to: content is read until the end tag of the outermost one.
def content (declared : Declared) : Nat → Frame → List Frame → Scan Element
  | 0, _, _ => stop
  | fuel + 1, frame, outer => do
    match ← rest with
    | [] => stop
    | '<' :: '/' :: _ => do
      skip 2
      let tag ← rest
      let same := Text.beginsWith frame.tag.full tag &&
        !((tag.drop frame.tag.full.length).headD ' ' |> continuesName)
      skip (tag.takeWhile continuesName).length
      let _ ← spaces
      need ">"
      if !same then stop
      match outer with
      | [] => return frame.element
      | parent :: outer => content declared fuel (parent.push (.element frame.element)) outer
    | '<' :: '!' :: '-' :: '-' :: _ => do
      comment
      content declared fuel frame outer
    | '<' :: '!' :: _ => do
      need "<![CDATA["
      let text ← liftText sectionText
      content declared fuel (frame.pushText text) outer
    | '<' :: '?' :: _ => do
      instruction
      content declared fuel (frame.push .instruction) outer
    | '<' :: _ => do
      skip 1
      let (inner, empty) ← startTag declared frame.bindings
      if empty then content declared fuel (frame.push (.element inner.element)) outer
      else content declared fuel inner (frame :: outer)
    | '&' :: '#' :: more =>
      match numericReference more with
      | none => stop
      | some (c, after) => do
        modify fun cursor => { cursor with rest := after }
        content declared fuel (frame.pushText [c]) outer
    | '&' :: more =>
      match namedReference more with
      | none => stop
      | some (name, after) => do
        modify fun cursor => { cursor with rest := after }
        match predefined? name with
        | some c => content declared fuel (frame.pushText [c]) outer
        | none =>
          if declared.open_ || (declared.entities.lookup name).isSome then
            content declared fuel (frame.push (.reference name)) outer
          else stop
    | _ => do
      let text ← liftText characters
      content declared fuel (frame.pushText text) outer

def declarationItem (key : Text) : Scan (Option Text) := do
  if ← accept key then
    let _ ← spaces
    need "="
    let _ ← spaces
    return some (← quotedUntil)
  return none

def isEncodingName (name : Text) : Bool :=
  match name with
  | [] => false
  | c :: rest => c.isAlpha && rest.all fun c => c.isAlphanum || c = '.' || c = '_' || c = '-'

def declaration (marked : Bool) : Scan Unit := do
  let text ← rest
  let begins := match Text.after? "<?xml" text with
    | some (c :: _) => isSpace c
    | _ => false
  if begins then
    skip 5
    let _ ← spaces
    match ← declarationItem "version" with
    | none => stop
    | some version => if !Text.beginsWith "1." version then stop
    let spaced ← spaces
    let named ← (do
      if spaced then declarationItem "encoding" else return none)
    match named with
    | none => pure ()
    | some name =>
      if !isEncodingName name then stop
      match Encoding.ofName? name with
      | none => stop
      | some encoding => if !marked then modify fun cursor => { cursor with rest := encoding.reread cursor.rest }
    let spaced ← (do if named.isSome then spaces else return spaced)
    let standalone ← (do
      if spaced then declarationItem "standalone" else return none)
    match standalone with
    | none => pure ()
    | some value => if value != Text.fixed "yes" && value != Text.fixed "no" then stop
    let _ ← spaces
    need "?>"

def byteOrderMark : Char := Char.ofNat 0xfeff

def document : Scan Element := do
  let text ← rest
  let marked := text.head? = some byteOrderMark
  if marked then skip 1
  declaration marked
  around text.length
  let declared ← documentType
  around text.length
  need "<"
  let (root, empty) ← startTag declared []
  let element ← if empty then pure root.element else content declared (text.length + 1) root []
  around text.length
  if !(← rest).isEmpty then stop
  return element

def read (text : Text) : Except Nat Element :=
  match document ⟨1, text⟩ with
  | .ok (element, _) => .ok element
  | .error line => .error line

end Statewright.Markup
