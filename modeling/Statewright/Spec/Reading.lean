import Statewright.Markup.Reader
import Statewright.Spec.Flaw
import Statewright.Spec.Traits
import Statewright.Text.Block

/-!
Reading specifications. Only the shape of the document is checked here: which elements stand where, which
attributes they carry, and that code stands where code is wanted. A reader holds the specification that it is
filling; when a flaw stops it, what it holds stays as far as it got.
-/
set_option autoImplicit false

namespace Statewright.Reading

open Markup (Element)

abbrev Shape := Except Misshape

def flawed {α : Type} (flaw : Flaw) (line : Nat) : Shape α := .error ⟨flaw, line⟩

def checkAttributes (element : Element) (allowed : List Text) : Shape Unit :=
  match element.attributes.find? fun (key, _) => !allowed.contains key with
  | some (key, _) => flawed (.unknownAttribute key element.name allowed) element.line
  | none => .ok ()

def require (element : Element) (key meaning : Text) : Shape Text :=
  match element.attribute? key with
  | some value =>
    if Text.blank value then flawed (.missingAttribute key element.name meaning) element.line
    else .ok (Text.strip value)
  | none => flawed (.missingAttribute key element.name meaning) element.line

def noChildren (element : Element) : Shape Unit :=
  match element.children with
  | child :: _ => flawed (.strayInCode child.name element.name) child.line
  | [] => .ok ()

def flag (element : Element) (key : Text) : Shape (Option Bool) :=
  match element.attribute? key with
  | none => .ok none
  | some value =>
    if value == "true" then .ok (some true)
    else if value == "false" then .ok (some false)
    else flawed (.badFlag value key) element.line

def body (element : Element) : Text := Text.Block.extract element.leadingText

def decorator (element : Element) : Shape Text := do
  noChildren element
  match Text.strip element.leadingText with
  | [] => flawed .emptyDecorator element.line
  | '@' :: rest => return Text.strip rest
  | text => return text

def traitMethod (element : Element) : Shape Method := do
  checkAttributes element ["name", "params", "returns", "async"]
  noChildren element
  let name ← require element "name" "method name"
  let isAsync ← flag element "async"
  return { name, params := element.attribute? "params", returns := (element.attribute? "returns").getD []
           body := body element, isAsync, line := element.line }

def baseNames (text : Text) : List Text :=
  ((Text.splitAt ',' text).map Text.strip).filter (!·.isEmpty)

def trait_ (element : Element) : Shape Trait := do
  checkAttributes element ["name", "bases"]
  let name ← require element "name" "trait name"
  let methods ← element.children.mapM fun (child : Element) =>
    if child.name == "method" then traitMethod child
    else flawed (.strayInTrait child.name name) child.line
  return { name, bases := baseNames ((element.attribute? "bases").getD []), methods, line := element.line }

def impl (element : Element) : Shape Method := do
  checkAttributes element ["name", "async"]
  noChildren element
  let name ← require element "name" "trait method name"
  let isAsync ← flag element "async"
  let method : Method := { name, body := body element, isAsync, line := element.line }
  if method.isAbstract then flawed (.emptyImpl name) element.line
  return method

def enumeration (element : Element) : Shape Enumeration := do
  checkAttributes element ["name"]
  let name ← require element "name" "enumeration name"
  let attributes ← element.children.mapM fun (child : Element) =>
    if child.name == "attribute" then decorator child
    else flawed (.strayInEnumeration child.name element.name) child.line
  return { name, attributes, line := element.line }

def field (element : Element) : Shape Field := do
  checkAttributes element ["name", "type", "default", "factory"]
  noChildren element
  let name ← require element "name" "field name"
  let field : Field :=
    { name, type := (element.attribute? "type").getD [], default := element.attribute? "default"
      factory := element.attribute? "factory", line := element.line }
  if field.default.isSome && field.factory.isSome then flawed (.defaultAndFactory name) element.line
  return field

def stateMethod (state : Text) (element : Element) : Shape Transition := do
  checkAttributes element ["name", "target", "params"]
  noChildren element
  let trigger ← require element "name" "method name"
  return { source := state, trigger, target := element.attribute? "target"
           params := (element.attribute? "params").getD [], body := body element, line := element.line }

def reaction (state : Text) (element : Element) : Shape Transition := do
  checkAttributes element ["event", "target"]
  noChildren element
  let target := element.attribute? "target"
  let body := body element
  let event := element.attribute? "event"
  if target.isSome && !Text.blank body then flawed (.targetAndBody event state) element.line
  if target.isNone && Text.blank body then flawed (.neitherTargetNorBody event state) element.line
  let trigger ← require element "event" "event name"
  return { source := state, trigger, target, body, line := element.line }

def transitionTag : Kind → Text
  | .deterministic => "method"
  | .eventDriven => "on"

def statePart (kind : Kind) (state : State) (child : Element) : Shape State := do
  if child.name == "field" then
    return { state with fields := state.fields ++ [← field child] }
  if child.name == "impl" then
    return { state with impls := state.impls ++ [← impl child] }
  if child.name == transitionTag kind then
    let transition ← match kind with
      | .deterministic => stateMethod state.name child
      | .eventDriven => reaction state.name child
    return { state with transitions := state.transitions ++ [transition] }
  flawed (.strayInState child.name state.name (transitionTag kind)) child.line

def state (kind : Kind) (element : Element) : Shape State := do
  checkAttributes element ["name"]
  let name ← require element "name" "state name"
  element.children.foldlM (statePart kind) { name, line := element.line }

def catchAll (element : Element) : Shape CatchAll := do
  checkAttributes element []
  noChildren element
  let text := body element
  if Text.blank text then flawed .emptyCatchAll element.line
  return { body := text, line := element.line }

def eventPart (event : Event) (child : Element) : Shape Event := do
  if child.name == "field" then
    return { event with fields := event.fields ++ [← field child] }
  if child.name == "impl" then
    return { event with impls := event.impls ++ [← impl child] }
  flawed (.strayInEvent child.name event.name) child.line

def event (element : Element) : Shape Event := do
  if element.name != "event" then flawed (.strayInEvents element.name) element.line
  checkAttributes element ["name"]
  let name ← require element "name" "event name"
  element.children.foldlM eventPart { name, line := element.line }

-- Filling acts on the specification that is held, and keeps what it did before a flaw.
abbrev Filling := ExceptT Misshape (StateM Spec)

def Filling.shape {α : Type} (value : Shape α) : Filling α := ExceptT.mk (pure value)

open Filling (shape)

def fillStates (element : Element) : Filling Unit := do
  shape (checkAttributes element [])
  for child in element.children do
    let spec ← get
    if child.name == "state" then
      let one ← shape (state spec.kind child)
      modify fun spec => { spec with states := spec.states ++ [one] }
    else if child.name == "catch_all" && spec.isEventDriven then
      let one ← shape (catchAll child)
      modify fun spec => { spec with catchAlls := spec.catchAlls ++ [one] }
    else shape (flawed (.strayInStates child.name spec.isEventDriven) child.line)

def fillEvents (element : Element) : Filling Unit := do
  shape (checkAttributes element [])
  for child in element.children do
    let one ← shape (event child)
    modify fun spec => { spec with declaredEvents := spec.declaredEvents ++ [one] }

def commonFields : List Text := ["attribute", "prelude", "context", "state_trait", "states"]
def eventDrivenFields : List Text := ["state_enum", "event_enum", "event_trait", "events"]

def allowedFields : Kind → List Text
  | .deterministic => commonFields
  | .eventDriven => commonFields ++ eventDrivenFields

def requiredFields : Kind → List Text
  | .deterministic => ["context", "states"]
  | .eventDriven => ["context", "states", "state_enum", "event_enum"]

def fillField (element : Element) : Filling Unit := do
  let label := element.name
  if label == "attribute" then
    let one ← shape (decorator element)
    modify fun spec => { spec with attributes := spec.attributes ++ [one] }
  else if label == "prelude" then
    shape (noChildren element)
    modify fun spec => { spec with prelude := body element }
  else if label == "context" then
    shape (checkAttributes element ["type"])
    let type ← shape (require element "type" "context type name")
    modify fun spec => { spec with context := type }
  else if label == "state_trait" then
    let one ← shape (trait_ element)
    modify fun spec => { spec with stateTrait := some one }
  else if label == "event_trait" then
    let one ← shape (trait_ element)
    modify fun spec => { spec with eventTrait := some one }
  else if label == "state_enum" then
    let one ← shape (enumeration element)
    modify fun spec => { spec with stateEnum := some one }
  else if label == "event_enum" then
    let one ← shape (enumeration element)
    modify fun spec => { spec with eventEnum := some one }
  else if label == "states" then fillStates element
  else fillEvents element

-- The fields of a machine in any order, each of them at most once, attributes apart.
def fillFields (kind : Kind) : (seen : List Text) → List Element → Filling (List Text)
  | seen, [] => return seen
  | seen, element :: rest => do
    let label := element.name
    if !(allowedFields kind).contains label then
      if eventDrivenFields.contains label then shape (flawed (.eventDrivenOnly label) element.line)
      else shape (flawed (.unknownField label (allowedFields kind)) element.line)
    let again := label != "attribute" && seen.contains label
    if again then shape (flawed (.repeatedField label) element.line)
    fillField element
    fillFields kind (label :: seen) rest

def fill (root : Element) : Filling Unit := do
  let kind := (← get).kind
  let seen ← fillFields kind [] root.children
  match (requiredFields kind).find? fun label => !seen.contains label with
  | some label => shape (flawed (.missingField (← get).name label) root.line)
  | none => return ()

def kindOfTag? (tag : Text) : Option Kind :=
  if tag == "deterministic_state_machine" then some .deterministic
  else if tag == "event_driven_state_machine" then some .eventDriven
  else none

def begin (source : Option Text) (root : Element) : Shape Spec := do
  match kindOfTag? root.name with
  | none => flawed (.unknownRoot root.name) root.line
  | some kind => do
    checkAttributes root ["name", "visibility", "async"]
    let name ← require root "name" "machine name"
    let visibility := (root.attribute? "visibility").getD "public"
    if visibility != "public" && visibility != "private" then flawed (.badVisibility visibility) root.line
    let isAsync := (← flag root "async").getD false
    if isAsync && kind = .deterministic then flawed .asyncDeterministic root.line
    return { kind, name, visibility, isAsync, source, line := root.line }

end Reading

structure SpecReader where
  held : Option Spec := none
  source : Option Text := none

namespace SpecReader

open Reading

def readElement (reader : SpecReader) (root : Markup.Element) : Except Misshape Spec × SpecReader :=
  match begin reader.source root with
  | .error misshape => (.error misshape, reader)
  | .ok empty =>
    let (outcome, spec) := (fill root).run.run empty
    (outcome.map fun () => spec, { reader with held := some spec })

def read (reader : SpecReader) (text : Text) (source : Option Text) : Except Misshape Spec × SpecReader :=
  let reader := { reader with source }
  match Markup.read text with
  | .error line => (.error ⟨.malformed, line⟩, reader)
  | .ok root => reader.readElement root

end SpecReader

def Spec.read (text : Text) (source : Option Text) : Except Misshape Spec :=
  (({} : SpecReader).read text source).1

end Statewright
