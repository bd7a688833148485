import Statewright.Text.Basic

/-!
What can be wrong with the shape of a specification, each with its wording and what was expected instead. The
wording of the markup reader itself is no part of this library; a mark stands for it.
-/
set_option autoImplicit false

namespace Statewright

inductive Flaw where
  | malformed
  | unknownRoot (tag : Text)
  | unknownAttribute (key owner : Text) (allowed : List Text)
  | missingAttribute (key owner meaning : Text)
  | badVisibility (value : Text)
  | asyncDeterministic
  | eventDrivenOnly (field : Text)
  | unknownField (field : Text) (allowed : List Text)
  | repeatedField (field : Text)
  | missingField (machine field : Text)
  | emptyDecorator
  | strayInTrait (tag owner : Text)
  | strayInEnumeration (tag owner : Text)
  | strayInStates (tag : Text) (eventDriven : Bool)
  | strayInState (tag owner transition : Text)
  | strayInEvents (tag : Text)
  | strayInEvent (tag owner : Text)
  | strayInCode (tag owner : Text)
  | emptyImpl (name : Text)
  | emptyCatchAll
  | targetAndBody (event : Option Text) (state : Text)
  | neitherTargetNorBody (event : Option Text) (state : Text)
  | defaultAndFactory (field : Text)
  | badFlag (value key : Text)
deriving DecidableEq

namespace Flaw

def tag (name : Text) : Text := '<' :: name ++ ['>']

def quote (text : Text) : Text := '\'' :: text ++ ['\'']

def orNone : Option Text → Text
  | some text => text
  | none => "None"

def text : Flaw → Text
  | malformed => "malformed specification: <xml>"
  | unknownRoot name => "unknown specification root " ++ tag name
  | unknownAttribute key owner _ => "unknown attribute " ++ quote key ++ " on " ++ tag owner
  | missingAttribute key owner _ => tag owner ++ " is missing " ++ quote key
  | badVisibility value => "invalid visibility " ++ quote value
  | asyncDeterministic => "async marker is only valid for event-driven machines"
  | eventDrivenOnly field => tag field ++ " is only valid for event-driven machines"
  | unknownField field _ => "unrecognized field " ++ tag field
  | repeatedField field => "duplicate " ++ tag field ++ " field"
  | missingField machine field => "machine " ++ quote machine ++ " is missing " ++ tag field
  | emptyDecorator => "empty <attribute>"
  | strayInTrait name owner => "unexpected " ++ tag name ++ " in trait " ++ quote owner
  | strayInEnumeration name owner => "unexpected " ++ tag name ++ " in " ++ tag owner
  | strayInStates name _ => "unexpected " ++ tag name ++ " in <states>"
  | strayInState name owner _ => "unexpected " ++ tag name ++ " in state " ++ quote owner
  | strayInEvents name => "unexpected " ++ tag name ++ " in <events>"
  | strayInEvent name owner => "unexpected " ++ tag name ++ " in event " ++ quote owner
  | strayInCode name owner => "unexpected " ++ tag name ++ " inside " ++ tag owner
  | emptyImpl name => "<impl name=\"" ++ name ++ "\"> has no body"
  | emptyCatchAll => "empty <catch_all>"
  | targetAndBody event state =>
    "transition on " ++ quote (orNone event) ++ " in state " ++ quote state ++ " has both a target and a body"
  | neitherTargetNorBody event state =>
    "transition on " ++ quote (orNone event) ++ " in state " ++ quote state ++ " has no target"
  | defaultAndFactory field => "field " ++ quote field ++ " has both default and factory"
  | badFlag value key => "invalid value " ++ quote value ++ " for " ++ quote key

def expected? : Flaw → Option Text
  | malformed => none
  | unknownRoot _ => some "<deterministic_state_machine> or <event_driven_state_machine>"
  | unknownAttribute _ _ [] => some "no attributes"
  | unknownAttribute _ _ allowed => some (Text.join ", " allowed)
  | missingAttribute _ _ meaning => some meaning
  | badVisibility _ => some "public or private"
  | asyncDeterministic => none
  | eventDrivenOnly _ => none
  | unknownField _ allowed => some ("one of " ++ Text.join ", " (allowed.map tag))
  | repeatedField _ => none
  | missingField _ field => some (tag field ++ " field")
  | emptyDecorator => some "decorator expression"
  | strayInTrait _ _ => some "<method>"
  | strayInEnumeration _ _ => some "<attribute>"
  | strayInStates _ eventDriven => some (if eventDriven then "<state> or <catch_all>" else "<state>")
  | strayInState _ _ transition => some ("<field>, <impl> or " ++ tag transition)
  | strayInEvents _ => some "<event>"
  | strayInEvent _ _ => some "<field> or <impl>"
  | strayInCode _ _ => some "code text"
  | emptyImpl _ => some "method body"
  | emptyCatchAll => some "catch-all transition body"
  | targetAndBody _ _ => some "either target attribute or body"
  | neitherTargetNorBody _ _ => some "target attribute or body"
  | defaultAndFactory _ => some "default or factory"
  | badFlag _ _ => some "true or false"

end Flaw

def shapeMessage (text : Text) (line : Option Int) (expected : Option Text) : Text :=
  let text := match expected with
    | some wanted => if wanted.isEmpty then text else text ++ " (expected " ++ wanted ++ ")"
    | none => text
  match line with
  | some line => "line " ++ Text.signed line ++ ": " ++ text
  | none => text

structure Misshape where
  flaw : Flaw
  line : Nat
deriving DecidableEq

namespace Misshape

def message (misshape : Misshape) : Text :=
  shapeMessage misshape.flaw.text (some misshape.line) misshape.flaw.expected?

end Misshape

end Statewright
