import Statewright.Spec.Basic

/-!
What can be wrong with a well-formed specification, each with its wording. The wording of code mistakes is no part
of this library; a mark stands for it.
-/
set_option autoImplicit false

namespace Statewright

inductive Role where
  | reserved
  | machine
  | state
  | machineClass (state : Text)
  | stateTrait
  | eventTrait
  | stateEnum
  | eventEnum
deriving DecidableEq

namespace Role

def text : Role → Text
  | reserved => "a name reserved by the generated module"
  | machine => "machine"
  | state => "state"
  | machineClass owner => "machine class for state '" ++ owner ++ "'"
  | stateTrait => "state trait"
  | eventTrait => "event trait"
  | stateEnum => "state enum"
  | eventEnum => "event enum"

end Role

inductive Breach where
  | invalidName (role : Role)
  | invalidContext
  | noStates
  | clash (role other : Role)
  | duplicateState
  | invalidField
  | duplicateEvent
  | invalidMethod
  | duplicateMethod
  | reservedMethod
  | unknownDestination (target : Text)
  | destinationNeedsValues (target : Text)
  | reservedParam (name : Text)
  | invalidEvent
  | eventClash
  | repeatedPair
  | unknownTarget (target : Text)
  | targetNeedsValues (target : Text)
  | severalCatchAlls
  | noEvents
  | implWithoutTrait
  | invalidBase
  | duplicateTraitMethod
  | reservedByEnumerations
  | asyncMethod
  | hookParams (params : Text)
  | hookContext (context : Text)
  | hookReturns (returns : Text)
  | fieldClash
  | unknownTraitMethod (method owner : Text)
  | duplicateImpl
  | wrongManner (isAsync : Bool)
  | missingImpl (method owner : Text)
  | duplicateField
  | fieldOrder
  | badParams (params : Text)
  | badCode (code : Text)
  | badBody
deriving DecidableEq

namespace Breach

def mark : Text := "<python>"

def text : Breach → Text
  | invalidName role => role.text ++ " name is not a valid identifier"
  | invalidContext => "context is not a valid (dotted) type name"
  | noStates => "machine declares no states"
  | clash role other => "duplicate name: " ++ role.text ++ " clashes with " ++ other.text
  | duplicateState => "duplicate state name"
  | invalidField => "field name is not a valid identifier"
  | duplicateEvent => "duplicate event name"
  | invalidMethod => "method name is not a valid identifier"
  | duplicateMethod => "method defined twice in the same state"
  | reservedMethod => "method name is reserved by the generated machine"
  | unknownDestination target => "destination state '" ++ target ++ "' is not declared"
  | destinationNeedsValues target =>
    "destination state '" ++ target ++
      "' cannot be default-constructed (give every field a default, or write a method body)"
  | reservedParam name => "parameter name '" ++ name ++ "' is reserved for the method body"
  | invalidEvent => "event name is not a valid identifier"
  | eventClash => "event name clashes with another generated name"
  | repeatedPair => "transition defined twice for the same (state, event) pair"
  | unknownTarget target => "target state '" ++ target ++ "' is not declared"
  | targetNeedsValues target =>
    "target state '" ++ target ++
      "' cannot be default-constructed (give every field a default, or write a transition body)"
  | severalCatchAlls => "multiple catch-all transitions"
  | noEvents => "event-driven machine declares no events"
  | implWithoutTrait => "trait method implemented but no state_trait is declared"
  | invalidBase => "trait base is not a valid (dotted) name"
  | duplicateTraitMethod => "method declared twice in trait"
  | reservedByEnumerations => "method name is reserved by the generated enumerations"
  | asyncMethod => "asynchronous method in a machine without the async marker"
  | hookParams params => "lifecycle hook must accept (" ++ params ++ ")"
  | hookContext context => "first parameter must be annotated with the context type '" ++ context ++ "'"
  | hookReturns returns => "lifecycle hook must return " ++ returns
  | fieldClash => "field name clashes with a trait method"
  | unknownTraitMethod method owner => "'" ++ method ++ "' is not a method of trait '" ++ owner ++ "'"
  | duplicateImpl => "trait method implemented twice"
  | wrongManner isAsync =>
    "implementation must be " ++ (if isAsync then ("asynchronous" : Text) else "synchronous") ++
      " like the trait declaration"
  | missingImpl method owner =>
    "required trait method '" ++ method ++ "' of '" ++ owner ++ "' is neither implemented nor given a default body"
  | duplicateField => "field declared twice"
  | fieldOrder => "field without default follows a field with a default"
  | badParams params => "invalid parameter list '" ++ params ++ "': " ++ mark
  | badCode code => "invalid Python '" ++ (Text.strip code).take 40 ++ "': " ++ mark
  | badBody => "invalid Python in body: " ++ mark

end Breach

def elementMessage (text : Text) (element : Option Text) (line : Option Int) : Text :=
  let text := match element with
    | some element => if element.isEmpty then text else element ++ ": " ++ text
    | none => text
  match line with
  | some line => if line = 0 then text else "line " ++ Text.signed line ++ ": " ++ text
  | none => text

structure Violation where
  breach : Breach
  element : Text
  line : Nat
deriving DecidableEq

namespace Violation

def message (violation : Violation) : Text :=
  elementMessage violation.breach.text (some violation.element) (some violation.line)

end Violation

-- Why a specification is not accepted: a violation or, for one that no document describes, an event-driven machine
-- without its enumerations.
inductive Rejection where
  | violation (value : Violation)
  | noEnumeration
deriving DecidableEq

abbrev Check := Except Rejection

def violate {α : Type} (breach : Breach) (element : Text) (line : Nat) : Check α :=
  .error (.violation ⟨breach, element, line⟩)

def ensure (condition : Bool) (breach : Breach) (element : Text) (line : Nat) : Check Unit :=
  if condition then .ok () else violate breach element line

end Statewright
