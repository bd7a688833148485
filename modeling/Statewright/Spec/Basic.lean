import Statewright.Text.Blank

/-!
Specifications of state machines. A deterministic machine gives each state its own methods, some of which lead to
another state. An event-driven machine reacts to events by its current state. Both kinds share states with data
fields, traits that their state values satisfy, and code texts that are carried along unread.
-/
set_option autoImplicit false

namespace Statewright

inductive Kind where
  | deterministic
  | eventDriven
deriving DecidableEq

structure Field where
  name : Text
  type : Text := []
  default : Option Text := none
  factory : Option Text := none
  line : Nat := 0
deriving DecidableEq

-- A method of a trait, or what a state or event puts in its place. A list of parameters, and whether the method is
-- asynchronous, may be left to be resolved. A `generated` method was added for a hook nobody declared.
structure Method where
  name : Text
  params : Option Text := none
  returns : Text := []
  body : Text := []
  isAsync : Option Bool := none
  generated : Bool := false
  line : Nat := 0
deriving DecidableEq

structure Trait where
  name : Text
  bases : List Text := []
  methods : List Method := []
  line : Nat := 0
deriving DecidableEq

-- What a state does on a trigger: the name of a method or of an event. Without a target a deterministic method
-- changes the context in place; with a target and no body the target is made from its defaults.
structure Transition where
  source : Text
  trigger : Text
  target : Option Text := none
  body : Text := []
  params : Text := []
  line : Nat := 0
deriving DecidableEq

structure State where
  name : Text
  fields : List Field := []
  impls : List Method := []
  transitions : List Transition := []
  line : Nat := 0
deriving DecidableEq

-- An event; an `inline` one is only referred to by transitions.
structure Event where
  name : Text
  fields : List Field := []
  impls : List Method := []
  inline : Bool := false
  line : Nat := 0
deriving DecidableEq

structure Enumeration where
  name : Text
  attributes : List Text := []
  line : Nat := 0
deriving DecidableEq

structure CatchAll where
  body : Text
  line : Nat := 0
deriving DecidableEq

structure Spec where
  kind : Kind
  name : Text
  visibility : Text := "public"
  attributes : List Text := []
  isAsync : Bool := false
  context : Text := []
  prelude : Text := []
  stateTrait : Option Trait := none
  states : List State := []
  stateEnum : Option Enumeration := none
  eventEnum : Option Enumeration := none
  eventTrait : Option Trait := none
  declaredEvents : List Event := []
  catchAlls : List CatchAll := []
  source : Option Text := none
  line : Nat := 0
deriving DecidableEq

namespace Field

def hasDefault (field : Field) : Bool := field.default.isSome || field.factory.isSome

end Field

namespace Method

def isAbstract (method : Method) : Bool := Text.blank method.body

end Method

namespace Trait

def method? (trait_ : Trait) (name : Text) : Option Method := trait_.methods.find? (·.name == name)

end Trait

namespace Transition

def isMutator (transition : Transition) : Bool := transition.target.isNone

def isShorthand (transition : Transition) : Bool := transition.target.isSome && Text.blank transition.body

end Transition

namespace State

def impl? (state : State) (name : Text) : Option Method := state.impls.find? (·.name == name)

def isDefaultConstructible (state : State) : Bool := state.fields.all (·.hasDefault)

end State

namespace Event

def impl? (event : Event) (name : Text) : Option Method := event.impls.find? (·.name == name)

end Event

namespace Spec

def isEventDriven (spec : Spec) : Bool := spec.kind = .eventDriven

def isPublic (spec : Spec) : Bool := spec.visibility == "public"

def catchAll? (spec : Spec) : Option CatchAll := spec.catchAlls.head?

def state? (spec : Spec) (name : Text) : Option State := spec.states.find? (·.name == name)

def transitions (spec : Spec) : List Transition := spec.states.flatMap (·.transitions)

end Spec

end Statewright
