import Statewright.Spec.Basic

/-!
Traits of state and event values, and their methods once everything left open is decided. An event-driven machine
calls five hooks while it dispatches; a hook that its trait does not declare is added with a body that lets the
transition pass. Declared hooks are asynchronous as the machine is unless they say otherwise, other methods are
not.
-/
set_option autoImplicit false

namespace Statewright

inductive Side where
  | state
  | event
deriving DecidableEq

namespace Side

def label : Side → Text
  | state => "State"
  | event => "Event"

end Side

structure Hook where
  name : Text
  params : List Text
  returns : Text
  body : Text
deriving DecidableEq

namespace Hook

def preTransition : Hook := ⟨"pre_transition", ["context"], "None", "pass"⟩
def postTransition : Hook := ⟨"post_transition", ["context"], "None", "pass"⟩
def onEnter : Hook := ⟨"on_enter", ["context"], "None", "pass"⟩
def onExit : Hook := ⟨"on_exit", ["context"], "None", "pass"⟩
def shouldExit : Hook := ⟨"should_exit", ["context", "event"], "bool", "return True"⟩

def ofSide : Side → List Hook
  | .state => [onEnter, onExit, shouldExit]
  | .event => [preTransition, postTransition]

def paramText (hook : Hook) : Text := Text.join ", " hook.params

end Hook

structure Resolved where
  name : Text
  params : Text
  returns : Text
  body : Text
  isAsync : Bool
  generated : Bool
  line : Nat
deriving DecidableEq

namespace Resolved

def isAbstract (method : Resolved) : Bool := Text.blank method.body

end Resolved

namespace Spec

def declaredTrait (spec : Spec) : Side → Option Trait
  | .state => spec.stateTrait
  | .event => spec.eventTrait

-- The name of a trait; an event-driven machine has both, declared or not.
def traitName? (spec : Spec) (side : Side) : Option Text :=
  match spec.declaredTrait side with
  | some declared => some declared.name
  | none => if spec.isEventDriven then some (spec.name ++ side.label ++ "Trait") else none

def hooks (spec : Spec) (side : Side) : List Hook := if spec.isEventDriven then Hook.ofSide side else []

def resolve (spec : Spec) (side : Side) (method : Method) : Resolved :=
  let hook := (spec.hooks side).find? (·.name == method.name)
  { name := method.name
    params := method.params.getD ((hook.map Hook.paramText).getD [])
    returns := method.returns
    body := method.body
    isAsync := method.isAsync.getD (hook.isSome && spec.isAsync)
    generated := method.generated
    line := method.line }

def generate (spec : Spec) (hook : Hook) : Resolved :=
  { name := hook.name, params := hook.paramText, returns := hook.returns, body := hook.body
    isAsync := spec.isAsync, generated := true, line := 0 }

-- The methods of a trait: the declared ones in order, then the hooks that are not among them.
def traitMethods (spec : Spec) (side : Side) : List Resolved :=
  let declared := ((spec.declaredTrait side).map (·.methods)).getD []
  let missing := (spec.hooks side).filter fun hook => !declared.any (·.name == hook.name)
  declared.map (spec.resolve side) ++ missing.map spec.generate

end Spec

end Statewright
