import Statewright.Code.Fragment
import Statewright.Emission.Deterministic
import Statewright.Emission.EventDriven
import Statewright.Machine.Fields

/-!
What the code of a specification does when its machines run. `Conduct` says it for code of any kind; `Program` is
the code as it was read, and its conduct is to run the bodies.
-/
set_option autoImplicit false

namespace Statewright.Machine

-- What machines ask of the code that a specification carries. Each routine works on what the context holds; the
-- context itself is handed on by its number.
structure Conduct (γ : Type) where
  create : (type : Text) → Arguments Value → Except Fault Value
  methodFormals : (type name : Text) → Option (Formals Value)
  method : (type name : Text) → Value → Arguments Value → Routine γ Value
  formals : (state name : Text) → Formals Value
  body : (state name : Text) → Value → (context : Nat) → Arguments Value → Routine γ Value
  handler : (state event : Text) → Value → (context : Nat) → Value → Routine γ Value
  catchAll : Value → (context : Nat) → Value → Routine γ Value
  isTrue : γ → Value → Bool

-- A function of a module, or a method of one of its classes.
structure Function where
  owner : Text := []
  formals : Formals Value := {}
  body : List Code.Stmt := []

def slotOf (param : Code.Param) : Slot Value := ⟨param.name, param.default.map literal⟩

def formalsOf (params : Code.Params) : Formals Value :=
  { positionalOnly := params.positionalOnly.map slotOf
    positional := params.positional.map slotOf
    rest := params.rest.map (·.name)
    keywordOnly := params.keywordOnly.map slotOf
    keywords := params.keywords.map (·.name) }

namespace Function

def ofCode (params : Code.Reading Code.Params) (width : Nat) (body : Text) : Function :=
  { formals := match params with
      | .ok params => formalsOf params
      | _ => {}
    body := match Code.readBlock width body with
      | .ok statements => statements
      | _ => [] }

def run (function : Function) (classes : List DataClass) (known : Locals) : Routine Contents Value := do
  return (← executeAll classes known function.body).getD .none_

-- What a function knows when it is called fills the parameters in front.
def call (function : Function) (classes : List DataClass) (known : Locals) (arguments : Arguments Value) :
    Routine Contents Value :=
  match (function.formals.headed function.owner (known.map (·.1))).bind arguments with
  | some bindings => function.run classes (known ++ locals bindings)
  | none => Routine.fail .mismatch

end Function

-- What a module defines under a name after its classes of data: the code of a transition, or the machine class of a
-- state. A machine class that takes the name of a body hides it, and a call of that name finds no function.
inductive Definition where
  | body (state trigger name : Text) (function : Function)
  | machineClass (name : Text)

namespace Definition

def name : Definition → Text
  | body _ _ name _ => name
  | machineClass name => name

def function? : Definition → Option Function
  | body _ _ _ function => some function
  | machineClass _ => none

def isBodyOf (state trigger : Text) : Definition → Bool
  | body owner own _ _ => owner == state && own == trigger
  | machineClass _ => false

end Definition

structure Program where
  classes : List DataClass
  methods : List ((Text × Text) × Function)
  definitions : List Definition
  catchAll : Function

namespace Program

-- Whether the class of an object lacks a body for a method of its trait. The private names of a class are its own.
def staysAbstract (spec : Spec) (side : Side) (type : Text) (impls : List Method) : Bool :=
  (spec.traitMethods side).any fun method => method.isAbstract &&
    !impls.any fun impl => nameWithin type impl.name == nameWithin ((spec.traitName? side).getD []) method.name

-- The classes of data of a module. A module with a class that cannot be defined cannot be loaded.
def classes? (meaning : Meaning) (spec : Spec) : Option (List DataClass) := do
  let states ← spec.states.mapM fun state =>
    classOf? meaning state.name (staysAbstract spec .state state.name state.impls) state.fields
  let events ← (if spec.isEventDriven then spec.events else []).mapM fun event =>
    classOf? meaning event.name (staysAbstract spec .event event.name event.impls) event.fields
  return states ++ events

-- The class whose body an object runs for a method, and that body: its own, or else the one of the trait.
def methodBody? (method : Resolved) (trait type : Text) (impls : List Method) : Option (Text × Text) :=
  match impls.find? (·.name == method.name) with
  | some impl => some (type, impl.body)
  | none => if method.isAbstract then none else some (trait, method.body)

def methodsOf (spec : Spec) (side : Side) (type : Text) (impls : List Method) : List ((Text × Text) × Function) :=
  (spec.traitMethods side).filterMap fun method =>
    (methodBody? method ((spec.traitName? side).getD []) type impls).map fun (owner, body) =>
      ((type, method.name), { Function.ofCode (Code.readMethodParams method.params) 8 body with owner })

-- What a transition does: a bare target makes the target from its defaults.
def bodyOf (spec : Spec) (transition : Transition) : Function :=
  match transition.target, spec.isEventDriven && transition.isShorthand with
  | some target, true => { body := [.return_ (some (.call (.name target) []))] }
  | _, _ =>
    let params := if spec.isEventDriven then .ok ⟨[], [], none, [], none⟩ else Code.readParams transition.params
    Function.ofCode params 4 transition.body

def helperName (spec : Spec) (state trigger : Text) : Text :=
  if spec.isEventDriven then handlerName state trigger else Emission.Deterministic.bodyName state trigger

def definitionOf (spec : Spec) (state : Text) (transition : Transition) : Definition :=
  .body state transition.trigger (helperName spec state transition.trigger) (bodyOf spec transition)

def definitionsOf (spec : Spec) (state : State) : List Definition :=
  state.transitions.map (definitionOf spec state.name) ++
    if spec.isEventDriven then [] else [.machineClass (spec.name ++ state.name)]

def ofSpec (spec : Spec) : Program :=
  let events := if spec.isEventDriven then spec.events else []
  { classes := (classes? .plain spec).getD []
    methods := (spec.states.flatMap fun state => methodsOf spec .state state.name state.impls) ++
      events.flatMap fun event => methodsOf spec .event event.name event.impls
    definitions := spec.states.flatMap (definitionsOf spec)
    catchAll := match spec.catchAll? with
      | some catchAll => Function.ofCode (.ok ⟨[], [], none, [], none⟩) 4 catchAll.body
      | none => {} }

def method? (program : Program) (type name : Text) : Option Function :=
  (program.methods.find? fun ((owner, own), _) => owner == type && own == name).map (·.2)

def formals (program : Program) (state name : Text) : Formals Value :=
  (((program.definitions.find? (·.isBodyOf state name)).bind (·.function?)).map (·.formals)).getD {}

-- What stands under a name in a module: of several definitions the last one.
def standing? (program : Program) (name : Text) : Option Definition :=
  program.definitions.reverse.find? (·.name == name)

def defined? (program : Program) (name : Text) : Option Function := (program.standing? name).bind (·.function?)

def given (state : Value) (context : Nat) : Locals :=
  [(Text.fixed "state", state), (Text.fixed "context", .context context)]

def callDefined (program : Program) (name : Text) (known : Locals) (arguments : Arguments Value) :
    Routine Contents Value :=
  match program.defined? name with
  | some function => function.call program.classes known arguments
  | none => Routine.fail .noName

def conduct (program : Program) : Conduct Contents where
  create := createIn program.classes
  methodFormals type name := (program.method? type name).map (·.formals)
  method type name self arguments :=
    match program.method? type name with
    | some function => function.call program.classes [(Text.fixed "self", self)] arguments
    | none => Routine.fail .noAttribute
  formals := program.formals
  body state name self context arguments :=
    program.callDefined (Emission.Deterministic.bodyName state name) (given self context) arguments
  handler state event self context value :=
    program.callDefined (handlerName state event) (given self context ++ [(Text.fixed "event", value)]) {}
  catchAll self context value :=
    program.catchAll.run program.classes (given self context ++ [(Text.fixed "event", value)])
  isTrue contents value := value.isTrueIn contents

end Program

end Statewright.Machine
