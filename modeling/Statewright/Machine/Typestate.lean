import Statewright.Machine.Naming
import Statewright.Machine.Program
import Statewright.Machine.World

/-!
Machines of the deterministic kind. A machine is typed by the state it holds and offers the methods of that state.
A method calls its body, and then the machine class of its target, by their names; a name stands for what the module
defines under it last, where the method does not take it for something of its own. A method with a target consumes the
machine once the call of that class has returned; a failure leaves the machine as it was. Machines ask for the classes
of values by names of the language, which the classes of the module can hide.
-/
set_option autoImplicit false

namespace Statewright.Machine

-- A machine typed by a state. It holds a value of that state and its context until it is consumed.
structure Typed where
  state : Text
  held : Option (Value × Nat)

namespace Typed

def className (spec : Spec) (machine : Typed) : Text := spec.name ++ machine.state

def consumed (machine : Typed) : Typed := { machine with held := none }

def alive (spec : Spec) (machine : Typed) : Except Fault (Value × Nat) :=
  match machine.held with
  | some parts => .ok parts
  | none => .error (if spec.hides "type" then .mismatch else .consumed (machine.className spec))

-- Why there is no machine of one state around a value, which must be of that state; `actual` is the class of the value.
def misplaced? (spec : Spec) (state : Text) (value : Value) (actual : Text) : Option Fault :=
  if spec.hides "isinstance" then some .mismatch
  else if value.isOf state then none
  else some (if spec.hides "type" then .mismatch else .wrongState (spec.name ++ state) state actual)

def create (spec : Spec) (state : Text) (value : Value) (context : Nat) (actual : Text) : Except Fault Typed :=
  match misplaced? spec state value actual with
  | some fault => .error fault
  | none => .ok ⟨state, some (value, context)⟩

-- The state whose machine class is for a value; without such a state there is no machine for it.
def stateFor (spec : Spec) (value : Value) (actual : Text) : Except Fault Text :=
  if spec.hides "type" then .error .mismatch
  else match value with
  | .object type _ => if (spec.state? type).isSome then .ok type else .error (.foreignState actual spec.name)
  | _ => .error (.foreignState actual spec.name)

def transition? (spec : Spec) (machine : Typed) (method : Text) : Option Transition :=
  (spec.state? machine.state).bind fun state => state.transitions.find? (·.trigger == method)

-- The heading of a method, which takes the machine first.
def formals {γ : Type} (spec : Spec) (conduct : Conduct γ) (machine : Typed) (method : Text) : Formals Value :=
  (conduct.formals machine.state method).headed (machine.className spec) [Text.fixed "self"]

-- What goes wrong when a method of a class calls a name of its module. A parameter hides what stands under the name, as
-- do the machine itself and the value for the target, and none of them can be called; the variable for the next machine
-- has no value yet, and a private name is another one within the class.
def misread? (owner : Text) (params : List Text) (name : Text) : Option Fault :=
  if ((params ++ ["self", "target"].map Text.fixed).map (nameWithin owner)).contains (nameWithin owner name) then
    some .mismatch
  else if name == Text.fixed "machine" || nameWithin owner name != name then some .noName
  else none

-- The value for the next state: what the body returned, or one made from defaults if it returned nothing.
def nextValue {γ : Type} (conduct : Conduct γ) (owner : Text) (bindings : List (Text × Bound Value)) (target : Text) :
    Value → Except Fault Value
  | .none_ =>
    match misread? owner (bindings.map (·.1)) target with
    | some fault => .error fault
    | none => conduct.create target {}
  | value => .ok value

end Typed

-- What a module defines after its classes of data: the body of a method, or the machine class of a state.
inductive Callee where
  | body (state method : Text)
  | machineClass (state : Text)
deriving DecidableEq

namespace Callee

def name (spec : Spec) : Callee → Text
  | body state method => Emission.Deterministic.bodyName state method
  | machineClass state => spec.name ++ state

def ofState (state : State) : List Callee :=
  state.transitions.map (fun transition => body state.name transition.trigger) ++ [machineClass state.name]

-- All that a module defines, in the order of its text.
def all (spec : Spec) : List Callee := spec.states.flatMap ofState

def standing (spec : Spec) (callee : Callee) : Callee :=
  ((all spec).reverse.find? fun other => other.name spec == callee.name spec).getD callee

end Callee

abbrev TypedWorld (γ : Type) := World Typed γ

namespace TypedWorld

variable {γ : Type}

def typeOf (spec : Spec) (world : TypedWorld γ) (value : Value) : Text :=
  value.typeName fun id => ((world.machines[id]?).map (·.className spec)).getD spec.name

-- The call of a body, or of a machine class, which makes a machine and takes a value and a context only.
def invoke (spec : Spec) (conduct : Conduct γ) (world : TypedWorld γ) (callee : Callee) (value : Value) (context : Nat)
    (arguments : Arguments Value) : Except Fault Value × TypedWorld γ :=
  match callee with
  | .body state method =>
    match world.contexts[context]? with
    | none => (.error .noAttribute, world)
    | some contents =>
      let (outcome, contents) := (conduct.body state method value context arguments contents).settle
      (outcome, world.setContext context contents)
  | .machineClass state =>
    if arguments.isEmpty then
      match Typed.create spec state value context (world.typeOf spec value) with
      | .error fault => (.error fault, world)
      | .ok machine =>
        let (id, world) := world.addMachine machine
        (.ok (.machine id), world)
    else (.error .mismatch, world)

-- The call that a method of a class makes by a name.
def callNamed (spec : Spec) (conduct : Conduct γ) (world : TypedWorld γ) (owner : Text)
    (bindings : List (Text × Bound Value)) (callee : Callee) (value : Value) (context : Nat)
    (arguments : Arguments Value) : Except Fault Value × TypedWorld γ :=
  match Typed.misread? owner (bindings.map (·.1)) (callee.name spec) with
  | some fault => (.error fault, world)
  | none => invoke spec conduct world (callee.standing spec) value context arguments

def start (spec : Spec) (conduct : Conduct γ) (world : TypedWorld γ) (state : Option Text) (value : Value)
    (contents : γ) : Except Fault Value × TypedWorld γ :=
  let chosen : Except Fault Text := match state with
    | some state => .ok state
    | none => Typed.stateFor spec value (world.typeOf spec value)
  match chosen with
  | .error fault => (.error fault, world)
  | .ok state =>
    let (context, started) := world.addContext contents
    match invoke spec conduct started ((Callee.machineClass state).standing spec) value context {} with
    | (.error fault, _) => (.error fault, world)
    | (.ok machine, world) => (.ok machine, world)

-- What follows once the body of a method has returned.
def follow (spec : Spec) (conduct : Conduct γ) (world : TypedWorld γ) (id : Nat) (source : Typed) (context : Nat)
    (bindings : List (Text × Bound Value)) (transition : Transition) (value : Value) :
    Except Fault Value × TypedWorld γ :=
  match Emission.Deterministic.target? transition with
  | none => (.ok value, world)
  | some target =>
    match Typed.nextValue conduct (source.className spec) bindings target value with
    | .error fault => (.error fault, world)
    | .ok next =>
      match callNamed spec conduct world (source.className spec) bindings (.machineClass target) next context {} with
      | (.error fault, world) => (.error fault, world)
      | (.ok machine, world) => (.ok machine, world.setMachine id source.consumed)

-- A method of a live machine, once its arguments are bound.
def perform (spec : Spec) (conduct : Conduct γ) (world : TypedWorld γ) (id : Nat) (source : Typed) (value : Value)
    (context : Nat) (bindings : List (Text × Bound Value)) (transition : Transition) :
    Except Fault Value × TypedWorld γ :=
  let owner := source.className spec
  let forwarded := (source.formals spec conduct transition.trigger).forward bindings
  match callNamed spec conduct world owner bindings (.body source.state transition.trigger) value context forwarded with
  | (.error fault, world) => (.error fault, world)
  | (.ok value, world) => follow spec conduct world id source context bindings transition value

def call (spec : Spec) (conduct : Conduct γ) (world : TypedWorld γ) (id : Nat) (method : Text)
    (arguments : Arguments Value) : Except Fault Value × TypedWorld γ :=
  match world.machines[id]? with
  | none => (.error .noAttribute, world)
  | some source =>
    match source.transition? spec method with
    | none => (.error .noAttribute, world)
    | some transition =>
      match (source.formals spec conduct transition.trigger).bind arguments with
      | none => (.error .mismatch, world)
      | some bindings =>
        match source.alive spec with
        | .error fault => (.error fault, world)
        | .ok (value, context) => perform spec conduct world id source value context bindings transition

def peek (spec : Spec) (world : TypedWorld γ) (id : Nat) : Except Fault (Value × Nat) :=
  match world.machines[id]? with
  | none => .error .noAttribute
  | some machine => machine.alive spec

def take (spec : Spec) (world : TypedWorld γ) (id : Nat) : Except Fault (Value × Nat) × TypedWorld γ :=
  match world.machines[id]? with
  | none => (.error .noAttribute, world)
  | some machine => match machine.alive spec with
    | .error fault => (.error fault, world)
    | .ok parts => (.ok parts, world.setMachine id machine.consumed)

end TypedWorld

end Statewright.Machine
