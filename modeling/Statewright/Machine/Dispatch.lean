import Statewright.Machine.Naming
import Statewright.Machine.Program
import Statewright.Machine.World

/-!
Machines of the event-driven kind. A machine wraps its state in an enumeration and reacts to events: `preTransition` of
the event, `shouldExit` of the state, the entry of the table, `onExit`, the transition, `onEnter` of the new state and
`postTransition`, in this order. The machine marks the step it is in, so a dispatch that fails or is cancelled leaves
the mark behind, and further events are refused until somebody recovers the machine. The routines call the enumerations
by their names, which their own variables can hide.
-/
set_option autoImplicit false

namespace Statewright.Machine

open Emission.EventDriven (Parts)

structure Registry where
  name : Text
  noun : Text
  machine : Text
  members : List Text

structure Variant where
  type : Text
  fields : List (Text × Value)

namespace Variant

def bare (variant : Variant) : Value := .object variant.type variant.fields

def wrapped (variant : Variant) (enumeration : Text) : Value := .variant enumeration variant.type variant.fields

-- The hash of a value of an enumeration is that of the name of its class; the fields may have none.
def hash (ofText : Text → Int) (variant : Variant) : Int := ofText variant.type

end Variant

-- A method of an enumeration. It binds its arguments as the method of the wrapped object would, and hands every
-- parameter on.
def Conduct.delegate {γ : Type} (conduct : Conduct γ) (enumeration : Text) (self : Variant) (name : Text)
    (arguments : Arguments Value) : Routine γ Value :=
  match conduct.methodFormals self.type name with
  | none => Routine.fail .noAttribute
  | some formals =>
    match (formals.headed enumeration [Text.fixed "self"]).bind arguments with
    | none => Routine.fail .mismatch
    | some bindings => conduct.method self.type name self.bare (formals.forward bindings)

-- Whether an answer lets a transition pass. The call of a method that was not awaited is an answer that does.
def Conduct.accepts {γ : Type} (conduct : Conduct γ) (contents : γ) : Value → Bool
  | .pending => true
  | answer => conduct.isTrue contents answer

namespace Registry

def ofParts (parts : Parts) (side : Side) : Registry :=
  let wrapping := Emission.EventDriven.wrapping parts side
  ⟨wrapping.name, wrapping.noun, wrapping.machine, wrapping.members⟩

def of (registry : Registry) (value : Value) : Except Fault Variant :=
  let foreign : Except Fault Variant :=
    .error (.noVariant (value.typeName fun _ => registry.machine) registry.noun registry.machine)
  match value with
  | .variant enumeration type fields => if enumeration == registry.name then .ok ⟨type, fields⟩ else foreign
  | .object type fields => if registry.members.contains type then .ok ⟨type, fields⟩ else foreign
  | _ => foreign

-- The enumeration of a side. It asks for the class of a value, and where that question is hidden it wraps nothing.
def open? (parts : Parts) (side : Side) : Except Fault Registry :=
  if parts.spec.hides "type" || parts.spec.hides "isinstance" then .error .mismatch else .ok (ofParts parts side)

end Registry

structure Reactor where
  state : Variant
  context : Nat
  step : Option Step := none

abbrev Place (γ : Type) := Reactor × γ

namespace Reactor

variable {γ : Type}

open Routine

-- What comes of calling `of` of a value. Values of the enumerations hand the question on to their enumeration.
def asked (parts : Parts) (owner value : Value) : Except Fault Variant :=
  match owner with
  | .variant enumeration _ _ =>
    (Registry.ofParts parts (if enumeration == parts.stateName then .state else .event)).of value
  | .object _ fields => .error (if (named? fields "of").isSome then .mismatch else .noAttribute)
  | _ => .error .noAttribute

-- Wraps a value as a line of a routine does: by what the name of the enumeration stands for there.
def convert (parts : Parts) (side : Side) (locals : Variables) (value : Value) : Except Fault Variant :=
  match locals.held? (Registry.ofParts parts side).name with
  | some .nothing => .error .noName
  | some (.value owner) => asked parts owner value
  | some .thing => .error .noAttribute
  | none => (Registry.open? parts side).bind fun registry => registry.of value

def startVariables (value : Value) : Variables :=
  [("self", .thing), ("state", .value value), ("context", .thing)]

def dispatchVariables (value : Value) : Variables :=
  [("self", .thing), ("event", .value value), ("state", .nothing), ("context", .nothing), ("entry", .nothing),
   ("target", .nothing)]

def transferVariables (parts : Parts) (state event : Variant) (target : Value) : Variables :=
  [("self", .thing), ("event", .value (event.wrapped parts.eventName)), ("state", .value (state.wrapped parts.stateName)),
   ("context", .thing), ("entry", .thing), ("target", .value target)]

def mark (step : Option Step) : Routine (Place γ) Unit :=
  change fun (machine, contents) => ({ machine with step }, contents)

def become (state : Variant) : Routine (Place γ) Unit :=
  change fun (machine, contents) => ({ machine with state }, contents)

def inContext {α : Type} (routine : Routine γ α) : Routine (Place γ) α :=
  routine.within (·.2) fun contents place => (place.1, contents)

-- The value of a call. An asynchronous method that is not awaited does not run, and what an ordinary one returns
-- cannot be awaited.
def called {σ : Type} (isAsync awaited : Bool) (routine : Routine σ Value) : Routine σ Value :=
  if isAsync && !awaited then pure .pending
  else if awaited && !isAsync then routine >>= fun _ => fail .mismatch
  else routine

def isAsync (parts : Parts) (side : Side) (hook : Hook) : Bool :=
  ((parts.methods side).find? (·.name == hook.name)).any (·.isAsync)

-- A hook is called through the enumeration, whose method is asynchronous as the one of the wrapped object is.
def callHook (parts : Parts) (conduct : Conduct γ) (side : Side) (hook : Hook) (self : Variant)
    (arguments : List Value) : Routine (Place γ) Value :=
  let heard : Conduct γ :=
    { conduct with
      method := fun type name self arguments =>
        called (isAsync parts side hook) (parts.awaits hook.name) (conduct.method type name self arguments) }
  inContext (heard.delegate (Registry.ofParts parts side).name self hook.name { positional := arguments })

def callHandler (parts : Parts) (conduct : Conduct γ) (entry : Entry) (state event : Variant) (context : Nat) :
    Routine (Place γ) Value :=
  match entry.resolution with
  | .explicit _ => inContext (conduct.handler entry.state entry.event state.bare context event.bare)
  | .catchAll =>
    inContext (conduct.catchAll (state.wrapped parts.stateName) context (event.wrapped parts.eventName))
  | .unhandled => pure .none_

def conclude (parts : Parts) (conduct : Conduct γ) (event : Variant) (context : Nat) :
    Routine (Place γ) Outcome := do
  mark (some .postTransition)
  let _ ← callHook parts conduct .event .postTransition event [.context context]
  mark none
  return .transitioned

def enter (parts : Parts) (conduct : Conduct γ) (state event : Variant) (context : Nat) :
    Routine (Place γ) Outcome := do
  become state
  mark (some .onEnter)
  let _ ← callHook parts conduct .state .onEnter state [.context context]
  conclude parts conduct event context

def transfer (parts : Parts) (conduct : Conduct γ) (entry : Entry) (state event : Variant) (context : Nat) :
    Routine (Place γ) Outcome := do
  mark (some .transition)
  let target ← callHandler parts conduct entry state event context
  let state ← ofExcept (convert parts .state (transferVariables parts state event target) target)
  enter parts conduct state event context

def move (parts : Parts) (conduct : Conduct γ) (entry : Entry) (state event : Variant) (context : Nat) :
    Routine (Place γ) Outcome := do
  mark (some .onExit)
  let _ ← callHook parts conduct .state .onExit state [.context context]
  transfer parts conduct entry state event context

def choose (parts : Parts) (conduct : Conduct γ) (state event : Variant) (context : Nat) (willing : Value) :
    Routine (Place γ) Outcome := do
  let (_, contents) ← current
  if !conduct.accepts contents willing then
    mark none
    return .refused
  match parts.table.lookup? state.type event.type with
  | none => fail .noEntry
  | some entry =>
    if entry.resolution == .unhandled then
      mark none
      return .unhandled
    move parts conduct entry state event context

def ask (parts : Parts) (conduct : Conduct γ) (state event : Variant) (context : Nat) :
    Routine (Place γ) Outcome := do
  mark (some .shouldExit)
  let willing ← callHook parts conduct .state .shouldExit state [.context context, event.wrapped parts.eventName]
  choose parts conduct state event context willing

def react (parts : Parts) (conduct : Conduct γ) (state event : Variant) (context : Nat) :
    Routine (Place γ) Outcome := do
  mark (some .preTransition)
  let _ ← callHook parts conduct .event .preTransition event [.context context]
  ask parts conduct state event context

def dispatch (parts : Parts) (conduct : Conduct γ) (value : Value) : Routine (Place γ) Outcome := do
  let (machine, _) ← current
  match machine.step with
  | some step => fail (.interrupted step)
  | none =>
    let event ← ofExcept (convert parts .event (dispatchVariables value) value)
    react parts conduct machine.state event machine.context

def start (parts : Parts) (value : Value) (context : Nat) : Except Fault Reactor :=
  (convert parts .state (startVariables value) value).map fun state => ⟨state, context, none⟩

def recover (machine : Reactor) : Option Step × Reactor := (machine.step, { machine with step := none })

end Reactor

abbrev ReactiveWorld (γ : Type) := World Reactor γ

namespace ReactiveWorld

variable {γ α : Type}

def start (parts : Parts) (world : ReactiveWorld γ) (value : Value) (contents : γ) :
    Except Fault Nat × ReactiveWorld γ :=
  match Reactor.start parts value world.contexts.length with
  | .error fault => (.error fault, world)
  | .ok machine =>
    let (id, world) := (world.addContext contents).2.addMachine machine
    (.ok id, world)

def place? (world : ReactiveWorld γ) (id : Nat) : Option (Place γ) := do
  let machine ← world.machines[id]?
  let contents ← world.contexts[machine.context]?
  return (machine, contents)

def setPlace (world : ReactiveWorld γ) (id : Nat) (place : Place γ) : ReactiveWorld γ :=
  (world.setMachine id place.1).setContext place.1.context place.2

def advance (world : ReactiveWorld γ) (id : Nat) (routine : Routine (Place γ) α) :
    Option (Run (Place γ) α) × ReactiveWorld γ :=
  match place? world id with
  | none => (none, world)
  | some place =>
    let run := routine place
    (some run, setPlace world id run.world)

end ReactiveWorld

end Statewright.Machine
