import Statewright.Machine.Dispatch
import Statewright.Machine.Typestate

/-!
Running machines by name. A stage holds the machines of one specification, the names given to what calls returned, and
the dispatches that are still open, one for each name.
-/
set_option autoImplicit false

namespace Statewright.Machine

open Emission.EventDriven (Parts)

inductive Pool where
  | typed (world : TypedWorld Contents)
  | reactive (parts : Parts) (world : ReactiveWorld Contents)

structure OpenDispatch where
  machine : Nat
  resume : Routine (Place Contents) Outcome

structure Stage where
  spec : Spec
  program : Program
  pool : Pool
  named : List (Text × Value) := []
  waiting : List (Text × OpenDispatch) := []

namespace Stage

def conduct (stage : Stage) : Conduct Contents := stage.program.conduct

def ofSpec (spec : Spec) (table : Option Table) : Stage :=
  let pool := match spec.stateEnum, spec.eventEnum, table with
    | some stateEnum, some eventEnum, some table => Pool.reactive ⟨spec, stateEnum, eventEnum, table⟩ {}
    | _, _, _ => Pool.typed {}
  { spec, program := Program.ofSpec spec, pool }

def contents (stage : Stage) (id : Nat) : Contents :=
  match stage.pool with
  | .typed world => (world.contexts[id]?).getD []
  | .reactive _ world => (world.contexts[id]?).getD []

def className (stage : Stage) (id : Nat) : Text :=
  match stage.pool with
  | .typed world => ((world.machines[id]?).map (·.className stage.spec)).getD stage.spec.name
  | .reactive _ _ => stage.spec.name

def typeName (stage : Stage) (value : Value) : Text := value.typeName stage.className

-- How values are written.

-- A context inside a context is cut short.
def shownInside (value : Value) : Text := value.shownBy (fun _ => "[...]") (fun _ => "...")

def contextText (stage : Stage) (id : Nat) : Text :=
  '[' :: Text.join ", " ((stage.contents id).map shownInside) ++ [']']

def shownHeld (stage : Stage) (className : Text) (state : Value) (context : Nat) : Text :=
  className ++ "(state=" ++ state.shownBy stage.contextText (fun _ => "...") ++ ", context=" ++
    stage.contextText context ++ ")"

def machineText (stage : Stage) (id : Nat) : Text :=
  match stage.pool with
  | .typed world => match world.machines[id]? with
    | none => []
    | some machine => match machine.held with
      | none => "<" ++ machine.className stage.spec ++ " (consumed)>"
      | some (state, context) => stage.shownHeld (machine.className stage.spec) state context
  | .reactive parts world => match world.machines[id]? with
    | none => []
    | some machine => stage.shownHeld stage.spec.name (machine.state.wrapped parts.stateName) machine.context

def shown (stage : Stage) (value : Value) : Text := value.shownBy stage.contextText stage.machineText

-- Names.

def named? (stage : Stage) (name : Text) : Option Value := Machine.named? stage.named name

def name (stage : Stage) (name : Text) (value : Value) : Stage :=
  { stage with named := (name, value) :: stage.named.filter (·.1 != name) }

def close (stage : Stage) (name : Text) : Stage := { stage with waiting := stage.waiting.filter (·.1 != name) }

-- Classes and their objects.

def eventDriven? (stage : Stage) : Option Parts :=
  match stage.pool with
  | .typed _ => none
  | .reactive parts _ => some parts

def enumerationNames (stage : Stage) : List Text :=
  match stage.eventDriven? with
  | some parts => [parts.stateName, parts.eventName]
  | none => []

def traitNames (stage : Stage) : List Text :=
  (stage.spec.traitName? .state).toList ++ (stage.spec.traitName? .event).toList

def machineClassNames (stage : Stage) : List Text :=
  match stage.pool with
  | .typed _ => stage.spec.name :: stage.spec.states.map fun state => stage.spec.name ++ state.name
  | .reactive _ _ => [stage.spec.name]

def defines (stage : Stage) (name : Text) : Bool :=
  (stage.machineClassNames ++ stage.enumerationNames ++ stage.traitNames).contains name

def exports (stage : Stage) : List Text :=
  match stage.pool with
  | .typed _ => Emission.Deterministic.exports stage.spec
  | .reactive parts _ => Emission.EventDriven.exports parts

def build (stage : Stage) (type : Text) (arguments : Arguments Value) : Except Fault Value :=
  if stage.program.classes.any (·.name == type) then createIn stage.program.classes type arguments
  else if stage.defines type then .error .mismatch
  else .error .noAttribute

def hides (stage : Stage) (name : Text) : Bool :=
  match stage.eventDriven? with
  | some parts => parts.spec.hides name
  | none => stage.spec.hides name

def registry? (stage : Stage) (side : Side) : Except Fault Registry :=
  match stage.eventDriven? with
  | some parts => Registry.open? parts side
  | none => .error .noAttribute

-- Making machines.

def startTyped (stage : Stage) (world : TypedWorld Contents) (state : Option Text) (value : Value)
    (contents : Contents) : Except Fault Value × Stage :=
  let (outcome, world) := TypedWorld.start stage.spec stage.conduct world state value contents
  (outcome, { stage with pool := .typed world })

def startReactive (stage : Stage) (parts : Parts) (world : ReactiveWorld Contents) (value : Value)
    (contents : Contents) : Except Fault Value × Stage :=
  let (outcome, world) := ReactiveWorld.start parts world value contents
  (outcome.map .machine, { stage with pool := .reactive parts world })

def start (stage : Stage) (value : Value) (contents : Contents) : Except Fault Value × Stage :=
  match stage.pool with
  | .typed world => stage.startTyped world none value contents
  | .reactive parts world => stage.startReactive parts world value contents

-- A machine of no state is refused with an error of the language, which a class of the module can hide.
def baseFault (stage : Stage) (className : Text) : Fault :=
  if stage.spec.hides "TypeError" then .mismatch else .baseMachine className

def startAs (stage : Stage) (className : Text) (value : Value) (contents : Contents) : Except Fault Value × Stage :=
  match stage.pool with
  | .typed world =>
    if className == stage.spec.name then (.error (stage.baseFault className), stage)
    else match stage.spec.states.find? fun state => stage.spec.name ++ state.name == className with
      | some state => stage.startTyped world (some state.name) value contents
      | none => (stage.build className { positional := [value, .list contents] }, stage)
  | .reactive parts world =>
    if className == stage.spec.name then stage.startReactive parts world value contents
    else (stage.build className { positional := [value, .list contents] }, stage)

-- Asking machines.

def parts? (stage : Stage) (id : Nat) : Except Fault (Value × Nat) :=
  match stage.pool with
  | .typed world => TypedWorld.peek stage.spec world id
  | .reactive parts world => match world.machines[id]? with
    | some machine => .ok (machine.state.wrapped parts.stateName, machine.context)
    | none => .error .noAttribute

def stepValue : Option Step → Value
  | some step => .step step
  | none => .none_

def interruptedStep (stage : Stage) (id : Nat) : Except Fault Value :=
  match stage.pool with
  | .typed _ => .error .noAttribute
  | .reactive _ world => match world.machines[id]? with
    | some machine => .ok (stepValue machine.step)
    | none => .error .noAttribute

def get (stage : Stage) (value : Value) (part : Text) : Except Fault Value :=
  match value with
  | .machine id =>
    if part == "state" then (stage.parts? id).map (·.1)
    else if part == "context" then (stage.parts? id).map fun held => .context held.2
    else if part == "interrupted_step" then stage.interruptedStep id
    else .error .noAttribute
  | value => value.part part

def contextOf (stage : Stage) (value : Value) : Except Fault Nat :=
  match value with
  | .machine id => (stage.parts? id).map (·.2)
  | _ => .error .noAttribute

def setContents (stage : Stage) (id : Nat) (contents : Contents) : Stage :=
  match stage.pool with
  | .typed world => { stage with pool := .typed (world.setContext id contents) }
  | .reactive parts world => { stage with pool := .reactive parts (world.setContext id contents) }

def changeContext (stage : Stage) (value : Value) (change : Contents → Except Fault Contents) :
    Except Fault Value × Stage :=
  match stage.contextOf value with
  | .error fault => (.error fault, stage)
  | .ok id => match change (stage.contents id) with
    | .error fault => (.error fault, stage)
    | .ok contents => (.ok (.context id), stage.setContents id contents)

def addTo (text : Text) (contents : Contents) : Except Fault Contents := .ok (contents ++ [.text text])

def removeFrom (text : Text) (contents : Contents) : Except Fault Contents :=
  if contents.any (Value.same (.text text)) then .ok (contents.eraseP (Value.same (.text text)))
  else .error (.raised "list.remove(x): x not in list")

-- Calling machines.

def taken? (method : Text) : Option (Value × Nat → Value) :=
  if method == "into_parts" then some fun (state, context) => .tuple [state, .context context]
  else if method == "into_state" then some fun (state, _) => state
  else if method == "into_context" then some fun (_, context) => .context context
  else none

def callTyped (stage : Stage) (world : TypedWorld Contents) (id : Nat) (method : Text)
    (arguments : Arguments Value) : Except Fault Value × Stage :=
  match taken? method with
  | some select =>
    if arguments.isEmpty then
      let (outcome, world) := TypedWorld.take stage.spec world id
      (outcome.map select, { stage with pool := .typed world })
    else (.error .mismatch, stage)
  | none =>
    let (outcome, world) := TypedWorld.call stage.spec stage.conduct world id method arguments
    (outcome, { stage with pool := .typed world })

def settleOn {α : Type} (stage : Stage) (parts : Parts) (world : ReactiveWorld Contents) (id : Nat)
    (routine : Routine (Place Contents) α) : Except Fault α × Stage :=
  match ReactiveWorld.place? world id with
  | none => (.error .noAttribute, stage)
  | some place =>
    let (outcome, place) := (routine place).settle
    (outcome, { stage with pool := .reactive parts (ReactiveWorld.setPlace world id place) })

def recoverOn (stage : Stage) (parts : Parts) (world : ReactiveWorld Contents) (id : Nat) :
    Except Fault Value × Stage :=
  match world.machines[id]? with
  | none => (.error .noAttribute, stage)
  | some machine =>
    let (step, machine) := machine.recover
    (.ok (stepValue step), { stage with pool := .reactive parts (world.setMachine id machine) })

def dispatchOn (stage : Stage) (id : Nat) (event : Value) : Except Fault Value × Stage :=
  match stage.pool with
  | .typed _ => (.error .noAttribute, stage)
  | .reactive parts world =>
    let (outcome, stage) := stage.settleOn parts world id (Reactor.dispatch parts stage.conduct event)
    (outcome.map .outcome, stage)

def dispatchFormals : Formals Value := { positional := [⟨"event", none⟩] }

def callReactive (stage : Stage) (parts : Parts) (world : ReactiveWorld Contents) (id : Nat) (method : Text)
    (arguments : Arguments Value) : Except Fault Value × Stage :=
  if method == "recover" then
    if arguments.isEmpty then stage.recoverOn parts world id else (.error .mismatch, stage)
  else if method == "handle_event" then
    match dispatchFormals.bind arguments with
    | some [(_, .one event)] => if stage.spec.isAsync then (.ok .pending, stage) else stage.dispatchOn id event
    | _ => (.error .mismatch, stage)
  else match taken? method with
    | some select => (if arguments.isEmpty then (stage.parts? id).map select else .error .mismatch, stage)
    | none => (.error .noAttribute, stage)

def call (stage : Stage) (value : Value) (method : Text) (arguments : Arguments Value) :
    Except Fault Value × Stage :=
  match value with
  | .machine id => match stage.pool with
    | .typed world => stage.callTyped world id method arguments
    | .reactive parts world => stage.callReactive parts world id method arguments
  | _ => (.error .noAttribute, stage)

def stateMethod (stage : Stage) (state : Value) (method : Text) (arguments : Arguments Value) :
    Routine Contents Value :=
  match state with
  | .object type _ => stage.conduct.method type method state arguments
  | .variant enumeration type fields => stage.conduct.delegate enumeration ⟨type, fields⟩ method arguments
  | _ => Routine.fail .noAttribute

def callState (stage : Stage) (value : Value) (method : Text) (arguments : Nat → Arguments Value) :
    Except Fault Value × Stage :=
  match value with
  | .machine id => match stage.parts? id with
    | .error fault => (.error fault, stage)
    | .ok (state, context) =>
      let (outcome, contents) := (stage.stateMethod state method (arguments context) (stage.contents context)).settle
      (outcome, stage.setContents context contents)
  | _ => (.error .noAttribute, stage)

-- Dispatching.

def dispatch (stage : Stage) (value event : Value) : Except Fault Value × Stage :=
  match value with
  | .machine id => stage.dispatchOn id event
  | _ => (.error .noAttribute, stage)

def wrap (stage : Stage) (side : Side) (value : Value) : Except Fault Value := do
  let registry ← stage.registry? side
  return (← registry.of value).wrapped registry.name

-- What is asked of two values of an enumeration: whether they are equal, whether their hashes are, and whether the first
-- is equal to what it wraps.
structure Comparison where
  equal : Bool
  hashed : Bool
  bare : Bool

-- The variables of the routine that compares two of them.
def comparisonVariables : List Text := ["self", "other"]

def compare (stage : Stage) (ofText : Text → Int) (side : Side) (one other : Value) : Except Fault Comparison := do
  let registry ← stage.registry? side
  let one ← registry.of one
  let other ← registry.of other
  if comparisonVariables.contains registry.name || stage.hides "hash" then .error .mismatch
  else
    let wrapped := one.wrapped registry.name
    return ⟨wrapped.same (other.wrapped registry.name), one.hash ofText == other.hash ofText, wrapped.same one.bare⟩

inductive Progress where
  | suspended
  | finished (outcome : Outcome)

-- Goes on with a dispatch up to its next pause and keeps it under the name of its machine while it waits.
def goOn (stage : Stage) (name : Text) (id : Nat) (routine : Routine (Place Contents) Outcome) :
    Except Fault Progress × Stage :=
  let stage := stage.close name
  match stage.pool with
  | .typed _ => (.error .noAttribute, stage)
  | .reactive parts world =>
    let (run, world) := ReactiveWorld.advance world id routine
    let stage := { stage with pool := .reactive parts world }
    match run with
    | none => (.error .noAttribute, stage)
    | some (.done outcome _) => (.ok (.finished outcome), stage)
    | some (.failed fault _) => (.error fault, stage)
    | some (.paused _ resume) =>
      (.ok .suspended, { stage with waiting := (name, ⟨id, resume⟩) :: stage.waiting })

def begin (stage : Stage) (name : Text) (value event : Value) : Except Fault Progress × Stage :=
  match value, stage.eventDriven? with
  | .machine id, some parts =>
    if stage.spec.isAsync then stage.goOn name id (Reactor.dispatch parts stage.conduct event)
    else
      let (outcome, stage) := stage.dispatchOn id event
      (outcome.bind fun _ => .error .noAttribute, stage.close name)
  | _, _ => (.error .noAttribute, stage)

def waiting? (stage : Stage) (name : Text) : Option OpenDispatch := Machine.named? stage.waiting name

def resume (stage : Stage) (name : Text) (dispatch : OpenDispatch) : Except Fault Progress × Stage :=
  stage.goOn name dispatch.machine dispatch.resume

-- Cancels a dispatch where it waits; the machine keeps its mark.
def cancel (stage : Stage) (name : Text) : Except Fault Progress × Stage := (.error .cancelled, stage.close name)

end Stage

end Statewright.Machine
