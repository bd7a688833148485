import Statewright.Emission.Classes
import Statewright.Emission.Header
import Statewright.Spec.Table
import Statewright.Text.Fill

/-!
Modules of event-driven machines. States and events are wrapped by two enumerations; one routine dispatches an
event through the frozen transition table and calls the hooks on the way, each awaited where it is asynchronous.
-/
set_option autoImplicit false

namespace Statewright.Emission.EventDriven

structure Parts where
  spec : Spec
  stateEnum : Enumeration
  eventEnum : Enumeration
  table : Table

namespace Parts

def name (parts : Parts) : Text := parts.spec.name
def context (parts : Parts) : Text := parts.spec.context
def stateName (parts : Parts) : Text := parts.stateEnum.name
def eventName (parts : Parts) : Text := parts.eventEnum.name

def methods (parts : Parts) (side : Side) : List Resolved := parts.spec.traitMethods side

-- Whether a call by this name is awaited: as the last method of that name says, events' methods after states'.
def awaits (parts : Parts) (name : Text) : Bool :=
  match ((parts.methods .state ++ parts.methods .event).reverse).find? (·.name == name) with
  | some method => method.isAsync
  | none => false

def awaited (parts : Parts) (hook : Hook) : Text := awaitWord (parts.awaits hook.name)

def handlerAwaited (parts : Parts) : Text := awaitWord parts.spec.isAsync

end Parts

def opening (parts : Parts) : Lines :=
  let first : Lines :=
    ["\"\"\"",
     parts.name ++ " state machine (event-driven model)",
     [],
     "States and events are dataclasses wrapped by the " ++ parts.stateName ++ " and",
     parts.eventName ++ " enumerations. handle_event() resolves the (state, event)",
     "pair through the frozen _TRANSITIONS table.",
     []]
  let last : Lines := ["\"\"\"", []]
  first ++ Text.fill 72 cancellation ++ last

def imports : Lines :=
  ["import abc",
   "from dataclasses import dataclass, field",
   "from typing import Any, Optional, Tuple, Union",
   [],
   "from machine_factory.runtime import (",
   "    UNHANDLED,",
   "    DispatchInterruptedError,",
   "    DispatchOutcome,",
   "    DispatchStep,",
   "    EntryKind,",
   "    VariantError,",
   "    catch_all,",
   "    explicit,",
   "    freeze_table,",
   ")"]

def traitLines (parts : Parts) (side : Side) : Lines :=
  let spec := parts.spec
  let bases := ((spec.declaredTrait side).map (·.bases)).getD []
  [] :: [] :: traitClass ((spec.traitName? side).getD []) bases (parts.methods side)
    (side.label ++ " trait of " ++ spec.name)

def stateLines (parts : Parts) : Lines :=
  parts.spec.states.flatMap fun state =>
    [] :: [] :: dataClass state.name (parts.spec.traitName? .state) state.fields state.impls (parts.methods .state)

def eventLines (parts : Parts) : Lines :=
  parts.spec.events.flatMap fun event =>
    [] :: [] :: dataClass event.name (parts.spec.traitName? .event) event.fields event.impls (parts.methods .event)

def wrapping (parts : Parts) (side : Side) : Wrapping :=
  { enumeration := match side with
      | .state => parts.stateEnum
      | .event => parts.eventEnum
    members := match side with
      | .state => parts.spec.states.map (·.name)
      | .event => parts.spec.events.map (·.name)
    methods := parts.methods side
    side
    machine := parts.name }

def variants (name : Text) (members : List Text) : Lines :=
  let rows : Lines := members.map fun member => "    " ++ member ++ ": " ++ Text.quoted member ++ ","
  (name ++ " = \x7b") :: rows ++ [Text.fixed "\x7d"]

def handler (parts : Parts) (entry : Entry) : Lines :=
  match entry.resolution with
  | .explicit transition =>
    let heading : Text :=
      asyncWord parts.spec.isAsync ++ "def " ++ handlerName entry.state entry.event ++ "(state: " ++ entry.state ++
        ", context: " ++ parts.context ++ ", event: " ++ entry.event ++ "):"
    let body : Lines := match transition.target, transition.isShorthand with
      | some target, true => ["    return " ++ target ++ "()"]
      | _, _ => margined 4 transition.body
    [] :: [] :: heading :: body
  | _ => []

def catchAllLines (parts : Parts) : Lines :=
  match parts.spec.catchAll? with
  | some catchAll =>
    let heading : Text :=
      asyncWord parts.spec.isAsync ++ "def " ++ catchAllHandler ++ "(state: " ++ parts.stateName ++ ", context: " ++
        parts.context ++ ", event: " ++ parts.eventName ++ "):"
    [] :: [] :: heading :: margined 4 catchAll.body
  | none => []

def tableRow (entry : Entry) : Text :=
  let value : Text := match entry.resolution with
    | .explicit _ => "explicit(" ++ handlerName entry.state entry.event ++ ")"
    | .catchAll => "catch_all(" ++ catchAllHandler ++ ")"
    | .unhandled => "UNHANDLED"
  "    (" ++ Text.quoted entry.state ++ ", " ++ Text.quoted entry.event ++ "): " ++ value ++ ","

def tableLines (parts : Parts) : Lines :=
  let rows : Lines := parts.table.entries.map tableRow
  [] :: [] :: Text.fixed "_TRANSITIONS = freeze_table(\x7b" :: rows ++ [Text.fixed "\x7d)"]

def machineHeading (parts : Parts) : Lines :=
  ["class " ++ parts.name ++ ":",
   "    \"\"\"",
   "    Event-driven " ++ parts.name ++ " machine",
   [],
   "    Holds the current state as a " ++ parts.stateName ++ " together with the context.",
   "    handle_event() runs pre_transition, should_exit, on_exit, the transition,",
   "    on_enter and post_transition, in that order.",
   "    \"\"\"",
   [],
   "    __slots__ = ('_state', '_context', '_step')",
   []]

def construction (parts : Parts) : Lines :=
  ["    def __init__(self, state: Any, context: " ++ parts.context ++ "):",
   "        self._state = " ++ parts.stateName ++ ".of(state)",
   "        self._context = context",
   "        self._step: Optional[DispatchStep] = None",
   []]

def properties (parts : Parts) : Lines :=
  ["    @property",
   "    def state(self) -> " ++ parts.stateName ++ ":",
   "        return self._state",
   [],
   "    @property",
   "    def context(self) -> " ++ parts.context ++ ":",
   "        return self._context",
   []]

def recovery : Lines :=
  ["    @property",
   "    def interrupted_step(self) -> Optional[DispatchStep]:",
   "        \"\"\"Step a previous dispatch stopped in, None while the machine is consistent\"\"\"",
   "        return self._step",
   [],
   "    def recover(self) -> Optional[DispatchStep]:",
   "        \"\"\"Accept the current state and context after an interrupted dispatch\"\"\"",
   "        step, self._step = self._step, None",
   "        return step",
   []]

def endings (parts : Parts) : Lines :=
  ["    def into_parts(self) -> Tuple[" ++ parts.stateName ++ ", " ++ parts.context ++ "]:",
   "        return self._state, self._context",
   [],
   "    def into_state(self) -> " ++ parts.stateName ++ ":",
   "        return self._state",
   [],
   "    def into_context(self) -> " ++ parts.context ++ ":",
   "        return self._context",
   []]

def dispatchHeading (parts : Parts) : Lines :=
  ["    " ++ asyncWord parts.spec.isAsync ++ "def handle_event(self, event: Any) -> DispatchOutcome:",
   "        \"\"\"",
   "        Dispatch one event",
   [],
   "        Returns REFUSED when should_exit() vetoes the transition and",
   "        UNHANDLED when the pair has neither a transition nor a catch-all;",
   "        the state is unchanged in both cases. Raises",
   "        DispatchInterruptedError while an earlier dispatch is unrecovered.",
   "        \"\"\""]

def dispatchStart (parts : Parts) : Lines :=
  ["        if self._step is not None:",
   "            raise DispatchInterruptedError(self._step)",
   "        event = " ++ parts.eventName ++ ".of(event)",
   "        state = self._state",
   "        context = self._context",
   [],
   "        self._step = DispatchStep.PRE_TRANSITION",
   "        " ++ parts.awaited .preTransition ++ "event.pre_transition(context)",
   []]

def dispatchChoice (parts : Parts) : Lines :=
  ["        self._step = DispatchStep.SHOULD_EXIT",
   "        if not " ++ parts.awaited .shouldExit ++ "state.should_exit(context, event):",
   "            self._step = None",
   "            return DispatchOutcome.REFUSED",
   [],
   "        entry = _TRANSITIONS[state.variant, event.variant]",
   "        if entry.kind is EntryKind.UNHANDLED:",
   "            self._step = None",
   "            return DispatchOutcome.UNHANDLED",
   []]

def dispatchMove (parts : Parts) : Lines :=
  ["        self._step = DispatchStep.ON_EXIT",
   "        " ++ parts.awaited .onExit ++ "state.on_exit(context)",
   [],
   "        self._step = DispatchStep.TRANSITION",
   "        if entry.kind is EntryKind.EXPLICIT:",
   "            target = " ++ parts.handlerAwaited ++ "entry.handler(state.value, context, event.value)",
   "        else:",
   "            target = " ++ parts.handlerAwaited ++ "entry.handler(state, context, event)",
   "        state = " ++ parts.stateName ++ ".of(target)",
   "        self._state = state",
   []]

def dispatchEnd (parts : Parts) : Lines :=
  ["        self._step = DispatchStep.ON_ENTER",
   "        " ++ parts.awaited .onEnter ++ "state.on_enter(context)",
   [],
   "        self._step = DispatchStep.POST_TRANSITION",
   "        " ++ parts.awaited .postTransition ++ "event.post_transition(context)",
   [],
   "        self._step = None",
   "        return DispatchOutcome.TRANSITIONED",
   []]

def display (parts : Parts) : Lines :=
  ["    def __repr__(self):",
   "        return f\"" ++ parts.name ++ "(state=\x7bself._state!r\x7d, context=\x7bself._context!r\x7d)\""]

def machineClass (parts : Parts) : Lines :=
  machineHeading parts ++ construction parts ++ properties parts ++ recovery ++ endings parts ++
    dispatchHeading parts ++ dispatchStart parts ++ dispatchChoice parts ++ dispatchMove parts ++
    dispatchEnd parts ++ display parts

def exports (parts : Parts) : List Text :=
  let spec := parts.spec
  let shared := if spec.isPublic then [parts.stateName, parts.eventName, parts.name] else []
  (spec.traitName? .state).toList ++ (spec.traitName? .event).toList ++ spec.states.map (·.name) ++
    spec.events.map (·.name) ++ shared

def module (parts : Parts) : Code.Reading Lines := do
  let spec := parts.spec
  let stateEnum ← enumerationClass (wrapping parts .state)
  let eventEnum ← enumerationClass (wrapping parts .event)
  let classes := traitLines parts .event ++ traitLines parts .state ++ stateLines parts ++ eventLines parts ++
    [] :: [] :: stateEnum ++ [] :: [] :: eventEnum
  let registries := [] :: [] :: variants "_STATE_VARIANTS" (spec.states.map (·.name)) ++
    [] :: variants "_EVENT_VARIANTS" (spec.events.map (·.name))
  let handlers := parts.table.explicitEntries.flatMap (handler parts) ++ catchAllLines parts
  return opening parts ++ imports ++ preludeLines spec.prelude ++ [[]] ++ exportList (exports parts) ++ classes ++
    registries ++ handlers ++ tableLines parts ++ [[], []] ++ decorators spec.attributes ++ machineClass parts

end Statewright.Emission.EventDriven
