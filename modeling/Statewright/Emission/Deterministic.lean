import Statewright.Emission.Classes
import Statewright.Spec.Events

/-!
Modules of deterministic machines. Each state has a machine class; its methods run their bodies as functions of the
state and the context, and a method with a target consumes the machine.
-/
set_option autoImplicit false

namespace Statewright.Emission.Deterministic

def opening (spec : Spec) : Lines :=
  ["\"\"\"",
   spec.name ++ " state machine (deterministic model)",
   [],
   "Every state has its own machine class. A transition method exists only on",
   "the machine class of the state that declares it: calling it consumes the",
   "machine and returns the machine class of the destination state. Using a",
   "consumed machine raises ConsumedMachineError.",
   "\"\"\"",
   []]

def imports (spec : Spec) : Lines :=
  let abstractClasses : Lines := if spec.stateTrait.isSome then ["import abc"] else []
  let rest : Lines :=
    ["from dataclasses import dataclass, field",
     "from typing import Any, Generic, Optional, Tuple, Type, TypeVar",
     [],
     "from machine_factory.runtime import ConsumedMachineError, StateTagError"]
  abstractClasses ++ rest

def machineHeading (spec : Spec) : Lines :=
  ["class " ++ spec.name ++ "(Generic[_S]):",
   "    \"\"\"",
   "    " ++ spec.name ++ " machine holding a state value of type _S and the context",
   [],
   "    Create machines with " ++ spec.name ++ ".new(state, context), which picks the",
   "    machine class of the given state.",
   "    \"\"\"",
   [],
   "    __slots__ = ('_state', '_context', '_consumed')",
   [],
   "    STATE_TYPE: Optional[Type[Any]] = None",
   []]

def construction (spec : Spec) : Lines :=
  ["    def __init__(self, state: _S, context: " ++ spec.context ++ "):",
   "        if self.STATE_TYPE is None:",
   "            raise TypeError(\"use " ++ spec.name ++ ".new() to create a machine\")",
   "        if not isinstance(state, self.STATE_TYPE):",
   "            raise StateTagError(",
   "                f\"\x7btype(self).__name__\x7d holds \x7bself.STATE_TYPE.__name__\x7d, not \x7btype(state).__name__\x7d\")",
   "        self._state = state",
   "        self._context = context",
   "        self._consumed = False",
   []]

def creation (spec : Spec) : Lines :=
  ["    @staticmethod",
   "    def new(state: Any, context: " ++ spec.context ++ ") -> \"" ++ spec.name ++ "[Any]\":",
   "        \"\"\"Machine for state, typed by the class of state\"\"\"",
   "        machine_class = _MACHINE_CLASSES.get(type(state))",
   "        if machine_class is None:",
   "            raise StateTagError(f\"\x7btype(state).__name__\x7d is not a state of " ++ spec.name ++ "\")",
   "        return machine_class(state, context)",
   []]

def properties (spec : Spec) : Lines :=
  ["    @property",
   "    def context(self) -> " ++ spec.context ++ ":",
   "        self._check_alive()",
   "        return self._context",
   [],
   "    @property",
   "    def state(self) -> _S:",
   "        self._check_alive()",
   "        return self._state",
   []]

def endings (spec : Spec) : Lines :=
  ["    def into_context(self) -> " ++ spec.context ++ ":",
   "        \"\"\"Consume the machine and return its context\"\"\"",
   "        return self._consume()[1]",
   [],
   "    def into_state(self) -> _S:",
   "        \"\"\"Consume the machine and return its state value\"\"\"",
   "        return self._consume()[0]",
   [],
   "    def into_parts(self) -> Tuple[_S, " ++ spec.context ++ "]:",
   "        return self._consume()",
   []]

def liveness (spec : Spec) : Lines :=
  ["    def _check_alive(self):",
   "        if self._consumed:",
   "            raise ConsumedMachineError(f\"\x7btype(self).__name__\x7d was already consumed by a transition\")",
   [],
   "    def _consume(self) -> Tuple[_S, " ++ spec.context ++ "]:",
   "        self._check_alive()",
   "        self._consumed = True",
   "        parts = (self._state, self._context)",
   "        self._state = self._context = None",
   "        return parts",
   []]

def display : Lines :=
  ["    def __repr__(self):",
   "        if self._consumed:",
   "            return f\"<\x7btype(self).__name__\x7d (consumed)>\"",
   "        return f\"\x7btype(self).__name__\x7d(state=\x7bself._state!r\x7d, context=\x7bself._context!r\x7d)\""]

def baseMachine (spec : Spec) : Lines :=
  machineHeading spec ++ construction spec ++ creation spec ++ properties spec ++ endings spec ++ liveness spec ++
    display

def bodyName (state method : Text) : Text := "_body__" ++ state ++ "__" ++ method

def target? (transition : Transition) : Option Text :=
  match transition.target with
  | some [] => none
  | target => target

def bodyHeading (spec : Spec) (state : Text) (transition : Transition) : Text :=
  let returns : Text := match target? transition with
    | some target => " -> Optional[" ++ target ++ "]"
    | none => []
  "def " ++ bodyName state transition.trigger ++ "(state: " ++ state ++ ", context: " ++ spec.context ++
    commaBefore transition.params ++ ")" ++ returns ++ ":"

def bodyFunction (spec : Spec) (state : Text) (transition : Transition) : Lines :=
  [[], [], bodyHeading spec state transition] ++ margined 4 transition.body

def methodHeading (spec : Spec) (transition : Transition) : Text :=
  let returns : Text := match target? transition with
    | some target => " -> \"" ++ spec.name ++ target ++ "\""
    | none => []
  "    def " ++ transition.trigger ++ "(self" ++ commaBefore transition.params ++ ")" ++ returns ++ ":"

def bodyCall (state : Text) (transition : Transition) (arguments : Text) : Text :=
  let forwarded : Text := if transition.params.isEmpty then [] else ", " ++ arguments
  bodyName state transition.trigger ++ "(self._state, self._context" ++ forwarded ++ ")"

def machineMethod (spec : Spec) (state : Text) (transition : Transition) (arguments : Text) : Lines :=
  let call := bodyCall state transition arguments
  let rest : Lines := match target? transition with
    | some target =>
      ["        \"\"\"" ++ state ++ " -> " ++ target ++ ", consuming this machine\"\"\"",
       "        self._check_alive()",
       "        target = " ++ call,
       "        if target is None:",
       "            target = " ++ target ++ "()",
       "        # the source machine stays usable if the body or the tag check raises",
       "        machine = " ++ spec.name ++ target ++ "(target, self._context)",
       "        self._consume()",
       "        return machine"]
    | none =>
      ["        \"\"\"Update the context in place; the machine stays in " ++ state ++ "\"\"\"",
       "        self._check_alive()",
       "        return " ++ call]
  [] :: methodHeading spec transition :: rest

def machineMethods (spec : Spec) (state : Text) : List Transition → Code.Reading Lines
  | [] => .ok []
  | transition :: rest => do
    let arguments ← Code.forwardingText transition.params
    return machineMethod spec state transition arguments ++ (← machineMethods spec state rest)

def machineClass (spec : Spec) (state : State) : Code.Reading Lines :=
  let heading : Lines :=
    [[], [],
     "class " ++ spec.name ++ state.name ++ "(" ++ spec.name ++ "[" ++ state.name ++ "]):",
     "    \"\"\"" ++ spec.name ++ " in state " ++ state.name ++ "\"\"\"",
     [],
     "    __slots__ = ()",
     [],
     "    STATE_TYPE = " ++ state.name]
  (machineMethods spec state.name state.transitions).map fun methods =>
    state.transitions.flatMap (bodyFunction spec state.name) ++ heading ++ methods

def machineClasses (spec : Spec) : List State → Code.Reading Lines
  | [] => .ok []
  | state :: rest => do
    let lines ← machineClass spec state
    return lines ++ (← machineClasses spec rest)

def traitLines (spec : Spec) : Lines :=
  match spec.stateTrait with
  | some trait_ =>
    [] :: [] :: traitClass trait_.name trait_.bases (spec.traitMethods .state) ("State trait of " ++ spec.name)
  | none => []

def stateLines (spec : Spec) : Lines :=
  spec.states.flatMap fun state =>
    [] :: [] :: dataClass state.name (spec.traitName? .state) state.fields state.impls (spec.traitMethods .state)

def registry (spec : Spec) : Lines :=
  let rows : Lines := spec.states.map fun state => "    " ++ state.name ++ ": " ++ spec.name ++ state.name ++ ","
  [] :: [] :: Text.fixed "_MACHINE_CLASSES = \x7b" :: rows ++ [Text.fixed "\x7d"]

def exports (spec : Spec) : List Text :=
  let states := spec.states.map (·.name)
  let machines := if spec.isPublic then spec.name :: states.map (spec.name ++ ·) else []
  (spec.traitName? .state).toList ++ states ++ machines

def module (spec : Spec) : Code.Reading Lines :=
  (machineClasses spec spec.states).map fun classes =>
    opening spec ++ imports spec ++ preludeLines spec.prelude ++ [[]] ++ exportList (exports spec) ++
      traitLines spec ++ stateLines spec ++ [[], [], "_S = TypeVar('_S')", [], []] ++
      decorators spec.attributes ++ baseMachine spec ++ classes ++ registry spec

end Statewright.Emission.Deterministic
