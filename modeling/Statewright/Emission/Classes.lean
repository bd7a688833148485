import Statewright.Spec.Traits
import Statewright.Text.Block
import Statewright.Text.Quoted
import Statewright.Code.Fragment

/-!
The classes that both kinds of generated modules are made of, as lists of lines: traits, data classes, and
enumerations that wrap their values. Each class ends with an empty line of its own.
-/
set_option autoImplicit false

namespace Statewright.Emission

abbrev Lines := List Text

def textOf (all : Lines) : Text := all.flatMap (· ++ ['\n'])

def margined (width : Nat) (body : Text) : Lines := Text.splitAt '\n' (Text.Block.indent width body)

def commaBefore (params : Text) : Text := if params.isEmpty then [] else ", " ++ params

def asyncWord (isAsync : Bool) : Text := if isAsync then "async " else []

def awaitWord (isAsync : Bool) : Text := if isAsync then "await " else []

def returnsAfter (returns : Text) : Text := if returns.isEmpty then [] else " -> " ++ returns

def signature (method : Resolved) : Text :=
  asyncWord method.isAsync ++ "def " ++ method.name ++ "(self" ++ commaBefore method.params ++ ")" ++
    returnsAfter method.returns ++ ":"

def fieldLine (field : Field) : Text :=
  let type : Text := if field.type.isEmpty then "Any" else field.type
  let value : Text := match field.default, field.factory with
    | some code, _ => " = " ++ code
    | none, some code => " = field(default_factory=" ++ code ++ ")"
    | none, none => []
  field.name ++ ": " ++ type ++ value

def abstractMethod (method : Resolved) : Lines :=
  [[], "    @abc.abstractmethod", "    " ++ signature method, "        raise NotImplementedError"]

def fullMethod (method : Resolved) (body : Text) : Lines :=
  ([[], "    " ++ signature method] : Lines) ++ margined 8 body

def traitMethod (method : Resolved) : Lines :=
  if method.isAbstract then abstractMethod method else fullMethod method method.body

def traitClass (name : Text) (bases : List Text) (methods : List Resolved) (doc : Text) : Lines :=
  let head : Lines :=
    ["class " ++ name ++ "(" ++ Text.join ", " (bases ++ [Text.fixed "abc.ABC"]) ++ "):",
     "    \"\"\"" ++ doc ++ "\"\"\""]
  head ++ methods.flatMap traitMethod ++ [[]]

def implMethod (methods : List Resolved) (impl : Method) : Lines :=
  match methods.find? (·.name == impl.name) with
  | some method => fullMethod method impl.body
  | none => []

def dataClass (name : Text) (base : Option Text) (fields : List Field) (impls : List Method)
    (methods : List Resolved) : Lines :=
  let base : Text := match base with
    | some base => "(" ++ base ++ ")"
    | none => []
  let head : Lines := ["@dataclass", "class " ++ name ++ base ++ ":"]
  let filler : Lines := if fields.isEmpty && impls.isEmpty then ["    pass"] else []
  head ++ filler ++ fields.map (fun field => "    " ++ fieldLine field) ++ impls.flatMap (implMethod methods) ++ [[]]

structure Wrapping where
  enumeration : Enumeration
  members : List Text
  methods : List Resolved
  side : Side
  machine : Text

namespace Wrapping

def noun (wrapping : Wrapping) : Text :=
  match wrapping.side with
  | .state => "state"
  | .event => "event"

def registry (wrapping : Wrapping) : Text :=
  match wrapping.side with
  | .state => "_STATE_VARIANTS"
  | .event => "_EVENT_VARIANTS"

end Wrapping

def delegate (method : Resolved) (arguments : Text) : Lines :=
  [[], "    " ++ signature method,
   "        return " ++ awaitWord method.isAsync ++ "self._value." ++ method.name ++ "(" ++ arguments ++ ")"]

def delegates : List Resolved → Code.Reading Lines
  | [] => .ok []
  | method :: rest => do
    let arguments ← Code.forwardingText method.params
    return delegate method arguments ++ (← delegates rest)

def decorators (attributes : List Text) : Lines := attributes.map ('@' :: ·)

namespace Wrapping

def name (wrapping : Wrapping) : Text := wrapping.enumeration.name

def union (wrapping : Wrapping) : Text := "Union[" ++ Text.join ", " wrapping.members ++ "]"

def memberTexts (wrapping : Wrapping) : Text :=
  wrapping.members.flatMap fun member => Text.quoted member ++ [',', ' ']

def heading (wrapping : Wrapping) : Lines :=
  ["class " ++ wrapping.name ++ ":",
   "    \"\"\"" ++ wrapping.side.label ++ " enumeration of " ++ wrapping.machine ++ ", one variant per " ++
     wrapping.noun ++ " type\"\"\"",
   [],
   "    __slots__ = ('_value',)",
   [],
   "    VARIANTS = (" ++ wrapping.memberTexts ++ ")",
   []]

def construction (wrapping : Wrapping) : Lines :=
  ["    def __init__(self, value: " ++ wrapping.union ++ "):",
   "        if type(value) not in " ++ wrapping.registry ++ ":",
   "            raise VariantError(f\"\x7btype(value).__name__\x7d is not a valid " ++ wrapping.noun ++ " of " ++
     wrapping.machine ++ "\")",
   "        self._value = value",
   []]

def conversion (wrapping : Wrapping) : Lines :=
  ["    @classmethod",
   "    def of(cls, value: Any) -> \"" ++ wrapping.name ++ "\":",
   "        \"\"\"Wrap a bare " ++ wrapping.noun ++ " value; enumeration values are returned unchanged\"\"\"",
   "        if isinstance(value, cls):",
   "            return value",
   "        return cls(value)",
   []]

def properties (wrapping : Wrapping) : Lines :=
  ["    @property",
   "    def variant(self) -> str:",
   "        return " ++ wrapping.registry ++ "[type(self._value)]",
   [],
   "    @property",
   "    def value(self) -> " ++ wrapping.union ++ ":",
   "        return self._value",
   []]

def comparison (wrapping : Wrapping) : Lines :=
  ["    def __eq__(self, other):",
   "        if isinstance(other, " ++ wrapping.name ++ "):",
   "            return self._value == other._value",
   "        return NotImplemented",
   [],
   "    def __hash__(self):",
   "        # equal values always share a variant; the value itself may be unhashable",
   "        return hash(" ++ wrapping.registry ++ "[type(self._value)])",
   []]

def display (wrapping : Wrapping) : Lines :=
  ["    def __repr__(self):",
   "        return f\"" ++ wrapping.name ++ ".\x7bself.variant\x7d(\x7bself._value!r\x7d)\""]

def fixedLines (wrapping : Wrapping) : Lines :=
  decorators wrapping.enumeration.attributes ++ wrapping.heading ++ wrapping.construction ++ wrapping.conversion ++
    wrapping.properties ++ wrapping.comparison ++ wrapping.display

end Wrapping

def enumerationClass (wrapping : Wrapping) : Code.Reading Lines :=
  (delegates wrapping.methods).map fun methods => wrapping.fixedLines ++ methods ++ [[]]

def exportList (names : List Text) : Lines :=
  let rows : Lines := names.map fun name => "    " ++ Text.quoted name ++ ","
  Text.fixed "__all__ = [" :: rows ++ [Text.fixed "]"]

def preludeLines (prelude : Text) : Lines := if prelude.isEmpty then [] else [] :: Text.splitAt '\n' prelude

end Statewright.Emission
