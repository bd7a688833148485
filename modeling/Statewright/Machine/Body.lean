import Statewright.Code.Tree
import Statewright.Machine.Binding
import Statewright.Machine.Run
import Statewright.Machine.Value

/-!
What bodies do. A body reads its parameters, builds objects, adds to the context and asks what is in it, and returns
or raises; `await Pause()` lets others act before it goes on. Other forms of code are read for their grammar only, and
running one is a mismatch.
-/
set_option autoImplicit false

namespace Statewright.Machine

open Code (Expr Argument Stmt)

abbrev Contents := List Value

abbrev Locals := List (Text × Value)

-- A class that leaves a method of its trait abstract makes no objects.
structure DataClass where
  name : Text
  slots : List (Slot Value)
  isAbstract : Bool := false

namespace Bound

def value : Bound Value → Value
  | one value => value
  | rest values => .tuple values
  | keywords entries => .record entries

end Bound

def locals (bindings : List (Text × Bound Value)) : Locals := bindings.map fun (name, bound) => (name, bound.value)

namespace DataClass

def formals (dataClass : DataClass) : Formals Value := { positional := dataClass.slots }

def create (dataClass : DataClass) (arguments : Arguments Value) : Except Fault Value :=
  if dataClass.isAbstract then .error .mismatch
  else match dataClass.formals.bind arguments with
    | some bindings => .ok (.object dataClass.name (locals bindings))
    | none => .error .mismatch

end DataClass

def createIn (classes : List DataClass) (name : Text) (arguments : Arguments Value) : Except Fault Value :=
  match classes.find? (·.name == name) with
  | some dataClass => dataClass.create arguments
  | none => .error .noName

def constant : Code.Constant → Value
  | .none_ => .none_
  | .true_ => .bool true
  | .false_ => .bool false
  | .number (.integer value) => .number value
  | .text value _ => .text value
  | _ => .none_

namespace Value

def part (name : Text) : Value → Except Fault Value
  | object _ fields => match named? fields name with
    | some value => .ok value
    | none => .error .noAttribute
  | variant _ type fields =>
    if name == "variant" then .ok (text type)
    else if name == "value" then .ok (object type fields)
    else .error .noAttribute
  | _ => .error .noAttribute

def holds (items : List Value) (value : Value) : Bool := items.any value.same

-- What a star makes positional arguments of.
def items (contents : Contents) : Value → Except Fault (List Value)
  | context _ => .ok contents
  | list items => .ok items
  | tuple items => .ok items
  | record entries => .ok (entries.map fun (key, _) => text key)
  | text whole => .ok (whole.map fun c => text [c])
  | _ => .error .mismatch

-- What two stars make named arguments of.
def entries : Value → Except Fault (List (Text × Value))
  | record entries => .ok entries
  | _ => .error .mismatch

def isInside (part : Text) : Text → Bool
  | [] => part.isEmpty
  | c :: rest => Text.beginsWith part (c :: rest) || isInside part rest

def isAmong (contents : Contents) (value : Value) : Value → Except Fault Bool
  | context _ => .ok (holds contents value)
  | list items => .ok (holds items value)
  | tuple items => .ok (holds items value)
  | record entries => .ok (holds (entries.map fun (key, _) => text key) value)
  | text whole => match value with
    | text part => .ok (isInside part whole)
    | _ => .error .mismatch
  | _ => .error .mismatch

-- Whether two values are one; only the values that there is one of can be.
def isOne : Value → Value → Bool
  | none_, none_ => true
  | bool a, bool b => a == b
  | _, _ => false

def relate (contents : Contents) (left right : Value) : Code.Relation → Except Fault Bool
  | .equal => .ok (left.same right)
  | .notEqual => .ok (!left.same right)
  | .among => isAmong contents left right
  | .notAmong => (isAmong contents left right).map (!·)
  | .same => .ok (isOne left right)
  | .notSame => .ok (!isOne left right)
  | _ => .error .mismatch

-- Truth of a value in a body; a context is true as soon as it holds something.
def isTrueIn (contents : Contents) : Value → Bool
  | context _ => !contents.isEmpty
  | value => value.isTrue

def negative : Value → Except Fault Value
  | number value => .ok (number (-value))
  | bool value => .ok (number (if value then -1 else 0))
  | _ => .error .mismatch

def plain : Value → Text
  | text value => value
  | value => value.shownBy (fun _ => "[...]") (fun _ => "...")

end Value

open Routine

mutual

def evaluate (classes : List DataClass) (known : Locals) : Expr → Routine Contents Value
  | .name id => match named? known id with
    | some value => pure value
    | none => fail .noName
  | .constant value => pure (constant value)
  | .attribute owner name => do
    let value ← evaluate classes known owner
    ofExcept (value.part name)
  | .call callee arguments => do
    match callee with
    | .name id =>
      if (named? known id).isSome then fail .mismatch
      else if classes.any (·.name == id) then
        let given ← evaluateArguments classes known arguments
        ofExcept (createIn classes id given)
      else fail .noName
    | .attribute owner name =>
      match ← evaluate classes known owner with
      | .context _ =>
        if name == "append" then
          let given ← evaluateArguments classes known arguments
          match given.positional, given.named with
          | [value], [] => do
            change (· ++ [value])
            return .none_
          | _, _ => fail .mismatch
        else fail .noAttribute
      | value => do
        let _ ← ofExcept (value.part name)
        fail .mismatch
    | _ => fail .mismatch
  | .compare left relation right => do
    let left ← evaluate classes known left
    let right ← evaluate classes known right
    let contents ← current
    return .bool (← ofExcept (left.relate contents right relation))
  | .sequence items bracket => do
    let values ← evaluateItems classes known items
    match bracket with
    | .square => return .list values
    | .round => return .tuple values
    | .curly => fail .mismatch
  | .awaited value => match value with
    | .call (.name id) [] => if id == "Pause" then pause >>= fun _ => pure .none_ else fail .mismatch
    | _ => fail .mismatch
  | .negative value => do
    let value ← evaluate classes known value
    ofExcept value.negative
  | .inverse value => do
    let value ← evaluate classes known value
    let contents ← current
    return .bool (!value.isTrueIn contents)
  | .subscript _ => fail .mismatch
  | .starred _ => fail .mismatch
  | .other => fail .mismatch

def evaluateItems (classes : List DataClass) (known : Locals) : List Expr → Routine Contents (List Value)
  | [] => pure []
  | item :: rest => do
    let value ← evaluate classes known item
    let values ← evaluateItems classes known rest
    return value :: values

def evaluateArguments (classes : List DataClass) (known : Locals) :
    List Argument → Routine Contents (Arguments Value)
  | [] => pure {}
  | .positional item :: rest => do
    let value ← evaluate classes known item
    let given ← evaluateArguments classes known rest
    return { given with positional := value :: given.positional }
  | .named name item :: rest => do
    let value ← evaluate classes known item
    let given ← evaluateArguments classes known rest
    return { given with named := (name, value) :: given.named }
  | .unpacked item :: rest => do
    let value ← evaluate classes known item
    let items ← ofExcept (value.items (← current))
    let given ← evaluateArguments classes known rest
    return { given with positional := items ++ given.positional }
  | .mapped item :: rest => do
    let value ← evaluate classes known item
    let entries ← ofExcept value.entries
    let given ← evaluateArguments classes known rest
    return { given with named := entries ++ given.named }

end

def raisable : Text := "ValueError"

def raisedMessage : List Value → Text
  | [] => []
  | [value] => value.plain
  | values => (Value.tuple values).plain

def raise (classes : List DataClass) (known : Locals) : Expr → Routine Contents (Option Value)
  | .name id => if id == raisable then fail (.raised []) else fail .mismatch
  | .call (.name id) arguments =>
    if id == raisable then do
      let given ← evaluateArguments classes known arguments
      fail (.raised (raisedMessage given.positional))
    else fail .mismatch
  | _ => fail .mismatch

mutual

def execute (classes : List DataClass) (known : Locals) : Stmt → Routine Contents (Option Value)
  | .pass_ => pure none
  | .expr value => do
    let _ ← evaluate classes known value
    return none
  | .return_ none => pure (some .none_)
  | .return_ (some value) => do
    let value ← evaluate classes known value
    return some value
  | .raise_ none => fail .mismatch
  | .raise_ (some value) => raise classes known value
  | .if_ condition body otherwise => do
    let value ← evaluate classes known condition
    let contents ← current
    if value.isTrueIn contents then executeAll classes known body else executeAll classes known otherwise
  | .define _ _ _ => fail .mismatch
  | .other => fail .mismatch

def executeAll (classes : List DataClass) (known : Locals) : List Stmt → Routine Contents (Option Value)
  | [] => pure none
  | statement :: rest => do
    match ← execute classes known statement with
    | some value => return some value
    | none => executeAll classes known rest

end

end Statewright.Machine
