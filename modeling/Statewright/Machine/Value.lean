import Statewright.Machine.Basic
import Statewright.Text.Datum

/-!
Values of running machines. An object is a value of a state or an event class; a variant is such a value wrapped by
an enumeration. Contexts and machines have an identity and are referred to by number.
-/
set_option autoImplicit false

namespace Statewright.Machine

inductive Value where
  | none_
  | bool (value : Bool)
  | number (value : Int)
  | text (value : Text)
  | list (items : List Value)
  | tuple (items : List Value)
  | record (entries : List (Text × Value))
  | object (type : Text) (fields : List (Text × Value))
  | variant (enumeration type : Text) (fields : List (Text × Value))
  | outcome (value : Outcome)
  | step (value : Step)
  -- The call of an asynchronous method that has not been awaited.
  | pending
  | context (id : Nat)
  | machine (id : Nat)
deriving Inhabited

namespace Value

mutual

def ofDatum : Datum → Value
  | .none_ => none_
  | .bool value => bool value
  | .number value => number value
  | .text value => text value
  | .list items => list (ofItems items)
  | .record entries => record (ofEntries entries)

def ofItems : List Datum → List Value
  | [] => []
  | item :: rest => ofDatum item :: ofItems rest

def ofEntries : List (Text × Datum) → List (Text × Value)
  | [] => []
  | (key, item) :: rest => (key, ofDatum item) :: ofEntries rest

end

def typeName (machineClass : Nat → Text) : Value → Text
  | none_ => "NoneType"
  | bool _ => "bool"
  | number _ => "int"
  | text _ => "str"
  | list _ => "list"
  | tuple _ => "tuple"
  | record _ => "dict"
  | object type _ => type
  | variant enumeration _ _ => enumeration
  | outcome _ => "DispatchOutcome"
  | step _ => "DispatchStep"
  | pending => "coroutine"
  | context _ => "list"
  | machine id => machineClass id

def isOf (type : Text) : Value → Bool
  | object own _ => own == type
  | _ => false

def isTrue : Value → Bool
  | none_ => false
  | bool value => value
  | number value => value != 0
  | text value => !value.isEmpty
  | list items => !items.isEmpty
  | tuple items => !items.isEmpty
  | record entries => !entries.isEmpty
  | _ => true

def count? : Value → Option Int
  | bool value => some (if value then 1 else 0)
  | number value => some value
  | _ => none

mutual

-- Equality of values. Objects are equal if they are of one class with equal fields.
def same : Value → Value → Bool
  | none_, none_ => true
  | bool a, b => b.count? == some (if a then 1 else 0)
  | number a, b => b.count? == some a
  | text a, text b => a == b
  | list a, list b => sameItems a b
  | tuple a, tuple b => sameItems a b
  | record a, record b => a.length == b.length && sameEntries a b
  | object s a, object t b => s == t && sameFields a b
  | variant e s a, variant f t b => e == f && s == t && sameFields a b
  | outcome a, outcome b => a == b
  | step a, step b => a == b
  | context a, context b => a == b
  | machine a, machine b => a == b
  | _, _ => false

def sameItems : List Value → List Value → Bool
  | [], [] => true
  | a :: as, b :: bs => same a b && sameItems as bs
  | _, _ => false

def sameFields : List (Text × Value) → List (Text × Value) → Bool
  | [], [] => true
  | (j, a) :: as, (k, b) :: bs => j == k && same a b && sameFields as bs
  | _, _ => false

def sameEntries : List (Text × Value) → List (Text × Value) → Bool
  | [], _ => true
  | (key, a) :: rest, entries =>
    (match entries.find? (·.1 == key) with
      | some (_, b) => same a b
      | none => false) && sameEntries rest entries

end

mutual

def shownBy (context_ machine_ : Nat → Text) : Value → Text
  | none_ => "None"
  | bool value => if value then "True" else "False"
  | number value => Text.signed value
  | text value => Text.quoted value
  | list items => '[' :: Text.join ", " (shownItems context_ machine_ items) ++ [']']
  | tuple items =>
    match items with
    | [item] => '(' :: shownBy context_ machine_ item ++ [',', ')']
    | items => '(' :: Text.join ", " (shownItems context_ machine_ items) ++ [')']
  | record entries => '\x7b' :: Text.join ", " (shownEntries context_ machine_ entries) ++ ['\x7d']
  | object type fields => type ++ '(' :: Text.join ", " (shownFields context_ machine_ fields) ++ [')']
  | variant enumeration type fields =>
    enumeration ++ '.' :: type ++ '(' :: type ++ '(' :: Text.join ", " (shownFields context_ machine_ fields) ++
      [')', ')']
  | outcome value => "<DispatchOutcome." ++ value.name ++ ": " ++ Text.quoted value.label ++ ">"
  | step value => "<DispatchStep." ++ value.name ++ ": " ++ Text.numeral value.number ++ ">"
  | pending => "<coroutine>"
  | context id => context_ id
  | machine id => machine_ id

def shownItems (context_ machine_ : Nat → Text) : List Value → List Text
  | [] => []
  | item :: rest => shownBy context_ machine_ item :: shownItems context_ machine_ rest

def shownEntries (context_ machine_ : Nat → Text) : List (Text × Value) → List Text
  | [] => []
  | (key, item) :: rest =>
    (Text.quoted key ++ ": " ++ shownBy context_ machine_ item) :: shownEntries context_ machine_ rest

def shownFields (context_ machine_ : Nat → Text) : List (Text × Value) → List Text
  | [] => []
  | (name, item) :: rest =>
    (name ++ '=' :: shownBy context_ machine_ item) :: shownFields context_ machine_ rest

end

end Value

end Statewright.Machine
