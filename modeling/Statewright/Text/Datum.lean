import Statewright.Text.Quoted

/-!
Plain data, as it is handed in from outside, and its notation.
-/
set_option autoImplicit false

namespace Statewright

inductive Datum where
  | none_
  | bool (value : Bool)
  | number (value : Int)
  | text (value : Text)
  | list (items : List Datum)
  | record (entries : List (Text × Datum))
deriving Inhabited

namespace Datum

mutual

def shown : Datum → Text
  | none_ => "None"
  | bool value => if value then "True" else "False"
  | number value => Text.signed value
  | text value => Text.quoted value
  | list items => '[' :: Text.join ", " (shownItems items) ++ [']']
  | record entries => '\x7b' :: Text.join ", " (shownEntries entries) ++ ['\x7d']

def shownItems : List Datum → List Text
  | [] => []
  | item :: rest => shown item :: shownItems rest

def shownEntries : List (Text × Datum) → List Text
  | [] => []
  | (key, value) :: rest => (Text.quoted key ++ ": " ++ shown value) :: shownEntries rest

end

-- Text stands for itself; all else is shown.
def plain : Datum → Text
  | text value => value
  | value => shown value

def isVoid : Datum → Bool
  | none_ => true
  | bool value => !value
  | number value => value = 0
  | text value => value.isEmpty
  | list items => items.isEmpty
  | record entries => entries.isEmpty

def literal (datum : Datum) : Text := Text.quoted (if datum.isVoid then [] else datum.plain)

end Datum

end Statewright
