import Statewright.Text.Basic

/-!
Markup documents as trees. An element knows the line on which its start tag ends. Its content keeps character
data in order, joined across dropped comments and character data sections, together with what interrupts it:
elements, processing instructions, and references that are not expanded.
-/
set_option autoImplicit false

namespace Statewright.Markup

mutual

inductive Element where
  | mk (name : Text) (attributes : List (Text × Text)) (line : Nat) (content : List Node)

inductive Node where
  | element (value : Element)
  | text (value : Text)
  | instruction
  | reference (name : Text)

end

namespace Element

def name : Element → Text
  | mk name _ _ _ => name

def attributes : Element → List (Text × Text)
  | mk _ attributes _ _ => attributes

def line : Element → Nat
  | mk _ _ line _ => line

def content : Element → List Node
  | mk _ _ _ content => content

def attribute? (element : Element) (key : Text) : Option Text := element.attributes.lookup key

end Element

namespace Node

def element? : Node → Option Element
  | .element value => some value
  | _ => none

def text? : Node → Option Text
  | .text value => some value
  | _ => none

end Node

namespace Element

def children (element : Element) : List Element := element.content.filterMap Node.element?

-- The character data up to the first node of another kind.
def leading : List Node → Text
  | .text value :: rest => value ++ leading rest
  | _ => []

def leadingText (element : Element) : Text :=
  leading element.content

def allText (element : Element) : Text := (element.content.filterMap Node.text?).flatten

end Element

end Statewright.Markup
