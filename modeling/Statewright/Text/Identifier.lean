import Statewright.Text.UnicodeRanges
import Statewright.Text.Basic

/-!
Identifiers: a letter-like character or an underscore, then letters, marks, digits and connectors, as Unicode
classes them. A name is an identifier that is no reserved word; names joined by dots are a path.
-/
set_option autoImplicit false

namespace Statewright.Text

def startsIdentifier (c : Char) : Bool :=
  if c.toNat < 128 then c.isAlpha || c = '_' else inRanges identifierStarts c.toNat

def continuesIdentifier (c : Char) : Bool :=
  if c.toNat < 128 then c.isAlphanum || c = '_' else inRanges identifierParts c.toNat

def isIdentifier : Text → Bool
  | [] => false
  | c :: rest => startsIdentifier c && rest.all continuesIdentifier

end Statewright.Text
