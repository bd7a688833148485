import Statewright.Markup.Characters

/-!
Encodings that a document may declare. A document arrives as UTF-8; when it declares a one-byte encoding, each of
its bytes is read as a character of that encoding.
-/
set_option autoImplicit false

namespace Statewright.Markup

inductive Encoding where
  | utf8
  | ascii
  | latin1
  | windows1252
deriving DecidableEq

namespace Encoding

def named : List (String × Encoding) :=
  [("utf-8", .utf8), ("utf8", .utf8), ("ascii", .ascii), ("us-ascii", .ascii), ("us", .ascii),
   ("iso646-us", .ascii), ("iso-8859-1", .latin1), ("iso_8859-1", .latin1), ("iso8859-1", .latin1),
   ("iso-latin-1", .latin1), ("latin1", .latin1), ("latin-1", .latin1), ("l1", .latin1), ("cp819", .latin1),
   ("ibm819", .latin1), ("windows-1252", .windows1252), ("cp1252", .windows1252)]

def ofName? (name : Text) : Option Encoding :=
  (named.find? fun entry => Text.fixed entry.1 == name.map Char.toLower).map (·.2)

def upperControls : List Nat :=
  [0x20ac, 0x81, 0x201a, 0x192, 0x201e, 0x2026, 0x2020, 0x2021, 0x2c6, 0x2030, 0x160, 0x2039, 0x152, 0x8d, 0x17d,
   0x8f, 0x90, 0x2018, 0x2019, 0x201c, 0x201d, 0x2022, 0x2013, 0x2014, 0x2dc, 0x2122, 0x161, 0x203a, 0x153, 0x9d,
   0x17e, 0x178]

def decodeByte : Encoding → UInt8 → Char
  | .windows1252, byte =>
    if 128 ≤ byte.toNat && byte.toNat < 160 then Char.ofNat (upperControls.getD (byte.toNat - 128) 0)
    else Char.ofNat byte.toNat
  | _, byte => Char.ofNat byte.toNat

-- The document as the encoding reads it. A character outside ASCII becomes a null character, which no document may
-- hold, where the encoding has no place for it.
def reread (encoding : Encoding) (text : Text) : Text :=
  match encoding with
  | .utf8 => text
  | .ascii => text.map fun c => if c.toNat < 128 then c else Char.ofNat 0
  | _ => text.flatMap fun c => if c.toNat < 128 then [c] else (bytesOf c).map (decodeByte encoding)

end Encoding

end Statewright.Markup
