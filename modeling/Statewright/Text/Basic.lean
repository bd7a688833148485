/-!
Text as a list of characters, with the few list operations that every reader and printer below shares:
fixed words, joining, splitting at a mark, and decimal numerals. Lists are used rather than strings so
that each law is an induction and each closed instance evaluates.
-/
set_option autoImplicit false

namespace Statewright

abbrev Text := List Char

namespace Text

-- Fixed wording is ASCII, where each byte is one character.
def fixed (word : String) : Text :=
  word.toByteArray.data.toList.map fun byte => Char.ofNat byte.toNat

end Text

instance : Coe String Text where
  coe := Text.fixed

namespace Text

def join (between : Text) : List Text → Text
  | [] => []
  | [piece] => piece
  | piece :: rest => piece ++ between ++ join between rest

def splitAt (mark : Char) : Text → List Text
  | [] => [[]]
  | c :: rest =>
    if c = mark then [] :: splitAt mark rest
    else match splitAt mark rest with
      | [] => [[c]]
      | piece :: pieces => (c :: piece) :: pieces

def after? : (start : Text) → Text → Option Text
  | [], text => some text
  | _ :: _, [] => none
  | a :: start, c :: text => if a = c then after? start text else none

def beginsWith (start text : Text) : Bool := (after? start text).isSome

def numeral (n : Nat) : Text := Nat.toDigits 10 n

def signed : Int → Text
  | .ofNat n => numeral n
  | .negSucc n => '-' :: numeral (n + 1)

def spaces (width : Nat) : Text := List.replicate width ' '

theorem after?_append (start rest : Text) : after? start (start ++ rest) = some rest := by
  induction start with
  | nil => rfl
  | cons c start ih => simp [after?, ih]

theorem eq_append_of_after? {start text rest : Text} (h : after? start text = some rest) :
    text = start ++ rest := by
  induction start generalizing text with
  | nil => simpa [after?] using h
  | cons a start ih =>
    cases text with
    | nil => simp [after?] at h
    | cons c text =>
      by_cases same : a = c
      · subst same
        simpa using ih (by simpa [after?] using h)
      · simp [after?, same] at h

end Text

end Statewright
