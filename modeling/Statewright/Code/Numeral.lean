import Statewright.Code.Token

/-!
Numerals: integers in four bases, with single underscores between digits, and the inexact forms with a point,
an exponent or an imaginary unit, whose value nothing here needs. A numeral may run into a following keyword
that can stand after an operand, and into no other letter.
-/
set_option autoImplicit false

namespace Statewright.Code.Numeral

def isWordChar (c : Char) : Bool := c.isAlphanum || c = '_' || 128 ≤ c.toNat

-- The digits that follow a digit, and the rest; nothing when an underscore is not followed by a digit.
def digits (isDigit : Char → Bool) : Text → Option (Text × Text)
  | [] => some ([], [])
  | ['_'] => none
  | '_' :: c :: rest =>
    if isDigit c then (digits isDigit rest).map fun (more, after) => (c :: more, after) else none
  | c :: rest =>
    if isDigit c then (digits isDigit rest).map fun (more, after) => (c :: more, after)
    else some ([], c :: rest)

def digitValue (c : Char) : Nat :=
  if c.isDigit then c.toNat - '0'.toNat
  else if c.isUpper then c.toNat - 'A'.toNat + 10
  else c.toNat - 'a'.toNat + 10

def valueOf (base : Nat) (all : Text) : Nat :=
  all.foldl (fun value c => value * base + digitValue c) 0

def mayStop : Text → Bool
  | 'a' :: 'n' :: 'd' :: _ => true
  | 'e' :: 'l' :: 's' :: 'e' :: _ => true
  | 'f' :: 'o' :: 'r' :: _ => true
  | 'i' :: 'f' :: _ => true
  | 'i' :: 'n' :: _ => true
  | 'i' :: 's' :: _ => true
  | 'o' :: 'r' :: _ => true
  | 'n' :: 'o' :: 't' :: _ => true
  | [] => true
  | c :: _ => !isWordChar c

def stopAt (value : Number) (rest : Text) : Option (Number × Text) :=
  if mayStop rest then some (value, rest) else none

def afterExponent : Text → Option (Number × Text)
  | 'j' :: rest => stopAt .inexact rest
  | 'J' :: rest => stopAt .inexact rest
  | rest => stopAt .inexact rest

-- Reads on after an exponent letter; without digits the letter belongs to what follows.
def exponent (value : Number) (letter : Char) : Text → Option (Number × Text)
  | '+' :: c :: rest => if c.isDigit then (digits Char.isDigit rest).bind (afterExponent ·.2) else none
  | '-' :: c :: rest => if c.isDigit then (digits Char.isDigit rest).bind (afterExponent ·.2) else none
  | ['+'] => none
  | ['-'] => none
  | c :: rest =>
    if c.isDigit then (digits Char.isDigit rest).bind (afterExponent ·.2)
    else stopAt value (letter :: c :: rest)
  | [] => stopAt value [letter]

def afterFraction : Text → Option (Number × Text)
  | 'e' :: rest => exponent .inexact 'e' rest
  | 'E' :: rest => exponent .inexact 'E' rest
  | rest => afterExponent rest

def fraction : Text → Option (Number × Text)
  | c :: rest =>
    if c.isDigit then (digits Char.isDigit rest).bind (afterFraction ·.2) else afterFraction (c :: rest)
  | [] => afterFraction []

def afterInteger (value : Nat) (plain : Bool) : Text → Option (Number × Text)
  | '.' :: rest => fraction rest
  | 'e' :: rest => exponent (.integer value) 'e' rest
  | 'E' :: rest => exponent (.integer value) 'E' rest
  | 'j' :: rest => stopAt .inexact rest
  | 'J' :: rest => stopAt .inexact rest
  | rest => if plain then stopAt (.integer value) rest else none

def ofBase (base : Nat) (isDigit : Char → Bool) (text : Text) : Option (Number × Text) :=
  let start := match text with
    | '_' :: rest => rest
    | rest => rest
  match start with
  | [] => none
  | c :: rest =>
    if isDigit c then
      (digits isDigit rest).bind fun (more, after) => stopAt (.integer (valueOf base (c :: more))) after
    else none

def isOctal (c : Char) : Bool := '0' ≤ c && c ≤ '7'
def isBinary (c : Char) : Bool := c = '0' || c = '1'
def isHex (c : Char) : Bool := c.isDigit || ('a' ≤ c && c ≤ 'f') || ('A' ≤ c && c ≤ 'F')

-- The numeral that a text beginning with a digit starts with, if it is well formed. A decimal integer other than zero
-- does not begin with a zero.
def read : Text → Option (Number × Text)
  | '0' :: 'x' :: rest => ofBase 16 isHex rest
  | '0' :: 'X' :: rest => ofBase 16 isHex rest
  | '0' :: 'o' :: rest => ofBase 8 isOctal rest
  | '0' :: 'O' :: rest => ofBase 8 isOctal rest
  | '0' :: 'b' :: rest => ofBase 2 isBinary rest
  | '0' :: 'B' :: rest => ofBase 2 isBinary rest
  | text =>
    (digits Char.isDigit text).bind fun (all, after) =>
      afterInteger (valueOf 10 all) (all.head? != some '0' || all.all (· = '0')) after

end Statewright.Code.Numeral
