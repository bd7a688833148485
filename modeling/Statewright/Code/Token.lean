import Statewright.Text.Basic

/-!
Tokens of the code that a specification carries and of the modules generated from it. A token knows the line it
stands on (for a string, the line where it begins) and how many brackets are open around it. A list of tokens
ends with `finish`, or with `broken` at the place where no further token can be told apart.
-/
set_option autoImplicit false

namespace Statewright.Code

inductive Keyword where
  | false_ | none_ | true_ | and_ | as_ | assert_ | async_ | await_ | break_ | class_ | continue_ | def_
  | del_ | elif_ | else_ | except_ | finally_ | for_ | from_ | global_ | if_ | import_ | in_ | is_ | lambda_
  | nonlocal_ | not_ | or_ | pass_ | raise_ | return_ | try_ | while_ | with_ | yield_
deriving DecidableEq

def keywords : List (String × Keyword) :=
  [("False", .false_), ("None", .none_), ("True", .true_), ("and", .and_), ("as", .as_), ("assert", .assert_),
   ("async", .async_), ("await", .await_), ("break", .break_), ("class", .class_), ("continue", .continue_),
   ("def", .def_), ("del", .del_), ("elif", .elif_), ("else", .else_), ("except", .except_),
   ("finally", .finally_), ("for", .for_), ("from", .from_), ("global", .global_), ("if", .if_),
   ("import", .import_), ("in", .in_), ("is", .is_), ("lambda", .lambda_), ("nonlocal", .nonlocal_),
   ("not", .not_), ("or", .or_), ("pass", .pass_), ("raise", .raise_), ("return", .return_), ("try", .try_),
   ("while", .while_), ("with", .with_), ("yield", .yield_)]

def keyword? (word : Text) : Option Keyword :=
  (keywords.find? fun entry => Text.fixed entry.1 == word).map (·.2)

inductive Bracket where
  | round | square | curly
deriving DecidableEq

inductive Mark where
  | opening (bracket : Bracket) | closing (bracket : Bracket)
  | comma | colon | dot | semicolon | equals | arrow | walrus | ellipsis | at_
  | plus | minus | star | slash | doubleSlash | percent | doubleStar | shiftLeft | shiftRight
  | ampersand | bar | caret | tilde
  | less | greater | lessEqual | greaterEqual | equal | notEqual
  | augmented
  | unknown
deriving DecidableEq

inductive Number where
  | integer (value : Nat)
  | inexact
deriving DecidableEq

structure Literal where
  raw : Bool
  bytes : Bool
  formatted : Bool
  unicode : Bool
  line : Nat
  body : Text
deriving DecidableEq

-- Where and how the text stops making tokens. A stop that `insists` is reported even when reading has already failed
-- before it; `open?` is the line of the innermost bracket still open.
structure Break where
  line : Nat
  insists : Bool
  open? : Option Nat
deriving DecidableEq

inductive Lexeme where
  | name (id : Text)
  | keyword (word : Keyword)
  | mark (mark : Mark)
  | number (value : Number)
  | string (literal : Literal)
  | newline
  | indent
  | dedent
  | finish
  | broken (stop : Break)
deriving DecidableEq

structure Token where
  lexeme : Lexeme
  line : Nat
  depth : Nat
deriving DecidableEq

end Statewright.Code
