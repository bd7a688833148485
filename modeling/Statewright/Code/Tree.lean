import Statewright.Code.Token

/-!
Code as a tree. The forms that machine bodies are run with, and those that decide what may be assigned to, have
constructors of their own; every other form is read for its grammar only and is `other`.
-/
set_option autoImplicit false

namespace Statewright.Code

inductive Constant where
  | none_ | true_ | false_ | ellipsis
  | number (value : Number)
  | text (value : Text) (marked : Bool)
  | bytes
deriving DecidableEq

inductive Relation where
  | equal | notEqual | less | lessEqual | greater | greaterEqual | among | notAmong | same | notSame
deriving DecidableEq

mutual

inductive Expr where
  | name (id : Text)
  | constant (value : Constant)
  | attribute (owner : Expr) (name : Text)
  | subscript (owner : Expr)
  | call (callee : Expr) (arguments : List Argument)
  | compare (left : Expr) (relation : Relation) (right : Expr)
  | starred (value : Expr)
  | sequence (items : List Expr) (bracket : Bracket)
  | awaited (value : Expr)
  | negative (value : Expr)
  | inverse (value : Expr)
  | other

inductive Argument where
  | positional (value : Expr)
  | unpacked (value : Expr)
  | named (name : Text) (value : Expr)
  | mapped (value : Expr)

end

structure Param where
  name : Text
  hint : Option Expr
  default : Option Expr

structure Params where
  positionalOnly : List Param
  positional : List Param
  rest : Option Param
  keywordOnly : List Param
  keywords : Option Param

-- A name with its type, and with a value or none.
structure Declaration where
  name : Text
  hint : Expr
  value : Option Expr

inductive Stmt where
  | pass_
  | expr (value : Expr)
  | return_ (value : Option Expr)
  | raise_ (value : Option Expr)
  | if_ (condition : Expr) (body : List Stmt) (otherwise : List Stmt)
  | define (name : Text) (params : Params) (body : List Stmt)
  | other

namespace Params

def all (params : Params) : List Param :=
  params.positionalOnly ++ params.positional ++ params.rest.toList ++ params.keywordOnly ++
    params.keywords.toList

def names (params : Params) : List Text := params.all.map (·.name)

def dropFirst (params : Params) : Params :=
  match params.positionalOnly with
  | _ :: more => { params with positionalOnly := more }
  | [] => { params with positional := params.positional.drop 1 }

end Params

end Statewright.Code
