import Statewright.Text.Basic

/-!
Steps and outcomes of a dispatch, and what can go wrong while machines run.
-/
set_option autoImplicit false

namespace Statewright.Machine

inductive Step where
  | preTransition
  | shouldExit
  | onExit
  | transition
  | onEnter
  | postTransition
deriving DecidableEq

namespace Step

def all : List Step := [preTransition, shouldExit, onExit, transition, onEnter, postTransition]

def number : Step → Nat
  | preTransition => 1
  | shouldExit => 2
  | onExit => 3
  | transition => 4
  | onEnter => 5
  | postTransition => 6

def name : Step → Text
  | preTransition => "PRE_TRANSITION"
  | shouldExit => "SHOULD_EXIT"
  | onExit => "ON_EXIT"
  | transition => "TRANSITION"
  | onEnter => "ON_ENTER"
  | postTransition => "POST_TRANSITION"

end Step

inductive Outcome where
  | transitioned
  | refused
  | unhandled
deriving DecidableEq

namespace Outcome

def label : Outcome → Text
  | transitioned => "transitioned"
  | refused => "refused"
  | unhandled => "unhandled"

def name : Outcome → Text
  | transitioned => "TRANSITIONED"
  | refused => "REFUSED"
  | unhandled => "UNHANDLED"

def isHandled : Outcome → Bool
  | unhandled => false
  | _ => true

end Outcome

-- What can go wrong. A `raised` fault comes from a body; `noName`, `noAttribute` and `mismatch` are a name, a part of
-- a value or a call that does not fit.
inductive Fault where
  | raised (message : Text)
  | noName
  | noAttribute
  | mismatch
  | consumed (machineClass : Text)
  | wrongState (machineClass expected actual : Text)
  | foreignState (actual machine : Text)
  | baseMachine (machine : Text)
  | noVariant (actual noun machine : Text)
  | interrupted (step : Step)
  | noEntry
  | cancelled
deriving DecidableEq

namespace Fault

def message? : Fault → Option Text
  | raised message => some message
  | noName => none
  | noAttribute => none
  | mismatch => none
  | consumed machineClass => some (machineClass ++ " was already consumed by a transition")
  | wrongState machineClass expected actual => some (machineClass ++ " holds " ++ expected ++ ", not " ++ actual)
  | foreignState actual machine => some (actual ++ " is not a state of " ++ machine)
  | baseMachine machine => some ("use " ++ machine ++ ".new() to create a machine")
  | noVariant actual noun machine => some (actual ++ " is not a valid " ++ noun ++ " of " ++ machine)
  | interrupted step =>
    some ("previous dispatch was interrupted at " ++ step.name ++
      "; the context may be partially updated, call recover() before dispatching again")
  | noEntry => none
  | cancelled => none

end Fault

end Statewright.Machine
