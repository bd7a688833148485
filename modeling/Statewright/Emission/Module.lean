import Statewright.Emission.Deterministic
import Statewright.Emission.EventDriven
import Statewright.Spec.Reading
import Statewright.Validation.Verdict

/-!
Generated modules. A specification is validated, its table built, its module written; a module that is no valid
code is never handed out.
-/
set_option autoImplicit false

namespace Statewright

inductive Failure where
  | shape (misshape : Misshape)
  | rejected (rejection : Rejection)
  -- A parameter list that can be read after the object's own parameter but not alone.
  | forwarding
  | invalidModule (machine : Text)
deriving DecidableEq

namespace Failure

def invalidModuleText (machine : Text) : Text :=
  "generated module for '" ++ machine ++ "' is not valid Python (<python>)"

end Failure

namespace Spec

-- A validated event-driven specification has a table; a deterministic one has none.
def prepare (spec : Spec) : Except Rejection (Option Table) := do
  spec.validate
  if !spec.isEventDriven then return none
  match spec.table with
  | .ok table => return some table
  | .error (.repeated state transition) =>
    violate .repeatedPair (Validation.pairElement state transition.trigger) transition.line
  | .error (.deterministic _) => return none

def moduleLines (spec : Spec) (table : Option Table) : Code.Reading Emission.Lines :=
  match spec.kind, spec.stateEnum, spec.eventEnum, table with
  | .eventDriven, some stateEnum, some eventEnum, some table =>
    Emission.EventDriven.module ⟨spec, stateEnum, eventEnum, table⟩
  | _, _, _, _ => Emission.Deterministic.module spec

def moduleText (spec : Spec) (lines : Emission.Lines) : Text :=
  let source := (Emission.label? spec.source).map Emission.fileName
  Emission.header source ++ ['\n'] ++ Emission.textOf lines

-- A text is handed out as the module of a specification only if it is valid code.
def checkModule (spec : Spec) (text : Text) : Except Failure Text :=
  match Code.readStatements text with
  | .ok _ => .ok text
  | .error _ => .error (.invalidModule spec.name)

def emit (spec : Spec) (table : Option Table) : Except Failure Text :=
  match spec.moduleLines table with
  | .error _ => .error .forwarding
  | .ok lines => spec.checkModule (spec.moduleText lines)

def render (spec : Spec) : Except Failure Text :=
  match spec.prepare with
  | .error rejection => .error (.rejected rejection)
  | .ok table => spec.emit table

end Spec

def renderText (text : Text) (source : Option Text) : Except Failure Text :=
  match Spec.read text source with
  | .error misshape => .error (.shape misshape)
  | .ok spec => spec.render

end Statewright
