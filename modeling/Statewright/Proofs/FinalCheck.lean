import Statewright.Proofs.CommandRuns

/-!
The last check of a module. An accepted specification has readable code in each of its places, which is less than a
readable module: the module is handed out only if it can be read as a whole.
-/
set_option autoImplicit false

namespace Statewright

open Code (Reads readStatements)
open Validation (WellCoded)

theorem checked_iff (spec : Spec) (text : Text) :
    (spec.checkModule text = .ok text ↔ Reads (readStatements text)) ∧
      (spec.checkModule text = .error (.invalidModule spec.name) ↔ ¬ Reads (readStatements text)) := by
  unfold Spec.checkModule Reads
  cases readStatements text with
  | ok statements => simp
  | error line => simp

-- The comment at the end of the factory takes in the bracket that would close the call around it.
def crateText : Text :=
  Text.fixed "<deterministic_state_machine name=\"Crate\"><context type=\"list\"/><states><state name=\"Open\">" ++
    Text.fixed "<field name=\"items\" type=\"list\" factory=\"list  # fresh\"/></state></states>" ++
      Text.fixed "</deterministic_state_machine>"

def crateSpec : Spec :=
  { kind := .deterministic, name := "Crate", context := "list", line := 1
    states := [{ name := "Open", line := 1
                 fields := [{ name := "items", type := "list", factory := some "list  # fresh", line := 1 }] }] }

theorem crate_read : Spec.read crateText none = .ok crateSpec := by decide +kernel

theorem crate_accepted : crateSpec.validate = .ok () := by decide +kernel

theorem crate_refused : renderText crateText none = .error (.invalidModule "Crate") := by decide +kernel

end Statewright
