import Statewright.Validation.Violation
import Statewright.Spec.Traits
import Statewright.Code.Fragment

/-!
Code texts. Each is read by the grammar rule for its place, and a mistake is reported on the line of the element
that carries it; a mistake in a body as many lines below as it stands below the body's first line.
-/
set_option autoImplicit false

namespace Statewright.Validation

open Code (Reading)

def fragment {α : Type} (reading : Reading α) (breach : Breach) (element : Text) (line : Nat → Nat) : Check α :=
  match reading with
  | .ok value => .ok value
  | .error at_ => violate breach element (line at_)

def params (text element : Text) (line : Nat) : Check Code.Params :=
  fragment (Code.readMethodParams text) (.badParams text) element fun _ => line

def checkExpression (code element : Text) (line : Nat) : Check Unit := do
  let _ ← fragment (Code.readExpression code) (.badCode code) element fun _ => line

def checkStatements (code element : Text) (line : Nat) : Check Unit := do
  let _ ← fragment (Code.readStatements code) (.badCode code) element fun _ => line

def checkBody (body : Text) (isAsync : Bool) (element : Text) (line : Nat) : Check Unit :=
  if Text.blank body then .ok ()
  else do
    let _ ← fragment (Code.readBody isAsync body) .badBody element fun at_ => line + (at_ - 2)

-- The fields of one owner in order: names apart, readable code, and no field without a default after one that has a
-- default.
def checkFields (owner : Text) : (seen : List Text) → (defaults : Bool) → List Field → Check Unit
  | _, _, [] => .ok ()
  | seen, defaults, field :: rest => do
    let element := owner ++ '.' :: field.name
    ensure (!seen.contains field.name) .duplicateField element field.line
    if !field.type.isEmpty then checkExpression field.type element field.line
    if let some code := field.default then checkExpression code element field.line
    if let some code := field.factory then checkExpression code element field.line
    ensure (field.hasDefault || !defaults) .fieldOrder element field.line
    checkFields owner (field.name :: seen) (defaults || field.hasDefault) rest

def checkDecorators (owner : Text) (decorators : List Text) (line : Nat) : Check Unit :=
  decorators.forM fun (code : Text) => checkExpression code (owner ++ " attribute") line

def checkTraitCode (spec : Spec) (side : Side) : Check Unit :=
  (spec.traitMethods side).forM fun (method : Resolved) => do
    let element := (spec.traitName? side).getD [] ++ '.' :: method.name
    let _ ← params method.params element method.line
    if !method.returns.isEmpty then checkExpression method.returns element method.line
    checkBody method.body method.isAsync element method.line

def asyncNames (spec : Spec) (side : Side) : List Text :=
  ((spec.traitMethods side).filter (·.isAsync)).map (·.name)

def checkImpls (owner : Text) (asyncNames : List Text) (impls : List Method) : Check Unit :=
  impls.forM fun (impl : Method) =>
    checkBody impl.body (asyncNames.contains impl.name) (owner ++ '.' :: impl.name) impl.line

def checkStateCode (spec : Spec) (state : State) : Check Unit := do
  checkFields state.name [] false state.fields
  checkImpls state.name (asyncNames spec .state) state.impls
  state.transitions.forM fun (transition : Transition) => do
    let element := state.name ++ '.' :: transition.trigger
    if !transition.params.isEmpty then
      let _ ← params transition.params element transition.line
    checkBody transition.body spec.isAsync element transition.line

def checkEventCode (spec : Spec) (event : Event) : Check Unit := do
  checkFields event.name [] false event.fields
  checkImpls event.name (asyncNames spec .event) event.impls

def checkFragments (spec : Spec) : Check Unit := do
  if !spec.prelude.isEmpty then checkStatements spec.prelude "prelude" spec.line
  checkDecorators spec.name spec.attributes spec.line
  for enumeration in spec.stateEnum.toList ++ spec.eventEnum.toList do
    checkDecorators enumeration.name enumeration.attributes enumeration.line
  checkTraitCode spec .state
  checkTraitCode spec .event
  spec.states.forM (checkStateCode spec)
  if spec.isEventDriven then
    spec.declaredEvents.forM (checkEventCode spec)
    if let some catchAll := spec.catchAll? then checkBody catchAll.body spec.isAsync "_" catchAll.line

end Statewright.Validation
