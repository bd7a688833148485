import Statewright.Validation.Names
import Statewright.Validation.Fragments
import Statewright.Spec.Events
import Statewright.Text.Quoted

/-!
Traits. A trait declares each method once and keeps the shape of the hooks; states and events put bodies only in
the place of its methods, in the same manner, and leave none without a body.
-/
set_option autoImplicit false

namespace Statewright.Validation

def enumerationNames : List Text := ["of", "variant", "value", "VARIANTS"].map Text.fixed

def pathText : Code.Expr → Option Text
  | .name id => some id
  | .attribute owner name => (pathText owner).map fun path => path ++ '.' :: name
  | _ => none

def hintText : Code.Expr → Option Text
  | .constant (.text value marked) =>
    if marked then none
    else
      let isQuote (c : Char) : Bool := c = '\'' || c = '"'
      some (Text.dropEndWhile isQuote ((Text.quoted value).dropWhile isQuote))
  | hint => pathText hint

-- A hook takes its parameters by position; any others have defaults and are given by name.
def fitsHook (hook : Hook) (params : Code.Params) : Bool :=
  params.rest.isNone && params.keywords.isNone && params.keywordOnly.all (·.default.isSome) &&
    (params.positionalOnly ++ params.positional).length == hook.params.length

def checkHookParams (spec : Spec) (hook : Hook) (params : Code.Params) (element : Text) (line : Nat) :
    Check Unit := do
  ensure (fitsHook hook params) (.hookParams hook.paramText) element line
  match (params.positionalOnly ++ params.positional).head?.bind (·.hint) with
  | none => return ()
  | some hint => ensure (hintText hint == some spec.context) (.hookContext spec.context) element line

def checkHook (spec : Spec) (hook : Hook) (method : Method) (element : Text) : Check Unit := do
  if let some text := method.params then
    checkHookParams spec hook (← params text element method.line) element method.line
  ensure (method.returns.isEmpty || method.returns == hook.returns) (.hookReturns hook.returns) element method.line

def checkTraitMethods (spec : Spec) (side : Side) (owner : Text) : (seen : List Text) → List Method → Check Unit
  | _, [] => .ok ()
  | seen, method :: rest => do
    let element := owner ++ '.' :: method.name
    ensure (Code.isName method.name) .invalidMethod element method.line
    ensure (!seen.contains method.name) .duplicateTraitMethod element method.line
    ensure (!(spec.isEventDriven && (enumerationNames.contains method.name || method.name.head? = some '_')))
      .reservedByEnumerations element method.line
    ensure (method.isAsync != some true || spec.isAsync) .asyncMethod element method.line
    if let some hook := (spec.hooks side).find? (·.name == method.name) then checkHook spec hook method element
    checkTraitMethods spec side owner (method.name :: seen) rest

def checkTrait (spec : Spec) (side : Side) : Check Unit :=
  match spec.declaredTrait side with
  | none => .ok ()
  | some trait_ => do
    trait_.bases.forM fun (base : Text) =>
      ensure (Code.isPath base) .invalidBase (trait_.name ++ '(' :: base ++ [')']) trait_.line
    checkTraitMethods spec side trait_.name [] trait_.methods

def checkFieldClash (methods : List Resolved) (owner : Text) (fields : List Field) : Check Unit :=
  fields.forM fun (field : Field) =>
    ensure (!methods.any (·.name == field.name)) .fieldClash (owner ++ '.' :: field.name) field.line

def checkImpl (traitName : Text) (methods : List Resolved) (owner : Text) : (seen : List Text) → List Method →
    Check Unit
  | _, [] => .ok ()
  | seen, impl :: rest => do
    let element := owner ++ '.' :: impl.name
    match methods.find? (·.name == impl.name) with
    | none => violate (.unknownTraitMethod impl.name traitName) element impl.line
    | some method => do
      ensure (!seen.contains impl.name) .duplicateImpl element impl.line
      ensure (impl.isAsync.all (· == method.isAsync)) (.wrongManner method.isAsync) element impl.line
      checkImpl traitName methods owner (impl.name :: seen) rest

def checkImplemented (traitName : Text) (methods : List Resolved) (owner : Text) (impls : List Method)
    (line : Nat) : Check Unit := do
  checkImpl traitName methods owner [] impls
  methods.forM fun (method : Resolved) =>
    ensure (!method.isAbstract || impls.any (·.name == method.name)) (.missingImpl method.name traitName) owner line

def checkSide (spec : Spec) (side : Side) (owners : List (Text × List Field × List Method × Nat)) :
    Check Unit := do
  checkTrait spec side
  let methods := spec.traitMethods side
  let traitName := (spec.traitName? side).getD []
  owners.forM fun ((owner, fields, impls, line) : Text × List Field × List Method × Nat) => do
    checkFieldClash methods owner fields
    checkImplemented traitName methods owner impls line

def checkTraits (spec : Spec) : Check Unit := do
  if spec.stateTrait.isNone && !spec.isEventDriven then
    spec.states.forM fun (state : State) =>
      match state.impls with
      | impl :: _ => violate .implWithoutTrait (state.name ++ '.' :: impl.name) impl.line
      | [] => .ok ()
  else
    checkSide spec .state (spec.states.map fun state => (state.name, state.fields, state.impls, state.line))
    if spec.isEventDriven then
      checkSide spec .event (spec.events.map fun event => (event.name, event.fields, event.impls, event.line))

end Statewright.Validation
