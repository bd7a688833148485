import Statewright.Emission.Module

/-!
Labels of specifications. A specification keeps the label of its source for the top of its module alone: nothing that is
read into it, no check, no table and no line below the top depends on the label.
-/
set_option autoImplicit false

namespace Statewright

def Spec.labelled (spec : Spec) (source : Option Text) : Spec := { spec with source }

/-! Reading. -/

namespace Reading

open Markup (Element)
open Filling (shape)

-- Filling leaves the label as it is and does not look at it.
def Relabels {α : Type} (source : Option Text) (filling : Filling α) : Prop :=
  ∀ spec, filling.run.run (spec.labelled source) =
    ((filling.run.run spec).1, (filling.run.run spec).2.labelled source)

section

variable {α β : Type} {source : Option Text}

theorem relabels_return (value : α) : Relabels source (pure value) := fun _ => rfl

theorem relabels_shape (outcome : Shape α) : Relabels source (shape outcome) := fun _ => rfl

theorem relabels_modify (change : Spec → Spec)
    (each : ∀ spec, change (spec.labelled source) = (change spec).labelled source) : Relabels source (modify change) :=
  fun spec => Prod.ext rfl (each spec)

theorem relabels_bind (first : Filling α) (next : α → Filling β) (one : Relabels source first)
    (rest : ∀ value, Relabels source (next value)) : Relabels source (first >>= next) := by
  intro spec
  rw [ExceptT.run_bind, StateT.run_bind, StateT.run_bind, one spec]
  cases turn : first.run.run spec with
  | mk outcome middle =>
      cases outcome with
      | error misshape => rfl
      | ok value => exact rest value middle

theorem relabels_get (next : Spec → Filling β) (same : ∀ spec, next (spec.labelled source) = next spec)
    (each : ∀ spec, Relabels source (next spec)) : Relabels source (get >>= next) := by
  intro spec
  change (next (spec.labelled source)).run.run (spec.labelled source) = _
  rw [same]
  exact each spec spec

theorem relabels_for (items : List α) (step : α → PUnit → Filling (ForInStep PUnit))
    (each : ∀ item value, Relabels source (step item value)) : Relabels source (forIn items PUnit.unit step) := by
  induction items with
  | nil => exact relabels_return _
  | cons item rest ih =>
      rw [List.forIn_cons]
      refine relabels_bind _ _ (each item _) fun turn => ?_
      cases turn with
      | done value => exact relabels_return _
      | yield value => exact ih

theorem relabels_once (outcome : Shape α) (change : α → Spec → Spec)
    (each : ∀ value spec, change value (spec.labelled source) = (change value spec).labelled source) :
    Relabels source (do let value ← shape outcome; modify (change value)) :=
  relabels_bind _ _ (relabels_shape outcome) fun value => relabels_modify _ (each value)

theorem fill_states_relabels (element : Element) : Relabels source (fillStates element) := by
  unfold fillStates
  refine relabels_bind _ _ (relabels_shape _) fun _ => relabels_bind _ _ (relabels_for _ _ fun child _ => ?_) fun _ =>
    relabels_return _
  refine relabels_get _ (fun _ => rfl) fun spec => ?_
  split
  · exact relabels_bind _ _ (relabels_shape _) fun one =>
      relabels_bind _ _ (relabels_modify _ fun _ => rfl) fun _ => relabels_return _
  split
  · exact relabels_bind _ _ (relabels_shape _) fun one =>
      relabels_bind _ _ (relabels_modify _ fun _ => rfl) fun _ => relabels_return _
  · exact relabels_bind _ _ (relabels_shape _) fun _ => relabels_return _

theorem fill_events_relabels (element : Element) : Relabels source (fillEvents element) := by
  unfold fillEvents
  refine relabels_bind _ _ (relabels_shape _) fun _ => relabels_bind _ _ (relabels_for _ _ fun child _ => ?_) fun _ =>
    relabels_return _
  exact relabels_bind _ _ (relabels_shape _) fun one =>
    relabels_bind _ _ (relabels_modify _ fun _ => rfl) fun _ => relabels_return _

theorem fill_field_relabels (element : Element) : Relabels source (fillField element) := by
  unfold fillField
  dsimp only
  split
  · exact relabels_once _ _ fun _ _ => rfl
  split
  · exact relabels_once _ _ fun _ _ => rfl
  split
  · exact relabels_bind _ _ (relabels_shape _) fun _ => relabels_once _ _ fun _ _ => rfl
  split
  · exact relabels_once _ _ fun _ _ => rfl
  split
  · exact relabels_once _ _ fun _ _ => rfl
  split
  · exact relabels_once _ _ fun _ _ => rfl
  split
  · exact relabels_once _ _ fun _ _ => rfl
  split
  · exact fill_states_relabels element
  · exact fill_events_relabels element

theorem fill_fields_relabels (kind : Kind) (seen : List Text) (elements : List Element) :
    Relabels source (fillFields kind seen elements) := by
  induction elements generalizing seen with
  | nil => exact relabels_return _
  | cons element rest ih =>
      have filling : Relabels source (do fillField element; fillFields kind (element.name :: seen) rest) :=
        relabels_bind _ _ (fill_field_relabels element) fun _ => ih _
      have stopped (flaw : Flaw) (next : PUnit → Filling (List Text)) :
          Relabels source (shape (flawed flaw element.line) >>= next) := fun _ => rfl
      rw [fillFields]
      dsimp only
      split
      · split
        · exact stopped _ _
        · exact stopped _ _
      split
      · exact stopped _ _
      · exact filling

theorem fill_relabels (root : Element) : Relabels source (fill root) := by
  refine relabels_get _ (fun _ => rfl) fun spec => relabels_bind _ _ (fill_fields_relabels _ _ _) fun seen => ?_
  cases (requiredFields spec.kind).find? fun label => !seen.contains label with
  | none => exact relabels_return _
  | some label => exact relabels_get _ (fun _ => rfl) fun _ => relabels_shape _

theorem bind_labelled {other : Option Text} (first : Shape α) {next then_ : α → Shape Spec}
    (each : ∀ value, next value = (then_ value).map (·.labelled other)) :
    (first >>= next) = (first >>= then_).map (·.labelled other) := by
  cases first with
  | error misshape => rfl
  | ok value => exact each value

theorem begin_labelled (one other : Option Text) (root : Element) :
    begin other root = (begin one root).map (·.labelled other) := by
  unfold begin
  cases kindOfTag? root.name with
  | none => rfl
  | some kind =>
      refine bind_labelled _ fun _ => bind_labelled _ fun name => ?_
      dsimp only
      split
      · exact bind_labelled _ fun _ => bind_labelled _ fun isAsync => by split <;> rfl
      · exact bind_labelled _ fun isAsync => by split <;> rfl

end

end Reading

theorem read_labelled (text : Text) (one other : Option Text) :
    Spec.read text other = (Spec.read text one).map (·.labelled other) := by
  unfold Spec.read SpecReader.read
  cases Markup.read text with
  | error line => rfl
  | ok root =>
      dsimp only [SpecReader.readElement]
      rw [Reading.begin_labelled one other]
      cases Reading.begin one root with
      | error misshape => rfl
      | ok empty =>
          dsimp only [Except.map]
          rw [Reading.fill_relabels root empty]
          cases (Reading.fill root).run.run empty with
          | mk outcome spec => cases outcome <;> rfl

section

variable (spec : Spec) (source : Option Text)

/-! Checking. -/

namespace Validation

theorem methods_labelled (state : State) (seen : List Text) (transitions : List Transition) :
    checkMethods (spec.labelled source) state seen transitions = checkMethods spec state seen transitions := by
  induction transitions generalizing seen with
  | nil => rfl
  | cons transition rest ih =>
      rw [checkMethods, checkMethods, ih]
      rfl

theorem reactions_labelled (seen : List (Text × Text)) (owned : List (Text × Transition)) :
    checkReactions (spec.labelled source) seen owned = checkReactions spec seen owned := by
  induction owned generalizing seen with
  | nil => rfl
  | cons item rest ih =>
      rw [checkReactions, checkReactions, ih]
      rfl

theorem trait_methods_labelled (side : Side) (owner : Text) (seen : List Text) (methods : List Method) :
    checkTraitMethods (spec.labelled source) side owner seen methods = checkTraitMethods spec side owner seen methods := by
  induction methods generalizing seen with
  | nil => rfl
  | cons method rest ih =>
      rw [checkTraitMethods, checkTraitMethods, ih]
      rfl

theorem side_labelled (side : Side) (owners : List (Text × List Field × List Method × Nat)) :
    checkSide (spec.labelled source) side owners = checkSide spec side owners := by
  unfold checkSide checkTrait
  simp only [trait_methods_labelled]
  rfl

theorem traits_labelled : checkTraits (spec.labelled source) = checkTraits spec := by
  unfold checkTraits
  simp only [side_labelled]
  rfl

end Validation

theorem validate_labelled : (spec.labelled source).validate = spec.validate := by
  unfold Spec.validate Validation.checkDeterministic Validation.checkEventDriven
  simp only [Validation.methods_labelled, Validation.reactions_labelled, Validation.traits_labelled]
  rfl

theorem prepare_labelled : (spec.labelled source).prepare = spec.prepare := by
  unfold Spec.prepare
  rw [validate_labelled]
  rfl

/-! Writing. -/

namespace Emission.Deterministic

theorem machine_methods_labelled (state : Text) (transitions : List Transition) :
    machineMethods (spec.labelled source) state transitions = machineMethods spec state transitions := by
  induction transitions with
  | nil => rfl
  | cons transition rest ih =>
      rw [machineMethods, machineMethods, ih]
      rfl

theorem machine_classes_labelled (states : List State) :
    machineClasses (spec.labelled source) states = machineClasses spec states := by
  induction states with
  | nil => rfl
  | cons state rest ih =>
      rw [machineClasses, machineClasses, ih, machineClass, machine_methods_labelled]
      rfl

end Emission.Deterministic

theorem module_lines_labelled (table : Option Table) :
    (spec.labelled source).moduleLines table = spec.moduleLines table := by
  have plain : Emission.Deterministic.module (spec.labelled source) = Emission.Deterministic.module spec := by
    unfold Emission.Deterministic.module
    rw [Emission.Deterministic.machine_classes_labelled]
    rfl
  unfold Spec.moduleLines
  rw [plain]
  rfl

end

end Statewright
