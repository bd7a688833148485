import Statewright.Proofs.ReadSpecs

/-!
Documents and specifications without their lines. What is read of a document without lines is what is read of the
document, without its lines, and a flaw is the same but for the line on which it is reported.
-/
set_option autoImplicit false

namespace Statewright

namespace Markup

mutual

def Element.unlined : Element → Element
  | .mk name attributes _ content => .mk name attributes 0 (unlinedNodes content)

def Node.unlined : Node → Node
  | .element value => .element value.unlined
  | node => node

def unlinedNodes : List Node → List Node
  | [] => []
  | node :: rest => node.unlined :: unlinedNodes rest

end

namespace Element

@[simp] theorem unlined_name (element : Element) : element.unlined.name = element.name := by
  cases element
  rw [unlined]
  rfl

@[simp] theorem unlined_attributes (element : Element) : element.unlined.attributes = element.attributes := by
  cases element
  rw [unlined]
  rfl

@[simp] theorem unlined_attribute (element : Element) (key : Text) :
    element.unlined.attribute? key = element.attribute? key := by
  rw [attribute?, attribute?, unlined_attributes]

@[simp] theorem unlined_line (element : Element) : element.unlined.line = 0 := by
  cases element
  rw [unlined]
  rfl

theorem unlined_content (element : Element) : element.unlined.content = unlinedNodes element.content := by
  cases element
  rw [unlined]
  rfl

end Element

theorem unlined_elements (nodes : List Node) :
    (unlinedNodes nodes).filterMap Node.element? = (nodes.filterMap Node.element?).map Element.unlined := by
  induction nodes with
  | nil => rfl
  | cons node rest ih =>
      rw [unlinedNodes]
      cases node <;> simp [Node.unlined, Node.element?, List.filterMap_cons, ih]

theorem unlined_leading (nodes : List Node) : Element.leading (unlinedNodes nodes) = Element.leading nodes := by
  induction nodes with
  | nil => rfl
  | cons node rest ih =>
      rw [unlinedNodes]
      cases node <;> simp [Node.unlined, Element.leading, ih]

namespace Element

@[simp] theorem unlined_children (element : Element) :
    element.unlined.children = element.children.map unlined := by
  rw [children, unlined_content, unlined_elements, children]

@[simp] theorem unlined_leading_text (element : Element) : element.unlined.leadingText = element.leadingText := by
  rw [leadingText, unlined_content, unlined_leading, leadingText]

end Element

end Markup

/-! Specifications. -/

def Field.unlined (field : Field) : Field := { field with line := 0 }

def Method.unlined (method : Method) : Method := { method with line := 0 }

def Trait.unlined (trait_ : Trait) : Trait :=
  { trait_ with methods := trait_.methods.map Method.unlined, line := 0 }

def Transition.unlined (transition : Transition) : Transition := { transition with line := 0 }

def State.unlined (state : State) : State :=
  { state with
    fields := state.fields.map Field.unlined, impls := state.impls.map Method.unlined
    transitions := state.transitions.map Transition.unlined, line := 0 }

def Event.unlined (event : Event) : Event :=
  { event with
    fields := event.fields.map Field.unlined, impls := event.impls.map Method.unlined, line := 0 }

def Enumeration.unlined (enumeration : Enumeration) : Enumeration := { enumeration with line := 0 }

def CatchAll.unlined (catchAll : CatchAll) : CatchAll := { catchAll with line := 0 }

def Spec.unlined (spec : Spec) : Spec :=
  { spec with
    stateTrait := spec.stateTrait.map Trait.unlined, states := spec.states.map State.unlined
    stateEnum := spec.stateEnum.map Enumeration.unlined, eventEnum := spec.eventEnum.map Enumeration.unlined
    eventTrait := spec.eventTrait.map Trait.unlined, declaredEvents := spec.declaredEvents.map Event.unlined
    catchAlls := spec.catchAlls.map CatchAll.unlined, line := 0 }

def Misshape.unlined (misshape : Misshape) : Misshape := { misshape with line := 0 }

namespace Reading

open Markup (Element)
open Filling (shape)

/-! Shapes. -/

def erase {α β : Type} (change : α → β) : Shape α → Shape β
  | .ok value => .ok (change value)
  | .error misshape => .error misshape.unlined

section

variable {α β γ δ : Type}

theorem erase_bind {first : Shape α} {bare : Shape β} {next : α → Shape γ} {then_ : β → Shape δ} {change : α → β}
    {further : γ → δ} (one : bare = erase change first)
    (rest : ∀ value, then_ (change value) = erase further (next value)) :
    (bare >>= then_) = erase further (first >>= next) := by
  subst one
  cases first with
  | error misshape => rfl
  | ok value => exact rest value

theorem erase_unless {change : α → β} {bare : Shape β} {one : Shape α} (condition : Bool) (flaw : Flaw) (line : Nat)
    (same : bare = erase change one) :
    (if condition = true then flawed flaw 0 >>= fun _ : PUnit => bare else bare) =
      erase change (if condition = true then flawed flaw line >>= fun _ : PUnit => one else one) := by
  subst same
  cases condition <;> rfl

theorem erase_mapM (elements : List Element) (read : Element → Shape α) (bare : Element → Shape β) (change : α → β)
    (each : ∀ element, bare element.unlined = erase change (read element)) :
    (elements.map Element.unlined).mapM bare = erase (List.map change) (elements.mapM read) := by
  induction elements with
  | nil => rfl
  | cons element rest ih =>
      rw [List.map_cons, List.mapM_cons, List.mapM_cons]
      exact erase_bind (each element) fun _ => erase_bind ih fun _ => rfl

theorem erase_foldlM (elements : List Element) (step : α → Element → Shape α) (bare : β → Element → Shape β)
    (change : α → β) (each : ∀ value element, bare (change value) element.unlined = erase change (step value element))
    (start : α) : (elements.map Element.unlined).foldlM bare (change start) = erase change (elements.foldlM step start) := by
  induction elements generalizing start with
  | nil => rfl
  | cons element rest ih =>
      rw [List.map_cons, List.foldlM_cons, List.foldlM_cons]
      exact erase_bind (each start element) ih

end

/-! Elements. -/

section

variable (element : Element)

theorem check_attributes_unlined (allowed : List Text) :
    checkAttributes element.unlined allowed = erase id (checkAttributes element allowed) := by
  unfold checkAttributes
  rw [Element.unlined_attributes, Element.unlined_name, Element.unlined_line]
  split <;> rfl

theorem require_unlined (key meaning : Text) : require element.unlined key meaning = erase id (require element key meaning) := by
  unfold require
  rw [Element.unlined_attribute, Element.unlined_name, Element.unlined_line]
  cases element.attribute? key with
  | none => rfl
  | some value =>
      dsimp only
      split <;> rfl

theorem no_children_unlined : noChildren element.unlined = erase id (noChildren element) := by
  unfold noChildren
  rw [Element.unlined_children, Element.unlined_name]
  cases element.children with
  | nil => rfl
  | cons child rest => simp [erase, flawed, Misshape.unlined]

theorem flag_unlined (key : Text) : flag element.unlined key = erase id (flag element key) := by
  unfold flag
  rw [Element.unlined_attribute, Element.unlined_line]
  cases element.attribute? key with
  | none => rfl
  | some value =>
      dsimp only
      split
      · rfl
      · split <;> rfl

@[simp] theorem body_unlined : body element.unlined = body element := by
  rw [body, Element.unlined_leading_text, body]

theorem decorator_unlined : decorator element.unlined = erase id (decorator element) := by
  unfold decorator
  refine erase_bind (no_children_unlined element) fun _ => ?_
  rw [Element.unlined_leading_text, Element.unlined_line]
  split <;> rfl

theorem trait_method_unlined : traitMethod element.unlined = erase Method.unlined (traitMethod element) := by
  unfold traitMethod
  refine erase_bind (check_attributes_unlined element _) fun _ => erase_bind (no_children_unlined element) fun _ => ?_
  refine erase_bind (require_unlined element _ _) fun name => erase_bind (flag_unlined element _) fun isAsync => ?_
  rw [body_unlined, Element.unlined_attribute, Element.unlined_attribute, Element.unlined_line]
  rfl

theorem trait_unlined : trait_ element.unlined = erase Trait.unlined (trait_ element) := by
  unfold trait_
  refine erase_bind (check_attributes_unlined element _) fun _ => erase_bind (require_unlined element _ _) fun name => ?_
  rw [Element.unlined_children, Element.unlined_attribute, Element.unlined_line]
  refine erase_bind (erase_mapM _ _ _ Method.unlined fun child => ?_) fun _ => rfl
  rw [Element.unlined_name, Element.unlined_line]
  split
  · exact trait_method_unlined child
  · rfl

theorem impl_unlined : impl element.unlined = erase Method.unlined (impl element) := by
  unfold impl
  refine erase_bind (check_attributes_unlined element _) fun _ => erase_bind (no_children_unlined element) fun _ => ?_
  refine erase_bind (require_unlined element _ _) fun name => erase_bind (flag_unlined element _) fun isAsync => ?_
  rw [body_unlined, Element.unlined_line]
  exact erase_unless _ _ _ rfl

theorem enumeration_unlined : enumeration element.unlined = erase Enumeration.unlined (enumeration element) := by
  unfold enumeration
  refine erase_bind (check_attributes_unlined element _) fun _ => erase_bind (require_unlined element _ _) fun name => ?_
  rw [Element.unlined_children, Element.unlined_name, Element.unlined_line]
  refine erase_bind (erase_mapM _ _ _ id fun child => ?_) fun texts => ?_
  · rw [Element.unlined_name, Element.unlined_line]
    split
    · exact decorator_unlined child
    · rfl
  · rw [List.map_id]
    rfl

theorem field_unlined : field element.unlined = erase Field.unlined (field element) := by
  unfold field
  refine erase_bind (check_attributes_unlined element _) fun _ => erase_bind (no_children_unlined element) fun _ => ?_
  refine erase_bind (require_unlined element _ _) fun name => ?_
  rw [Element.unlined_attribute, Element.unlined_attribute, Element.unlined_attribute, Element.unlined_line]
  dsimp only
  split <;> rfl

theorem state_method_unlined (owner : Text) :
    stateMethod owner element.unlined = erase Transition.unlined (stateMethod owner element) := by
  unfold stateMethod
  refine erase_bind (check_attributes_unlined element _) fun _ => erase_bind (no_children_unlined element) fun _ => ?_
  refine erase_bind (require_unlined element _ _) fun name => ?_
  rw [body_unlined, Element.unlined_attribute, Element.unlined_attribute, Element.unlined_line]
  rfl

theorem reaction_unlined (owner : Text) :
    reaction owner element.unlined = erase Transition.unlined (reaction owner element) := by
  unfold reaction
  refine erase_bind (check_attributes_unlined element _) fun _ => erase_bind (no_children_unlined element) fun _ => ?_
  rw [body_unlined, Element.unlined_attribute, Element.unlined_attribute, Element.unlined_line]
  dsimp only
  split
  · rfl
  split
  · rfl
  · exact erase_bind (require_unlined element _ _) fun _ => rfl

theorem state_part_unlined (kind : Kind) (one : State) :
    statePart kind one.unlined element.unlined = erase State.unlined (statePart kind one element) := by
  unfold statePart
  rw [Element.unlined_name, Element.unlined_line]
  split
  · refine erase_bind (field_unlined element) fun one => ?_
    simp [erase, State.unlined, pure, Except.pure]
  split
  · refine erase_bind (impl_unlined element) fun one => ?_
    simp [erase, State.unlined, pure, Except.pure]
  split
  · cases kind with
    | deterministic =>
        refine erase_bind (state_method_unlined element one.name) fun _ => ?_
        simp [erase, State.unlined, pure, Except.pure]
    | eventDriven =>
        refine erase_bind (reaction_unlined element one.name) fun _ => ?_
        simp [erase, State.unlined, pure, Except.pure]
  · rfl

theorem state_unlined (kind : Kind) : state kind element.unlined = erase State.unlined (state kind element) := by
  unfold state
  refine erase_bind (check_attributes_unlined element _) fun _ => erase_bind (require_unlined element _ _) fun name => ?_
  rw [Element.unlined_children, Element.unlined_line]
  exact erase_foldlM _ _ _ State.unlined (fun one child => state_part_unlined child kind one) { name, line := element.line }

theorem catch_all_unlined : catchAll element.unlined = erase CatchAll.unlined (catchAll element) := by
  unfold catchAll
  refine erase_bind (check_attributes_unlined element _) fun _ => erase_bind (no_children_unlined element) fun _ => ?_
  rw [body_unlined, Element.unlined_line]
  dsimp only
  split <;> rfl

theorem event_part_unlined (one : Event) :
    eventPart one.unlined element.unlined = erase Event.unlined (eventPart one element) := by
  unfold eventPart
  rw [Element.unlined_name, Element.unlined_line]
  split
  · refine erase_bind (field_unlined element) fun one => ?_
    simp [erase, Event.unlined, pure, Except.pure]
  split
  · refine erase_bind (impl_unlined element) fun one => ?_
    simp [erase, Event.unlined, pure, Except.pure]
  · rfl

theorem event_unlined : event element.unlined = erase Event.unlined (event element) := by
  unfold event
  rw [Element.unlined_name, Element.unlined_line]
  split
  · rfl
  · refine erase_bind (check_attributes_unlined element _) fun _ => erase_bind (require_unlined element _ _) fun name => ?_
    rw [Element.unlined_children]
    exact erase_foldlM _ _ _ Event.unlined (fun one child => event_part_unlined child one) { name, line := element.line }

end

/-! Filling. -/

-- Filling without lines does to a specification without lines what the other does.
def Erases {α β : Type} (change : α → β) (bare : Filling β) (filling : Filling α) : Prop :=
  ∀ spec, bare.run.run spec.unlined =
    (erase change (filling.run.run spec).1, (filling.run.run spec).2.unlined)

section

variable {α β γ δ : Type}

theorem erases_shape {change : α → β} {bare : Shape β} {outcome : Shape α} (same : bare = erase change outcome) :
    Erases change (shape bare) (shape outcome) := by
  intro spec
  subst same
  rfl

theorem erases_modify (bare change : Spec → Spec) (each : ∀ spec, bare spec.unlined = (change spec).unlined) :
    Erases id (modify bare) (modify change) := fun spec => Prod.ext rfl (each spec)

theorem erases_get : Erases Spec.unlined get get := fun _ => rfl

theorem erases_return {change : α → β} (value : α) : Erases change (pure (change value)) (pure value) := fun _ => rfl

theorem erases_bind {first : Filling α} {bare : Filling β} {next : α → Filling γ} {then_ : β → Filling δ}
    {change : α → β} {further : γ → δ} (one : Erases change bare first)
    (rest : ∀ value, Erases further (then_ (change value)) (next value)) :
    Erases further (bare >>= then_) (first >>= next) := by
  intro spec
  rw [ExceptT.run_bind, StateT.run_bind, ExceptT.run_bind, StateT.run_bind, one spec]
  cases turn : first.run.run spec with
  | mk outcome middle =>
      cases outcome with
      | error misshape => rfl
      | ok value => exact rest value middle

theorem erases_for (elements : List Element) (step bare : Element → PUnit → Filling (ForInStep PUnit))
    (each : ∀ element, Erases id (bare element.unlined PUnit.unit) (step element PUnit.unit)) :
    Erases id (forIn (elements.map Element.unlined) PUnit.unit bare) (forIn elements PUnit.unit step) := by
  induction elements with
  | nil => exact erases_return _
  | cons element rest ih =>
      rw [List.map_cons, List.forIn_cons, List.forIn_cons]
      refine erases_bind (each element) fun turn => ?_
      cases turn with
      | done value => exact erases_return _
      | yield value => exact ih

end

section

variable (element : Element)

theorem fill_states_unlined : Erases id (fillStates element.unlined) (fillStates element) := by
  unfold fillStates
  refine erases_bind (erases_shape (check_attributes_unlined element _)) fun _ => ?_
  rw [Element.unlined_children]
  refine erases_bind (erases_for _ _ _ fun child => erases_bind erases_get fun spec => ?_) fun _ => erases_return _
  rw [Element.unlined_name, Element.unlined_line]
  split
  · refine erases_bind (erases_shape (state_unlined child spec.kind)) fun one => ?_
    refine erases_bind (erases_modify _ _ fun spec => ?_) fun _ => erases_return _
    simp [Spec.unlined]
  · rw [show spec.unlined.isEventDriven = spec.isEventDriven from rfl]
    split
    · refine erases_bind (erases_shape (catch_all_unlined child)) fun one => ?_
      refine erases_bind (erases_modify _ _ fun spec => ?_) fun _ => erases_return _
      simp [Spec.unlined]
    · exact fun _ => rfl

theorem fill_events_unlined : Erases id (fillEvents element.unlined) (fillEvents element) := by
  unfold fillEvents
  refine erases_bind (erases_shape (check_attributes_unlined element _)) fun _ => ?_
  rw [Element.unlined_children]
  refine erases_bind (erases_for _ _ _ fun child => ?_) fun _ => erases_return _
  refine erases_bind (erases_shape (event_unlined child)) fun one => ?_
  refine erases_bind (erases_modify _ _ fun spec => ?_) fun _ => erases_return _
  simp [Spec.unlined]

theorem fill_field_unlined : Erases id (fillField element.unlined) (fillField element) := by
  have once {α : Type} {outcome bare : Shape α} {change : α → α} (first then_ : α → Spec → Spec)
      (same : bare = erase change outcome)
      (each : ∀ value spec, then_ (change value) spec.unlined = (first value spec).unlined) :
      Erases id (do let value ← shape bare; modify (then_ value)) (do let value ← shape outcome; modify (first value)) :=
    erases_bind (erases_shape same) fun value => erases_modify _ _ (each value)
  unfold fillField
  dsimp only
  rw [Element.unlined_name]
  split
  · exact once _ _ (decorator_unlined element) fun _ _ => rfl
  split
  · refine erases_bind (erases_shape (no_children_unlined element)) fun _ => erases_modify _ _ fun spec => ?_
    rw [body_unlined]
    rfl
  split
  · exact erases_bind (erases_shape (check_attributes_unlined element _)) fun _ =>
      once _ _ (require_unlined element _ _) fun _ _ => rfl
  split
  · exact once _ _ (trait_unlined element) fun _ _ => rfl
  split
  · exact once _ _ (trait_unlined element) fun _ _ => rfl
  split
  · exact once _ _ (enumeration_unlined element) fun _ _ => rfl
  split
  · exact once _ _ (enumeration_unlined element) fun _ _ => rfl
  split
  · exact fill_states_unlined element
  · exact fill_events_unlined element

end

theorem fill_fields_unlined (kind : Kind) (seen : List Text) (elements : List Element) :
    Erases id (fillFields kind seen (elements.map Element.unlined)) (fillFields kind seen elements) := by
  induction elements generalizing seen with
  | nil => exact erases_return _
  | cons element rest ih =>
      have filling : Erases id
          (do fillField element.unlined; fillFields kind (element.name :: seen) (rest.map Element.unlined))
          (do fillField element; fillFields kind (element.name :: seen) rest) :=
        erases_bind (fill_field_unlined element) fun _ => ih _
      have stopped (flaw : Flaw) (then_ next : PUnit → Filling (List Text)) :
          Erases id (shape (flawed flaw 0) >>= then_) (shape (flawed flaw element.line) >>= next) := fun _ => rfl
      rw [List.map_cons, fillFields, fillFields, Element.unlined_name, Element.unlined_line]
      dsimp only
      split
      · split
        · exact stopped _ _ _
        · exact stopped _ _ _
      split
      · exact stopped _ _ _
      · exact filling

theorem fill_unlined (root : Element) : Erases id (fill root.unlined) (fill root) := by
  refine erases_bind erases_get fun spec => ?_
  rw [Element.unlined_children, Element.unlined_line]
  refine erases_bind (fill_fields_unlined spec.kind [] root.children) fun seen => ?_
  dsimp only [id]
  rw [show spec.unlined.kind = spec.kind from rfl]
  cases (requiredFields spec.kind).find? fun label => !seen.contains label with
  | none => exact erases_return _
  | some label => exact erases_bind erases_get fun _ => fun _ => rfl

theorem begin_unlined (source : Option Text) (root : Element) :
    begin source root.unlined = erase Spec.unlined (begin source root) := by
  unfold begin
  rw [Element.unlined_name, Element.unlined_line]
  cases kindOfTag? root.name with
  | none => rfl
  | some kind =>
      refine erase_bind (check_attributes_unlined root _) fun _ => erase_bind (require_unlined root _ _) fun name => ?_
      rw [Element.unlined_attribute]
      refine erase_unless _ _ _ ?_
      refine erase_bind (flag_unlined root _) fun isAsync => ?_
      exact erase_unless _ _ _ rfl

end Reading

open Reading

theorem read_element_unlined (reader : SpecReader) (root : Markup.Element) :
    (reader.readElement root.unlined).1 = erase Spec.unlined (reader.readElement root).1 := by
  unfold SpecReader.readElement
  rw [begin_unlined]
  cases begin reader.source root with
  | error misshape => rfl
  | ok start =>
      dsimp only [erase]
      rw [fill_unlined root start]
      cases (fill root).run.run start with
      | mk outcome spec => cases outcome <;> rfl

end Statewright
