import Statewright.Proofs.DocumentParts

/-!
Code texts of documents. What is read of an element that holds code is its character data up to the first processing
instruction or reference that is not expanded, so that what stands behind one is lost.
-/
set_option autoImplicit false

namespace Statewright

namespace Markup

-- The character data behind the first node of another kind.
def cut : List Node → Text
  | .text _ :: rest => cut rest
  | rest => (rest.filterMap Node.text?).flatten

theorem leading_cut (content : List Node) :
    (content.filterMap Node.text?).flatten = Element.leading content ++ cut content := by
  fun_induction cut content with
  | case1 value rest ih => simp [Element.leading, Node.text?, ih]
  | case2 rest other =>
      cases rest with
      | nil => rfl
      | cons node rest =>
          cases node with
          | text value => exact absurd rfl (other value rest)
          | _ => rfl

namespace Element

def cutText (element : Element) : Text := cut element.content

theorem all_text_eq (element : Element) : element.allText = element.leadingText ++ element.cutText :=
  leading_cut element.content

theorem leading_all_iff (element : Element) : element.leadingText = element.allText ↔ element.cutText = [] := by
  rw [all_text_eq]
  exact List.self_eq_append_right

end Element

end Markup

-- The code texts of a machine, each at the place of what carries it.
structure CodeTexts where
  decorators : List Text
  prelude : Text
  stateTrait : List (List Text)
  eventTrait : List (List Text)
  stateEnum : List (List Text)
  eventEnum : List (List Text)
  states : List (List Text × List Text)
  catchAlls : List Text
  events : List (List Text)
deriving DecidableEq

def Spec.codeTexts (spec : Spec) : CodeTexts where
  decorators := spec.attributes
  prelude := spec.prelude
  stateTrait := spec.stateTrait.toList.map fun one => one.methods.map (·.body)
  eventTrait := spec.eventTrait.toList.map fun one => one.methods.map (·.body)
  stateEnum := spec.stateEnum.toList.map (·.attributes)
  eventEnum := spec.eventEnum.toList.map (·.attributes)
  states := spec.states.map fun one => (one.impls.map (·.body), one.transitions.map (·.body))
  catchAlls := spec.catchAlls.map (·.body)
  events := spec.declaredEvents.map fun one => one.impls.map (·.body)

namespace Reading

open List (Forall₂)
open Markup (Element)

section

variable (text : Element → Text)

def decoratorText (element : Element) : Text := undecorated (text element)

def blockText (element : Element) : Text := Text.Block.extract (text element)

def inside (outer inner : Text) (elements : List Element) : List Element :=
  (named outer elements).flatMap fun element => named inner element.children

-- The code texts that a document holds, if the text of an element is what it is taken to be.
def codeTexts (kind : Kind) (elements : List Element) : CodeTexts where
  decorators := (named "attribute" elements).map (decoratorText text)
  prelude := (named "prelude" elements).flatMap (blockText text)
  stateTrait := (named "state_trait" elements).map fun one => (named "method" one.children).map (blockText text)
  eventTrait := (named "event_trait" elements).map fun one => (named "method" one.children).map (blockText text)
  stateEnum := (named "state_enum" elements).map fun one => (named "attribute" one.children).map (decoratorText text)
  eventEnum := (named "event_enum" elements).map fun one => (named "attribute" one.children).map (decoratorText text)
  states := (inside "states" "state" elements).map fun one =>
    ((named "impl" one.children).map (blockText text), (named (transitionTag kind) one.children).map (blockText text))
  catchAlls := (inside "states" "catch_all" elements).map (blockText text)
  events := (inside "events" "event" elements).map fun one => (named "impl" one.children).map (blockText text)

end

/-! What is stored. -/

theorem trait_texts (element : Element) (one : Trait) (read : trait_ element = .ok one) :
    one.methods.map (·.body) = (named "method" element.children).map (blockText Element.leadingText) :=
  gives_map _ _ _ _ (trait_parts element one read).methods fun child method own =>
    (trait_method_gives child method own).1

theorem enumeration_texts (element : Element) (one : Enumeration) (read : enumeration element = .ok one) :
    one.attributes = (named "attribute" element.children).map (decoratorText Element.leadingText) := by
  rw [← List.map_id one.attributes]
  exact gives_map _ _ _ _ (enumeration_parts element one read).attributes fun child text own =>
    decorator_gives child text own

theorem impl_texts (elements : List Element) (impls : List Method) (all : Forall₂ (Gives impl) elements impls) :
    impls.map (·.body) = elements.map (blockText Element.leadingText) :=
  gives_map _ _ _ _ all fun element one own => (impl_gives element one own).1

theorem state_texts (kind : Kind) (element : Element) (one : State) (read : state kind element = .ok one) :
    (one.impls.map (·.body), one.transitions.map (·.body)) =
      ((named "impl" element.children).map (blockText Element.leadingText),
        (named (transitionTag kind) element.children).map (blockText Element.leadingText)) := by
  have parts := state_parts kind element one read
  rw [impl_texts _ _ parts.impls, gives_map _ _ _ (blockText Element.leadingText) parts.transitions
    fun child transition own => (transition_gives kind one.name child transition own).1]

theorem parts_texts (start : Spec) (elements : List Element) (spec : Spec)
    (parts : Parts start (fun label => named label elements) spec) :
    spec.codeTexts = codeTexts Element.leadingText spec.kind elements := by
  have decorators : spec.attributes = (named "attribute" elements).map (decoratorText Element.leadingText) := by
    rw [← List.map_id spec.attributes]
    exact gives_map _ _ _ _ parts.attributes fun child text own => decorator_gives child text own
  unfold Spec.codeTexts codeTexts
  rw [← decorators, parts.prelude, gives_map _ _ _ _ parts.stateTrait trait_texts,
    gives_map _ _ _ _ parts.eventTrait trait_texts, gives_map _ _ _ _ parts.stateEnum enumeration_texts,
    gives_map _ _ _ _ parts.eventEnum enumeration_texts, gives_map _ _ _ _ parts.states (state_texts spec.kind),
    gives_map _ _ _ _ parts.catchAlls fun element one own => (catch_all_gives element one own).1,
    gives_map _ _ _ _ parts.declaredEvents fun element one own => impl_texts _ _ (event_parts element one own).impls]
  rfl

/-! What is lost. -/

-- Where an element holds code.
def Place.holdsCode : Place → Bool
  | decorator | prelude | traitMethod | impl | stateMethod | reaction | catchAll => true
  | _ => false

def Coded (kind : Kind) (root element : Element) : Prop :=
  ∃ place, Stands kind root place element ∧ place.holdsCode = true

section

variable {kind : Kind} {root : Element}

-- Elements of one name inside an admitted element stand where the grammar has that name.
theorem stands_named (admits : Admits kind .machine root) (place : Place) (element : Element)
    (stands : Stands kind root place element) (reads : place.readsElements = true) (label : Text) (inner : Place)
    (sole : ∀ other, (place.inside kind).lookup label = some other → other = inner) :
    ∀ child ∈ named label element.children, Stands kind root inner child := by
  intro child member
  obtain ⟨among, same⟩ := List.mem_filter.mp member
  cases stands_admitted kind root admits place element stands with
  | element _ _ _ known _ =>
      obtain ⟨other, found⟩ := Option.isSome_iff_exists.mp (known reads child among)
      have own := sole other (eq_of_beq same ▸ found)
      exact .child place inner element child stands among (own ▸ found)

theorem stands_inside (admits : Admits kind .machine root) (outer inner : Text) (first second : Place)
    (reads : first.readsElements = true)
    (one : ∀ other, (Place.inside kind .machine).lookup outer = some other → other = first)
    (further : ∀ other, (first.inside kind).lookup inner = some other → other = second) :
    ∀ element ∈ inside outer inner root.children, Stands kind root second element := by
  intro element member
  obtain ⟨middle, among, own⟩ := List.mem_flatMap.mp member
  have stands := stands_named admits .machine root .root rfl outer first one middle among
  exact stands_named admits first middle stands reads inner second further element own

-- Where a kind of element stands that holds code, or others that do.
section

variable (admits : Admits kind .machine root)

include admits

theorem states_stand : ∀ element ∈ inside "states" "state" root.children, Stands kind root .state element :=
  stands_inside admits "states" "state" .states .state rfl (by cases kind <;> decide) (by cases kind <;> decide)

theorem events_stand : ∀ element ∈ inside "events" "event" root.children, Stands kind root .event element :=
  stands_inside admits "events" "event" .events .event rfl (by cases kind <;> decide) (by cases kind <;> decide)

theorem catch_alls_coded : ∀ element ∈ inside "states" "catch_all" root.children, Coded kind root element := by
  have stand := stands_inside admits "states" "catch_all" .states .catchAll rfl (by cases kind <;> decide)
    (by cases kind <;> decide)
  exact fun element member => ⟨.catchAll, stand element member, rfl⟩

theorem trait_stands (label : Text) (among : label = Text.fixed "state_trait" ∨ label = Text.fixed "event_trait") :
    ∀ element ∈ named label root.children, Stands kind root .trait_ element := by
  refine stands_named admits .machine root .root rfl label .trait_ ?_
  rcases among with rfl | rfl <;> cases kind <;> decide

theorem enumeration_stands (label : Text) (among : label = Text.fixed "state_enum" ∨ label = Text.fixed "event_enum") :
    ∀ element ∈ named label root.children, Stands kind root .enumeration element := by
  refine stands_named admits .machine root .root rfl label .enumeration ?_
  rcases among with rfl | rfl <;> cases kind <;> decide

theorem methods_coded (element : Element) (stands : Stands kind root .trait_ element) :
    ∀ child ∈ named "method" element.children, Coded kind root child := fun child member =>
  ⟨.traitMethod, stands_named admits .trait_ element stands rfl "method" .traitMethod (by cases kind <;> decide) child
    member, rfl⟩

theorem decorators_coded (place : Place) (element : Element) (stands : Stands kind root place element)
    (among : place = .machine ∨ place = .enumeration) :
    ∀ child ∈ named "attribute" element.children, Coded kind root child := by
  intro child member
  refine ⟨.decorator, stands_named admits place element stands ?_ "attribute" .decorator ?_ child member, rfl⟩
  · rcases among with rfl | rfl <;> rfl
  · rcases among with rfl | rfl <;> cases kind <;> decide

theorem impls_coded (place : Place) (element : Element) (stands : Stands kind root place element)
    (among : place = .state ∨ place = .event) : ∀ child ∈ named "impl" element.children, Coded kind root child := by
  intro child member
  refine ⟨.impl, stands_named admits place element stands ?_ "impl" .impl ?_ child member, rfl⟩
  · rcases among with rfl | rfl <;> rfl
  · rcases among with rfl | rfl <;> cases kind <;> decide

theorem transitions_coded (element : Element) (stands : Stands kind root .state element) :
    ∀ child ∈ named (transitionTag kind) element.children, Coded kind root child := by
  have inner := stands_named admits .state element stands rfl (transitionTag kind)
  cases kind with
  | deterministic => exact fun child member => ⟨.stateMethod, inner .stateMethod (by decide) child member, rfl⟩
  | eventDriven => exact fun child member => ⟨.reaction, inner .reaction (by decide) child member, rfl⟩

theorem prelude_coded : ∀ element ∈ named "prelude" root.children, Coded kind root element := by
  have stand := stands_named admits .machine root .root rfl "prelude" .prelude (by cases kind <;> decide)
  exact fun element member => ⟨.prelude, stand element member, rfl⟩

end

theorem code_texts_same (admits : Admits kind .machine root) (text other : Element → Text)
    (same : ∀ element, Coded kind root element → text element = other element) :
    codeTexts text kind root.children = codeTexts other kind root.children := by
  have decorators : ∀ elements : List Element, (∀ element ∈ elements, Coded kind root element) →
      elements.map (decoratorText text) = elements.map (decoratorText other) := fun elements coded =>
    List.map_congr_left fun element member => congrArg undecorated (same element (coded element member))
  have blocks : ∀ elements : List Element, (∀ element ∈ elements, Coded kind root element) →
      elements.map (blockText text) = elements.map (blockText other) := fun elements coded =>
    List.map_congr_left fun element member => congrArg Text.Block.extract (same element (coded element member))
  have prelude_ : (named "prelude" root.children).flatMap (blockText text) =
      (named "prelude" root.children).flatMap (blockText other) :=
    List.flatMap_congr fun element member =>
      congrArg Text.Block.extract (same element (prelude_coded admits element member))
  unfold codeTexts
  congr 1
  · exact decorators _ (decorators_coded admits .machine root .root (.inl rfl))
  · exact List.map_congr_left fun one member =>
      blocks _ (methods_coded admits one (trait_stands admits _ (.inl rfl) one member))
  · exact List.map_congr_left fun one member =>
      blocks _ (methods_coded admits one (trait_stands admits _ (.inr rfl) one member))
  · exact List.map_congr_left fun one member => decorators _
      (decorators_coded admits .enumeration one (enumeration_stands admits _ (.inl rfl) one member) (.inr rfl))
  · exact List.map_congr_left fun one member => decorators _
      (decorators_coded admits .enumeration one (enumeration_stands admits _ (.inr rfl) one member) (.inr rfl))
  · refine List.map_congr_left fun one member => ?_
    have stands := states_stand admits one member
    exact Prod.ext (blocks _ (impls_coded admits .state one stands (.inl rfl)))
      (blocks _ (transitions_coded admits one stands))
  · exact blocks _ (catch_alls_coded admits)
  · exact List.map_congr_left fun one member =>
      blocks _ (impls_coded admits .event one (events_stand admits one member) (.inr rfl))

end

end Reading

open Reading
open Markup (Element)

/-- Every code text of a document that is read is what its rule makes of the character data with which its element
begins. That is all of the element's character data exactly if none of it stands behind a processing instruction or a
reference that is not expanded; if none does in any element that holds code, no code text is cut short. -/
theorem code_texts_read (text : Text) (source : Option Text) (spec : Spec) (read : Spec.read text source = .ok spec)
    (root : Element) (parsed : Markup.read text = .ok root) :
    spec.codeTexts = codeTexts Element.leadingText spec.kind root.children ∧
    (∀ element : Element, element.leadingText = element.allText ↔ element.cutText = []) ∧
    ((∀ place element, Stands spec.kind root place element → place.holdsCode = true → element.cutText = []) →
      spec.codeTexts = codeTexts Element.allText spec.kind root.children) := by
  obtain ⟨_, start, _, parts⟩ := read_parts text source spec read root parsed
  have stored := parts_texts start root.children spec parts
  refine ⟨stored, Element.leading_all_iff, fun whole => ?_⟩
  have admits := (read_admits text source spec read root parsed).2
  refine stored.trans (code_texts_same admits Element.leadingText Element.allText ?_)
  rintro element ⟨place, stands, code⟩
  exact (Element.leading_all_iff element).mpr (whole place element stands code)

-- A lamp with a comment inside its prelude, an instruction behind it, and a character data section inside a body.
def lampText : Text :=
  "<deterministic_state_machine name=\"Lamp\"><context type=\"list\"/>" ++
    "<prelude>import <!-- dimming -->math<?end?></prelude><states><state name=\"On\">" ++
      "<method name=\"dim\">dark = <![CDATA[1 < 2]]></method></state></states></deterministic_state_machine>"

def lampPrelude : Element := .mk "prelude" [] 1 [.text "import math", .instruction]

def lampMethod : Element := .mk "method" [("name", "dim")] 1 [.text "dark = 1 < 2"]

def lampState : Element := .mk "state" [("name", "On")] 1 [.element lampMethod]

def lampStates : Element := .mk "states" [] 1 [.element lampState]

def lampContext : Element := .mk "context" [("type", "list")] 1 []

def lampRoot : Element :=
  .mk "deterministic_state_machine" [("name", "Lamp")] 1
    [.element lampContext, .element lampPrelude, .element lampStates]

def lampSpec : Spec :=
  { kind := .deterministic, name := "Lamp", context := "list", prelude := "import math"
    states := [{ name := "On", line := 1
                 transitions := [{ source := "On", trigger := "dim", body := "dark = 1 < 2", line := 1 }] }]
    line := 1 }

def lampElements : List Element := [lampRoot, lampContext, lampPrelude, lampStates, lampState, lampMethod]

theorem lamp_elements (place : Place) (element : Element) (stands : Stands .deterministic lampRoot place element) :
    element ∈ lampElements := by
  have root : lampRoot.children = [lampContext, lampPrelude, lampStates] := rfl
  have leaves : lampContext.children = [] ∧ lampPrelude.children = [] ∧ lampMethod.children = [] := ⟨rfl, rfl, rfl⟩
  have states : lampStates.children = [lampState] ∧ lampState.children = [lampMethod] := ⟨rfl, rfl⟩
  have below : ∀ outer ∈ lampElements, ∀ child ∈ outer.children, child ∈ lampElements := by
    simp [lampElements, root, leaves, states]
  induction stands with
  | root => exact .head _
  | child _ _ outer child _ member _ among => exact below outer among child member

set_option maxRecDepth 2000 in
theorem lamp_texts_whole :
    Spec.read lampText none = .ok lampSpec ∧ Markup.read lampText = .ok lampRoot ∧
      lampSpec.codeTexts = codeTexts Element.allText .deterministic lampRoot.children := by
  have parsed : Markup.read lampText = .ok lampRoot := by cbv
  have read : Spec.read lampText none = .ok lampSpec := (read_parsed _ none _ parsed).trans (by decide +kernel)
  have whole : ∀ element ∈ lampElements, element.cutText = [] := by decide
  exact ⟨read, parsed, (code_texts_read lampText none lampSpec read lampRoot parsed).2.2 fun place element stands _ =>
    whole element (lamp_elements place element stands)⟩

-- A chime with an instruction between the two lines of a body.
def chimeText : Text :=
  "<deterministic_state_machine name=\"Chime\"><context type=\"list\"/><states><state name=\"On\">" ++
    "<method name=\"ring\">context.append(\"ding\")<?then?>" ++ '\n' :: "context.append(\"dong\")</method>" ++
      "</state></states></deterministic_state_machine>"

def chimeState : State :=
  { name := "On", line := 1
    transitions := [{ source := "On", trigger := "ring", body := "context.append(\"ding\")", line := 1 }] }

def chimeSpec : Spec :=
  { kind := .deterministic, name := "Chime", context := "list", states := [chimeState], line := 1 }

def chimeMethod : Element :=
  .mk "method" [("name", "ring")] 1 [.text "context.append(\"ding\")", .instruction, .text "
context.append(\"dong\")"]

def chimeRoot : Element :=
  .mk "deterministic_state_machine" [("name", "Chime")] 1
    [.element (.mk "context" [("type", "list")] 1 []),
      .element (.mk "states" [] 1 [.element (.mk "state" [("name", "On")] 1 [.element chimeMethod])])]

set_option maxRecDepth 2000 in
theorem chime_body_cut :
    Spec.read chimeText none = .ok chimeSpec ∧ Markup.read chimeText = .ok chimeRoot ∧
      chimeSpec.codeTexts ≠ codeTexts Element.allText .deterministic chimeRoot.children := by
  have parsed : Markup.read chimeText = .ok chimeRoot := by cbv
  have read : Spec.read chimeText none = .ok chimeSpec := (read_parsed _ none _ parsed).trans (by decide +kernel)
  exact ⟨read, parsed, by decide⟩

end Statewright
