import Statewright.Proofs.MistakeLines

/-!
Lines of violations. What is reported of a document names a part of the specification and stands on the line of an
element, or, for a body that cannot be read, below the line of the element that carries it. Hooks that are added have no
line, and nothing is reported at them.
-/
set_option autoImplicit false

namespace Statewright

namespace Reading

open Markup (Element)
open Validation

/-! Names. -/

theorem trait_filled (element : Element) (one : Trait) (read : trait_ element = .ok one) : one.name ≠ [] := by
  simp only [trait_, bind_eq_ok] at read
  obtain ⟨_, _, name, given, _, _, whole⟩ := read
  obtain rfl := (pure_eq_ok _ _).mp whole
  exact (require_gives _ _ _ _ given).1

theorem enumeration_filled (element : Element) (one : Enumeration) (read : enumeration element = .ok one) :
    one.name ≠ [] := by
  simp only [enumeration, bind_eq_ok] at read
  obtain ⟨_, _, name, given, _, _, whole⟩ := read
  obtain rfl := (pure_eq_ok _ _).mp whole
  exact (require_gives _ _ _ _ given).1

theorem state_filled (kind : Kind) (element : Element) (one : State) (read : state kind element = .ok one) :
    one.name ≠ [] := by
  obtain ⟨name, given, parts⟩ := state_named kind element one read
  rw [parts.name]
  exact (require_gives _ _ _ _ given).1

theorem event_filled (element : Element) (one : Event) (read : event element = .ok one) : one.name ≠ [] := by
  obtain ⟨name, given, parts⟩ := event_named element one read
  rw [parts.name]
  exact (require_gives _ _ _ _ given).1

theorem transition_filled (kind : Kind) (owner : Text) (element : Element) (one : Transition)
    (read : transition kind owner element = .ok one) : one.trigger ≠ [] := by
  cases kind with
  | deterministic =>
      simp only [transition, stateMethod, bind_eq_ok] at read
      obtain ⟨_, _, _, _, trigger, given, whole⟩ := read
      obtain rfl := (pure_eq_ok _ _).mp whole
      exact (require_gives _ _ _ _ given).1
  | eventDriven =>
      simp only [transition, reaction, bind_eq_ok] at read
      obtain ⟨_, _, _, _, whole⟩ := read
      split at whole
      · simp [flawed, bind_eq_ok] at whole
      · split at whole
        · simp [flawed, bind_eq_ok] at whole
        · simp only [bind_eq_ok] at whole
          obtain ⟨trigger, given, whole⟩ := whole
          obtain rfl := (pure_eq_ok _ _).mp whole
          exact (require_gives _ _ _ _ given).1

theorem trait_method_declared (element : Element) (method : Method) (read : traitMethod element = .ok method) :
    method.generated = false := by
  simp only [traitMethod, bind_eq_ok] at read
  obtain ⟨_, _, _, _, _, _, _, _, whole⟩ := read
  obtain rfl := (pure_eq_ok _ _).mp whole
  rfl

theorem field_gives (element : Element) (one : Field) (read : field element = .ok one) : one.line = element.line := by
  simp only [field, bind_eq_ok] at read
  obtain ⟨_, _, _, _, name, _, whole⟩ := read
  split at whole
  · cases whole
  · obtain rfl := (pure_eq_ok _ _).mp whole
    rfl

theorem hook_filled (side : Side) (hook : Hook) (listed : hook ∈ Hook.ofSide side) : Text.blank hook.body = false := by
  revert hook
  cases side <;> decide

/-! Sites. -/

def Lined (kind : Kind) (root : Element) (line : Nat) : Prop :=
  ∃ place element, Stands kind root place element ∧ line = element.line

-- Something with a name of its own, on the line of an element.
structure Shown (kind : Kind) (root : Element) (name : Text) (line : Nat) : Prop where
  filled : name ≠ []
  lined : Lined kind root line

theorem shown_below (kind : Kind) (root : Element) (owner name : Text) (line : Nat) (lined : Lined kind root line) :
    Shown kind root (owner ++ '.' :: name) line :=
  ⟨by simp, lined⟩

theorem sourced_lined (kind : Kind) (root : Element) (text : Text) (line : Nat) (sourced : Sourced kind root text line) :
    Lined kind root line := by
  obtain ⟨carrier, ⟨place, stands, _⟩, _, same⟩ := sourced
  exact ⟨place, carrier, stands, same⟩

section

variable {start spec : Spec} {root : Element}

-- An owner, with what it owns.
structure OwnerShown (spec : Spec) (root : Element) (name : Text) (fields : List Field) (impls : List Method)
    (line : Nat) : Prop where
  shown : Shown spec.kind root name line
  fields : ∀ one ∈ fields, Lined spec.kind root one.line
  impls : ∀ one ∈ impls, Lined spec.kind root one.line

section

variable (parts : Parts start (fun label => named label root.children) spec) (admits : Admits spec.kind .machine root)

include admits in
theorem fields_lined (place : Place) (element : Element) (stands : Stands spec.kind root place element)
    (among : place = .state ∨ place = .event) (fields : List Field)
    (each : List.Forall₂ (Gives field) (named "field" element.children) fields) :
    ∀ one ∈ fields, Lined spec.kind root one.line := by
  intro one member
  obtain ⟨child, within, read⟩ := gives_source _ _ each one member
  refine ⟨.field, child, ?_, field_gives child one read⟩
  refine stands_named admits place element stands ?_ "field" .field ?_ child within
  · rcases among with rfl | rfl <;> rfl
  · rcases among with rfl | rfl <;> cases spec.kind <;> decide

include parts admits

theorem transition_shown (state : State) (known : state ∈ spec.states) (one : Transition)
    (member : one ∈ state.transitions) : Shown spec.kind root one.trigger one.line := by
  obtain ⟨element, among, read⟩ := gives_source _ _ parts.states state known
  obtain ⟨child, within, own⟩ := gives_source _ _ (state_parts spec.kind element state read).transitions one member
  obtain ⟨place, stands, _⟩ := transitions_coded admits element (states_stand admits element among) child within
  exact ⟨transition_filled spec.kind state.name child one own, place, child, stands,
    (transition_gives spec.kind state.name child one own).2⟩

theorem state_shown (state : State) (known : state ∈ spec.states) :
    OwnerShown spec root state.name state.fields state.impls state.line := by
  obtain ⟨element, among, read⟩ := gives_source _ _ parts.states state known
  have own := state_parts spec.kind element state read
  have stands := states_stand admits element among
  refine ⟨⟨state_filled spec.kind element state read, .state, element, stands, own.line⟩, ?_, fun one member => ?_⟩
  · exact fields_lined admits .state element stands (.inl rfl) _ own.fields
  · exact sourced_lined _ _ _ _
      (carries_sourced start parts admits _ _ _ (.impl _ _ _ _ (.state state known) one member))

theorem declared_shown (event : Event) (declared : event ∈ spec.declaredEvents) :
    OwnerShown spec root event.name event.fields event.impls event.line := by
  obtain ⟨element, among, read⟩ := gives_source _ _ parts.declaredEvents event declared
  have own := event_parts element event read
  have stands := events_stand admits element among
  refine ⟨⟨event_filled element event read, .event, element, stands, own.line⟩, ?_, fun one member => ?_⟩
  · exact fields_lined admits .event element stands (.inr rfl) _ own.fields
  · exact sourced_lined _ _ _ _
      (carries_sourced start parts admits _ _ _ (.impl _ _ _ _ (.event event (.inl declared)) one member))

-- An event without a declaration stands on the line of what refers to it first.
theorem owner_shown (name : Text) (fields : List Field) (impls : List Method) (line : Nat)
    (owns : Owns spec name fields impls line) : OwnerShown spec root name fields impls line := by
  cases owns with
  | state state known => exact state_shown parts admits state known
  | event event known =>
      rcases known with declared | known
      · exact declared_shown parts admits event declared
      rcases event_origin spec event known with declared | ⟨⟨⟨owner, one⟩, listed, ⟨name, line⟩, _⟩, noFields, noImpls⟩
      · exact declared_shown parts admits event declared
      · obtain ⟨state, among, own⟩ := List.mem_flatMap.mp listed
        obtain ⟨other, member, same⟩ := List.mem_map.mp own
        cases same
        rw [name, line, noFields, noImpls]
        exact ⟨transition_shown parts admits state among one member, nofun, nofun⟩

theorem trait_shown (side : Side) (one : Trait) (declared : spec.declaredTrait side = some one) :
    Shown spec.kind root one.name one.line := by
  obtain ⟨element, stands, read⟩ := trait_sourced start parts admits side one declared
  exact ⟨trait_filled element one read, .trait_, element, stands, (trait_parts element one read).line⟩

theorem enumeration_shown (one : Enumeration) (known : one ∈ spec.stateEnum.toList ++ spec.eventEnum.toList) :
    Shown spec.kind root one.name one.line := by
  have from_ (label : Text) (known : label = Text.fixed "state_enum" ∨ label = Text.fixed "event_enum")
      (element : Element) (among : element ∈ named label root.children) (read : enumeration element = .ok one) :
      Shown spec.kind root one.name one.line :=
    ⟨enumeration_filled element one read, .enumeration, element, enumeration_stands admits label known element among,
      (enumeration_parts element one read).line⟩
  rcases List.mem_append.mp known with state | event
  · obtain ⟨element, among, read⟩ := gives_source _ _ parts.stateEnum one state
    exact from_ _ (.inl rfl) element among read
  · obtain ⟨element, among, read⟩ := gives_source _ _ parts.eventEnum one event
    exact from_ _ (.inr rfl) element among read

-- The machine has a name and a context, and stands on the line of the root.
structure MachineShown (spec : Spec) (root : Element) : Prop where
  name : Shown spec.kind root spec.name spec.line
  context : spec.context ≠ []

theorem site_shown (machine : MachineShown spec root) (name : Text) (line : Nat) (site : Site spec name line) :
    Shown spec.kind root name line := by
  induction site with
  | machine => exact machine.name
  | context => exact ⟨machine.context, machine.name.lined⟩
  | code => exact ⟨by decide, machine.name.lined⟩
  | trait_ side name named =>
      unfold Spec.traitName? at named
      cases declared : spec.declaredTrait side with
      | some one =>
          rw [declared] at named
          obtain rfl := Option.some.inj named
          exact trait_shown parts admits side one declared
      | none =>
          rw [declared] at named
          obtain ⟨_, same⟩ := Option.ite_none_right_eq_some.mp named
          obtain rfl := Option.some.inj same
          exact ⟨by simp [machine.name.filled], machine.name.lined⟩
  | base side one declared base => exact ⟨by simp, (trait_shown parts admits side one declared).lined⟩
  | method side one declared method member =>
      exact shown_below _ _ _ _ _ (sourced_lined _ _ _ _
        (carries_sourced start parts admits _ _ _ (.method side one declared method member)))
  | enumeration one known => exact enumeration_shown parts admits one known
  | decorator owner line _ ih => exact ⟨by simp [ih.filled], ih.lined⟩
  | owner name fields impls line owns => exact (owner_shown parts admits name fields impls line owns).shown
  | field name fields impls line owns one member =>
      exact shown_below _ _ _ _ _ ((owner_shown parts admits name fields impls line owns).fields one member)
  | impl name fields impls line owns one member =>
      exact shown_below _ _ _ _ _ ((owner_shown parts admits name fields impls line owns).impls one member)
  | machineClass state known =>
      exact ⟨by simp [machineClass, machine.name.filled], (state_shown parts admits state known).shown.lined⟩
  | transition state known one own =>
      exact shown_below _ _ _ _ _ (transition_shown parts admits state known one own).lined
  | trigger state known one own => exact transition_shown parts admits state known one own
  | pair state known one own =>
      obtain ⟨filled, lined⟩ := transition_shown parts admits state known one own
      exact ⟨by simp [pairElement, filled], lined⟩
  | catchAll one known =>
      exact ⟨by decide, sourced_lined _ _ _ _ (carries_sourced start parts admits _ _ _ (.catchAll one known))⟩

-- A hook that was added; the methods that a document declares are not.
theorem added_method (side : Side) (method : Resolved) (member : method ∈ spec.traitMethods side)
    (generated : method.generated = true) :
    method.line = 0 ∧ method.isAbstract = false ∧ methodCode ((spec.traitName? side).getD []) method = .ok () := by
  rcases List.mem_append.mp member with declared | added
  · obtain ⟨own, among, rfl⟩ := List.mem_map.mp declared
    cases given : spec.declaredTrait side with
    | none =>
        rw [given] at among
        cases among
    | some one =>
        rw [given] at among
        obtain ⟨element, _, read⟩ := trait_sourced start parts admits side one given
        obtain ⟨child, _, read⟩ := gives_source _ _ (trait_parts element one read).methods own among
        exact absurd generated (by simp [Spec.resolve, trait_method_declared child own read])
  · obtain ⟨hook, among, rfl⟩ := List.mem_map.mp added
    have known := (List.mem_filter.mp among).1
    exact ⟨rfl, hook_filled side hook (hook_listed side hook known), generated_passes side hook known _⟩

end

theorem carries_named (name text : Text) (line : Nat) (carries : Carries spec name text line) : name ≠ [] := by
  cases carries with
  | catchAll => decide
  | _ => simp

-- An element that a violation is reported for, on its line or below.
structure Pinned (kind : Kind) (root : Element) (violation : Violation) (element : Element) : Prop where
  stands : ∃ place, Stands kind root place element
  line : violation.breach ≠ .badBody → violation.line = element.line
  below : violation.breach = .badBody → ∃ isAsync at_, Code.readBody isAsync (body element) = .error at_ ∧
    violation.line = element.line + (at_ - 2)

theorem reported_pinned (parts : Parts start (fun label => named label root.children) spec)
    (admits : Admits spec.kind .machine root) (machine : MachineShown spec root) (violation : Violation)
    (reported : Reported spec violation) :
    violation.element ≠ [] ∧ ∃ element, Pinned spec.kind root violation element := by
  cases reported with
  | site breach name line apart site =>
      obtain ⟨filled, place, element, stands, rfl⟩ := site_shown parts admits machine name line site
      exact ⟨filled, element, ⟨place, stands⟩, fun _ => rfl, fun same => absurd same apart⟩
  | body name stored own carries filled isAsync at_ broken =>
      obtain ⟨carrier, ⟨place, stands, _⟩, rfl, rfl⟩ := carries_sourced start parts admits name stored own carries
      exact ⟨carries_named name _ _ carries, carrier, ⟨place, stands⟩, fun apart => absurd rfl apart,
        fun _ => ⟨isAsync, at_, broken, rfl⟩⟩

theorem pinned_below (kind : Kind) (violation : Violation) (element : Element)
    (pinned : Pinned kind root violation element) : element.line ≤ violation.line := by
  by_cases broken : violation.breach = .badBody
  · obtain ⟨_, _, _, line⟩ := pinned.below broken
    exact line ▸ Nat.le_add_right _ _
  · exact (pinned.line broken).ge

end

theorem machine_shown (text : Text) (source : Option Text) (spec : Spec) (read : Spec.read text source = .ok spec)
    (root : Element) (parsed : Markup.read text = .ok root) : MachineShown spec root := by
  obtain ⟨line, start, begun, parts⟩ := read_parts text source spec read root parsed
  obtain ⟨kind, name, visibility, isAsync, given, rfl⟩ := begin_gives source root start begun
  refine ⟨⟨?_, .machine, root, .root, line⟩, ?_⟩
  · rw [parts.name]
    exact (require_gives _ _ _ _ given).1
  · have required : Text.fixed "context" ∈ requiredFields spec.kind := by cases spec.kind <;> decide
    obtain ⟨element, among, label⟩ := read_required text source spec read root parsed _ required
    have listed : element ∈ named "context" root.children := List.mem_filter.mpr ⟨among, by simp [label]⟩
    rw [parts.context]
    exact fun none_ => parts.typed element listed (List.flatMap_eq_nil_iff.mp none_ element listed)

end Reading

open Reading
open Markup (Opened Decodes lineAt)

theorem Violation.message_eq (violation : Violation) (named : violation.element ≠ []) (counted : 1 ≤ violation.line) :
    violation.message = "line " ++ Text.signed violation.line ++ ": " ++
      (violation.element ++ ": " ++ violation.breach.text) := by
  have apart : violation.line ≠ 0 := by omega
  have filled : violation.element.isEmpty = false := by simpa using named
  simp [message, elementMessage, apart, filled]

/-- Whatever is violated in a document that is read is reported with a name and on a line of the document: that of an
element, or, for a body that cannot be read, as far below it as the mistake stands below the first line of the body. A
hook that was added stands on no line, but it has a body, and its code can be read. -/
theorem violations_located (text : Text) (source : Option Text) (spec : Spec) (read : Spec.read text source = .ok spec)
    (rejection : Rejection) (refused : spec.validate = .error rejection) :
    (∃ violation root document element front behind, rejection = .violation violation ∧
      violation.element ≠ [] ∧ 1 ≤ violation.line ∧
      violation.message = "line " ++ Text.signed violation.line ++ ": " ++
        (violation.element ++ ": " ++ violation.breach.text) ∧
      Markup.read text = .ok root ∧ Decodes text document ∧ Pinned spec.kind root violation element ∧
      Opened document front behind element.name element.attributes element.line) ∧
    ∀ side, ∀ method ∈ spec.traitMethods side, method.generated = true →
      method.line = 0 ∧ method.isAbstract = false ∧
        Validation.methodCode ((spec.traitName? side).getD []) method = .ok () := by
  obtain ⟨root, _, _, parsed, _, _⟩ := read_filled text source spec read
  obtain ⟨_, start, _, parts⟩ := read_parts text source spec read root parsed
  obtain ⟨document, decodes, whole⟩ := Markup.read_located text root parsed
  have admits := (read_admits text source spec read root parsed).2
  refine ⟨?_, fun side method member generated => added_method parts admits side method member generated⟩
  obtain ⟨violation, rfl, reported⟩ := Validation.validate_reports (read_enumerated text source spec read) _ refused
  obtain ⟨filled, element, pinned⟩ :=
    reported_pinned parts admits (machine_shown text source spec read root parsed) violation reported
  obtain ⟨place, stands⟩ := pinned.stands
  obtain ⟨_, front, behind, written, _⟩ := stands_located spec.kind root place element stands document whole
  have counted : 1 ≤ violation.line := by
    have line : element.line = 1 + front.count '\n' := written.opened.counted
    have below := pinned_below spec.kind violation element pinned
    omega
  exact ⟨violation, root, document, element, front, behind, rfl, filled, counted, violation.message_eq filled counted,
    parsed, decodes, pinned, written.opened⟩

-- A siren whose only event has the name of the machine; the event is on the line of the reaction that refers to it.
def sirenText : Text :=
  "<event_driven_state_machine name=\"Siren\"><context type=\"list\"/><state_enum name=\"Mode\"/>
<event_enum name=\"Call\"/><states><state name=\"Quiet\">
<on event=\"Siren\">return None</on></state></states></event_driven_state_machine>"

def sirenSpec : Spec :=
  { kind := .eventDriven, name := "Siren", context := "list"
    states := [{ name := "Quiet", line := 2
                 transitions := [{ source := "Quiet", trigger := "Siren", body := "return None", line := 3 }] }]
    stateEnum := some { name := "Mode", line := 1 }, eventEnum := some { name := "Call", line := 2 }, line := 1 }

theorem siren_clash_located :
    Spec.read sirenText none = .ok sirenSpec ∧
      sirenSpec.validate = .error (.violation ⟨.eventClash, "Siren", 3⟩) ∧
      ∃ violation root document element front behind,
        Rejection.violation ⟨.eventClash, "Siren", 3⟩ = .violation violation ∧ 1 ≤ violation.line ∧
        Markup.read sirenText = .ok root ∧ Decodes sirenText document ∧
        Pinned .eventDriven root violation element ∧
        Opened document front behind element.name element.attributes element.line := by
  have read : Spec.read sirenText none = .ok sirenSpec := by decide +kernel
  have refused : sirenSpec.validate = .error (.violation ⟨.eventClash, "Siren", 3⟩) := by decide +kernel
  obtain ⟨violation, root, document, element, front, behind, same, _, counted, _, own, decodes, pinned, opened⟩ :=
    (violations_located _ none _ read _ refused).1
  exact ⟨read, refused, violation, root, document, element, front, behind, same, counted, own, decodes, pinned, opened⟩

end Statewright
