import Statewright.Emission.Module
import Statewright.Proofs.ParameterLists
import Statewright.Proofs.ReadSpecs
import Statewright.Proofs.Tables

/-!
What becomes of a specification. Everything that goes wrong is reported as a flaw of its shape, as a violation or as a
module that is no valid code, except that a parameter list to be handed on may begin with a slash: it stands behind the
object in a heading, but is read alone when it is handed on.
-/
set_option autoImplicit false

namespace Statewright

open Code (Reads Reading readMethodParams readParams forwardingText opensWithSlash)
open Validation (WellCoded)

namespace Code

theorem reads_map {α β : Type} (reading : Reading α) (change : α → β) : Reads (reading.map change) ↔ Reads reading := by
  cases reading <;> simp [Reads, Except.map]

-- Two readings, one after the other, of which neither depends on the other.
theorem reads_both {α β γ : Type} (first : Reading α) (second : Reading β) (join : α → β → γ) :
    Reads (do
      let one ← first
      let two ← second
      return join one two) ↔ Reads first ∧ Reads second := by
  cases first with
  | error line => simp [Reads, Bind.bind, Except.bind]
  | ok one => cases second <;> simp [Reads, Bind.bind, Except.bind, pure, Except.pure]

-- A list that is left blank is handed on as nothing.
def handsOn (params : Text) : Bool := Text.blank params || !opensWithSlash params

theorem forwarding_reads_iff (params : Text) (accepted : params ≠ [] → Reads (readMethodParams params)) :
    Reads (forwardingText params) ↔ handsOn params = true := by
  unfold forwardingText handsOn
  cases blank : Text.blank params with
  | true => simp [Reads]
  | false =>
      have filled : params ≠ [] := by
        rintro rfl
        cases blank
      obtain ⟨read, accepted⟩ := accepted filled
      rw [if_neg Bool.false_ne_true, reads_map, Bool.false_or]
      cases begins : opensWithSlash params with
      | false =>
          have alone := alone_of_after_object params read (by simpa using filled) accepted begins
          simp [Reads, alone]
      | true =>
          have stuck : ¬ Reads (readParams params) := by
            rintro ⟨other, alone⟩
            exact alone_ne_ok params other begins alone
          simpa using stuck

end Code

/-! Lines. -/

namespace Emission

theorem delegates_read_iff (methods : List Resolved) :
    Reads (delegates methods) ↔ ∀ method ∈ methods, Reads (forwardingText method.params) := by
  induction methods with
  | nil => simp [delegates, Reads]
  | cons method rest ih => rw [delegates, Code.reads_both, List.forall_mem_cons, ih]

namespace Deterministic

theorem methods_read_iff (spec : Spec) (state : Text) (transitions : List Transition) :
    Reads (machineMethods spec state transitions) ↔
      ∀ transition ∈ transitions, Reads (forwardingText transition.params) := by
  induction transitions with
  | nil => simp [machineMethods, Reads]
  | cons transition rest ih => rw [machineMethods, Code.reads_both, List.forall_mem_cons, ih]

theorem classes_read_iff (spec : Spec) (states : List State) :
    Reads (machineClasses spec states) ↔
      ∀ state ∈ states, ∀ transition ∈ state.transitions, Reads (forwardingText transition.params) := by
  induction states with
  | nil => simp [machineClasses, Reads]
  | cons state rest ih =>
      rw [machineClasses, Code.reads_both, List.forall_mem_cons, ih, machineClass, Code.reads_map, methods_read_iff]

theorem module_reads_iff (spec : Spec) :
    Reads (module spec) ↔ ∀ transition ∈ spec.transitions, Reads (forwardingText transition.params) := by
  rw [module, Code.reads_map, classes_read_iff]
  simp only [Spec.transitions, List.mem_flatMap]
  constructor
  · rintro each transition ⟨state, declared, member⟩
    exact each state declared transition member
  · intro each state declared transition member
    exact each transition ⟨state, declared, member⟩

end Deterministic

namespace EventDriven

theorem module_reads_iff (parts : Parts) :
    Reads (module parts) ↔ ∀ side, ∀ method ∈ parts.spec.traitMethods side, Reads (forwardingText method.params) := by
  have states : Reads (enumerationClass (wrapping parts .state)) ↔
      ∀ method ∈ parts.spec.traitMethods .state, Reads (forwardingText method.params) := by
    rw [enumerationClass, Code.reads_map, delegates_read_iff]
    rfl
  have events : Reads (enumerationClass (wrapping parts .event)) ↔
      ∀ method ∈ parts.spec.traitMethods .event, Reads (forwardingText method.params) := by
    rw [enumerationClass, Code.reads_map, delegates_read_iff]
    rfl
  rw [module, Code.reads_both, states, events]
  constructor
  · rintro ⟨ofStates, ofEvents⟩ side
    cases side with
    | state => exact ofStates
    | event => exact ofEvents
  · intro each
    exact ⟨each .state, each .event⟩

end EventDriven

end Emission

namespace Spec

-- The parameter lists that a module hands on: those of its enumerations' methods, or of its machines'.
def handedOn (spec : Spec) : List Text :=
  match spec.kind with
  | .deterministic => spec.transitions.map (·.params)
  | .eventDriven => (spec.traitMethods .state ++ spec.traitMethods .event).map (·.params)

end Spec

/-! Outcomes. -/

theorem prepare_deterministic (spec : Spec) (valid : spec.validate = .ok ()) (kind : spec.kind = .deterministic) :
    spec.prepare = .ok none := by
  unfold Spec.prepare
  rw [valid]
  simp only [Spec.isEventDriven, kind]
  rfl

theorem prepare_event_driven (spec : Spec) (table : Table) (valid : spec.validate = .ok ())
    (kind : spec.kind = .eventDriven) (built : spec.table = .ok table) : spec.prepare = .ok (some table) := by
  unfold Spec.prepare
  rw [valid, built]
  simp only [Spec.isEventDriven, kind]
  rfl

theorem prepare_of_valid (spec : Spec) (valid : spec.validate = .ok ()) : ∃ table, spec.prepare = .ok table := by
  cases kind : spec.kind with
  | deterministic => exact ⟨none, prepare_deterministic spec valid kind⟩
  | eventDriven =>
      obtain ⟨table, built⟩ := table_built spec valid kind
      exact ⟨some table, prepare_event_driven spec table valid kind built⟩

theorem coded_of_valid (spec : Spec) (valid : spec.validate = .ok ()) : WellCoded spec :=
  (Validation.fragments_eq_ok spec).mp ((validate_eq_ok spec).mp valid).2.2.2

-- Every list that is handed on has been read behind the object.
theorem handed_on_accepted (spec : Spec) (valid : spec.validate = .ok ()) :
    ∀ params ∈ spec.handedOn, params ≠ [] → Reads (readMethodParams params) := by
  have coded := coded_of_valid spec valid
  intro params member filled
  unfold Spec.handedOn at member
  cases kind : spec.kind with
  | deterministic =>
      rw [kind] at member
      obtain ⟨transition, listed, rfl⟩ := List.mem_map.mp member
      obtain ⟨state, declared, inState⟩ := List.mem_flatMap.mp listed
      exact ((coded.states state declared).transitions transition inState).params filled
  | eventDriven =>
      rw [kind] at member
      obtain ⟨method, listed, rfl⟩ := List.mem_map.mp member
      rcases List.mem_append.mp listed with inState | inEvent
      · exact (coded.methods .state method inState).params
      · exact (coded.methods .event method inEvent).params

theorem deterministic_lines (spec : Spec) (kind : spec.kind = .deterministic) (table : Option Table) :
    spec.moduleLines table = Emission.Deterministic.module spec := by simp [Spec.moduleLines, kind]

theorem parts_lines (parts : Emission.EventDriven.Parts) (made : ValidParts parts) :
    parts.spec.moduleLines (some parts.table) = Emission.EventDriven.module parts := by
  simp [Spec.moduleLines, made.kind, made.stateEnum, made.eventEnum]

-- A valid event-driven specification is prepared with the table of its parts, and written from them.
theorem prepared_parts (spec : Spec) (valid : spec.validate = .ok ()) (kind : spec.kind = .eventDriven)
    (table : Option Table) (prepared : spec.prepare = .ok table) :
    ∃ parts : Emission.EventDriven.Parts, parts.spec = spec ∧ ValidParts parts ∧ table = some parts.table := by
  obtain ⟨parts, rfl, accepted⟩ := valid_parts_exist spec valid kind
  have own := prepare_event_driven parts.spec parts.table valid kind accepted.table
  exact ⟨parts, rfl, accepted, Except.ok.inj (prepared.symm.trans own)⟩

theorem lines_forward_iff (spec : Spec) (table : Option Table) (valid : spec.validate = .ok ())
    (prepared : spec.prepare = .ok table) :
    Reads (spec.moduleLines table) ↔ ∀ params ∈ spec.handedOn, Reads (forwardingText params) := by
  cases kind : spec.kind with
  | deterministic =>
      rw [deterministic_lines spec kind, Emission.Deterministic.module_reads_iff]
      simp [Spec.handedOn, kind]
  | eventDriven =>
      obtain ⟨parts, rfl, accepted, rfl⟩ := prepared_parts spec valid kind table prepared
      rw [parts_lines parts accepted, Emission.EventDriven.module_reads_iff]
      simp only [Spec.handedOn, kind, List.map_append, List.forall_mem_append, List.forall_mem_map]
      constructor
      · intro each
        exact ⟨each .state, each .event⟩
      · rintro ⟨ofStates, ofEvents⟩ side
        cases side with
        | state => exact ofStates
        | event => exact ofEvents

theorem lines_read_iff (spec : Spec) (table : Option Table) (valid : spec.validate = .ok ())
    (prepared : spec.prepare = .ok table) :
    Reads (spec.moduleLines table) ↔ ∀ params ∈ spec.handedOn, Code.handsOn params = true := by
  rw [lines_forward_iff spec table valid prepared]
  exact forall₂_congr fun params member =>
    Code.forwarding_reads_iff params (handed_on_accepted spec valid params member)

theorem refused_iff (spec : Spec) (rejection : Rejection) :
    spec.prepare = .error rejection ↔ spec.validate = .error rejection := by
  cases valid : spec.validate with
  | error other =>
      have stopped : spec.prepare = .error other := by
        unfold Spec.prepare
        rw [valid]
        rfl
      rw [stopped]
      simp
  | ok value =>
      obtain ⟨table, prepared⟩ := prepare_of_valid spec valid
      rw [prepared]
      simp

theorem emit_fails (spec : Spec) (table : Option Table) (failure : Failure)
    (failed : spec.emit table = .error failure) :
    failure = .forwarding ∨ failure = .invalidModule spec.name := by
  unfold Spec.emit at failed
  cases written : spec.moduleLines table with
  | error line =>
      rw [written] at failed
      exact .inl (Except.error.inj failed).symm
  | ok lines =>
      rw [written] at failed
      change spec.checkModule (spec.moduleText lines) = .error failure at failed
      unfold Spec.checkModule at failed
      cases read : Code.readStatements (spec.moduleText lines) with
      | ok statements =>
          rw [read] at failed
          cases failed
      | error line =>
          rw [read] at failed
          exact .inr (Except.error.inj failed).symm

-- A valid specification whose lists can all be handed on is written and then read once more as a whole.
theorem render_of_valid (spec : Spec) (table : Option Table) (lines : Emission.Lines)
    (prepared : spec.prepare = .ok table) (written : spec.moduleLines table = .ok lines) :
    spec.render = spec.checkModule (spec.moduleText lines) := by
  unfold Spec.render Spec.emit
  rw [prepared]
  simp only [written]

theorem render_of_invalid (spec : Spec) (rejection : Rejection) (invalid : spec.validate = .error rejection) :
    spec.render = .error (.rejected rejection) := by
  unfold Spec.render
  rw [(refused_iff spec rejection).mpr invalid]

theorem render_forwarding_iff (spec : Spec) :
    spec.render = .error .forwarding ↔
      spec.validate = .ok () ∧ ∃ params ∈ spec.handedOn, Code.handsOn params = false := by
  cases valid : spec.validate with
  | error rejection => simp [render_of_invalid spec rejection valid]
  | ok value =>
      obtain ⟨table, prepared⟩ := prepare_of_valid spec valid
      have reads := lines_read_iff spec table valid prepared
      cases written : spec.moduleLines table with
      | ok lines =>
          have each := reads.mp ⟨lines, written⟩
          have kept : ∀ params ∈ spec.handedOn, ¬ Code.handsOn params = false := by
            intro params member
            simp [each params member]
          rw [render_of_valid spec table lines prepared written, Spec.checkModule]
          cases Code.readStatements (spec.moduleText lines) with
          | ok read => simpa using kept
          | error line => simpa using kept
      | error line =>
          have stopped : spec.render = .error .forwarding := by
            unfold Spec.render Spec.emit
            rw [prepared]
            simp only [written]
          have unread : ¬ ∀ params ∈ spec.handedOn, Code.handsOn params = true := by
            intro each
            obtain ⟨lines, other⟩ := reads.mpr each
            rw [written] at other
            cases other
          simpa [stopped] using unread

-- A valid specification of this document hands on a list that begins with a slash.
def HandsOnSlash (text : Text) (source : Option Text) : Prop :=
  ∃ spec, Spec.read text source = .ok spec ∧ spec.validate = .ok () ∧
    ∃ params ∈ spec.handedOn, Code.handsOn params = false

theorem render_text_forwarding_iff (text : Text) (source : Option Text) :
    renderText text source = .error .forwarding ↔ HandsOnSlash text source := by
  unfold renderText HandsOnSlash
  cases read : Spec.read text source with
  | error misshape => simp
  | ok spec => simp [render_forwarding_iff]

-- What the program reports by itself.
def Failure.Reported (failure : Failure) : Prop :=
  (∃ misshape, failure = .shape misshape) ∨ (∃ violation, failure = .rejected (.violation violation)) ∨
    ∃ machine, failure = .invalidModule machine

theorem rendered_through (text : Text) (source : Option Text) (module : Text)
    (rendered : renderText text source = .ok module) :
    ∃ spec table, Spec.read text source = .ok spec ∧ spec.prepare = .ok table ∧ spec.emit table = .ok module := by
  unfold renderText at rendered
  cases read : Spec.read text source with
  | error misshape =>
      rw [read] at rendered
      cases rendered
  | ok spec =>
      rw [read] at rendered
      change spec.render = .ok module at rendered
      unfold Spec.render at rendered
      cases prepared : spec.prepare with
      | error rejection =>
          rw [prepared] at rendered
          cases rendered
      | ok table =>
          rw [prepared] at rendered
          exact ⟨spec, table, rfl, prepared, rendered⟩

-- Where rendering a text stops.
inductive StopsAt (text : Text) (source : Option Text) : Failure → Prop
  | reading (misshape : Misshape) (read : Spec.read text source = .error misshape) :
      StopsAt text source (.shape misshape)
  | checking (spec : Spec) (rejection : Rejection) (read : Spec.read text source = .ok spec)
      (refused : spec.prepare = .error rejection) : StopsAt text source (.rejected rejection)
  | writing (spec : Spec) (table : Option Table) (failure : Failure) (read : Spec.read text source = .ok spec)
      (prepared : spec.prepare = .ok table) (stopped : spec.emit table = .error failure) : StopsAt text source failure

theorem stops_of_failed (text : Text) (source : Option Text) (failure : Failure)
    (failed : renderText text source = .error failure) : StopsAt text source failure := by
  unfold renderText at failed
  cases read : Spec.read text source with
  | error misshape =>
      rw [read] at failed
      obtain rfl := Except.error.inj failed
      exact .reading misshape read
  | ok spec =>
      rw [read] at failed
      change spec.render = .error failure at failed
      unfold Spec.render at failed
      cases prepared : spec.prepare with
      | error rejection =>
          rw [prepared] at failed
          obtain rfl := Except.error.inj failed
          exact .checking spec rejection read prepared
      | ok table =>
          rw [prepared] at failed
          exact .writing spec table failure read prepared failed

theorem reported_of_failed (text : Text) (source : Option Text) (failure : Failure)
    (failed : renderText text source = .error failure) (plain : ¬ HandsOnSlash text source) : failure.Reported := by
  cases stops_of_failed text source failure failed with
  | reading misshape read => exact .inl ⟨misshape, rfl⟩
  | checking spec rejection read refused =>
      obtain ⟨violation, rfl⟩ := Validation.validate_explains spec (read_enumerated text source spec read) rejection
        ((refused_iff spec rejection).mp refused)
      exact .inr (.inl ⟨violation, rfl⟩)
  | writing spec table _ read prepared stopped =>
      rcases emit_fails spec table failure stopped with rfl | rfl
      · exact absurd ((render_text_forwarding_iff text source).mp failed) plain
      · exact .inr (.inr ⟨spec.name, rfl⟩)

end Statewright
