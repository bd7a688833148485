import Statewright.Proofs.BodyBlocks
import Statewright.Proofs.Identifiers

/-!
Where the bodies of a specification are written. Each has a function in the module, which ends with its block.
-/
set_option autoImplicit false

namespace Statewright

open Validation
open Emission (Lines margined)
open Emission.EventDriven (Parts)

namespace Spec

-- A body of a specification, the lines of the function that it is written in, and how far it is moved there.
inductive WritesBody (spec : Spec) : Lines → Nat → Text → Prop
  | method (side : Side) (shown : spec.Shows side) (method : Resolved) (member : method ∈ spec.traitMethods side) :
      WritesBody spec (Emission.traitMethod method) 8 method.body
  | stateImpl (state : State) (declared : state ∈ spec.states) (impl : Method) (member : impl ∈ state.impls) :
      WritesBody spec (Emission.implMethod (spec.traitMethods .state) impl) 8 impl.body
  | eventImpl (kind : spec.kind = .eventDriven) (event : Event) (declared : event ∈ spec.declaredEvents)
      (impl : Method) (member : impl ∈ event.impls) :
      WritesBody spec (Emission.implMethod (spec.traitMethods .event) impl) 8 impl.body
  | transition (kind : spec.kind = .deterministic) (state : State) (declared : state ∈ spec.states)
      (transition : Transition) (member : transition ∈ state.transitions) :
      WritesBody spec (Emission.Deterministic.bodyFunction spec state.name transition) 4 transition.body
  | handler (parts : Parts) (made : ValidParts parts) (own : parts.spec = spec) (state : State)
      (declared : state ∈ spec.states) (transition : Transition) (member : transition ∈ state.transitions) :
      WritesBody spec
        (Emission.EventDriven.handler parts ⟨state.name, transition.trigger, .explicit transition⟩) 4 transition.body
  | catchAll (parts : Parts) (made : ValidParts parts) (own : parts.spec = spec) (catchAll : CatchAll)
      (member : catchAll ∈ spec.catchAlls) :
      WritesBody spec (Emission.EventDriven.catchAllLines parts) 4 catchAll.body

end Spec

/-! Events and the handler of all others. -/

theorem sole_catch_all (spec : Spec) (valid : spec.validate = .ok ()) (kind : spec.kind = .eventDriven)
    (catchAll : CatchAll) (member : catchAll ∈ spec.catchAlls) : spec.catchAll? = some catchAll := by
  obtain ⟨_, kinds, _, _⟩ := (validate_eq_ok spec).mp valid
  obtain ⟨_, _, sole, _⟩ := (event_driven_kind_eq_ok spec kind).mp kinds
  unfold Spec.catchAll?
  cases listed : spec.catchAlls with
  | nil =>
      rw [listed] at member
      cases member
  | cons first rest =>
      cases rest with
      | nil =>
          rw [listed, List.mem_singleton] at member
          rw [member]
          rfl
      | cons second rest => simp [listed] at sole

theorem parts_unique (parts other : Parts) (made : ValidParts parts) (also : ValidParts other)
    (same : parts.spec = other.spec) : parts = other := by
  have states := also.stateEnum
  have events := also.eventEnum
  have table := also.table
  rw [← same, made.stateEnum] at states
  rw [← same, made.eventEnum] at events
  rw [← same, made.table] at table
  obtain ⟨spec, stateEnum, eventEnum, own⟩ := parts
  obtain ⟨spec', stateEnum', eventEnum', own'⟩ := other
  cases same
  cases states
  cases events
  cases table
  rfl

namespace Emission

/-! Functions end with the block of their body. -/

theorem full_method_ends (method : Resolved) (body : Text) : margined 8 body <:+ fullMethod method body :=
  List.suffix_append _ _

theorem trait_method_ends (method : Resolved) (filled : Text.blank method.body = false) :
    margined 8 method.body <:+ traitMethod method := by
  rw [traitMethod, Resolved.isAbstract, filled]
  exact full_method_ends method method.body

theorem impl_method_ends (methods : List Resolved) (impl : Method)
    (listed : ∃ method ∈ methods, method.name = impl.name) : margined 8 impl.body <:+ implMethod methods impl := by
  unfold implMethod
  cases found : methods.find? (·.name == impl.name) with
  | none =>
      obtain ⟨method, member, same⟩ := listed
      exact absurd same (by simpa using List.find?_eq_none.mp found method member)
  | some method => exact full_method_ends method impl.body

theorem body_function_ends (spec : Spec) (state : Text) (transition : Transition) :
    margined 4 transition.body <:+ Deterministic.bodyFunction spec state transition := List.suffix_append _ _

theorem handler_ends (parts : Parts) (state event : Text) (transition : Transition)
    (filled : Text.blank transition.body = false) :
    margined 4 transition.body <:+ EventDriven.handler parts ⟨state, event, .explicit transition⟩ := by
  have written : transition.isShorthand = false := by simp [Transition.isShorthand, filled]
  simp only [EventDriven.handler, written]
  cases transition.target <;> exact List.suffix_append [[], [], _] _

theorem catch_all_ends (parts : Parts) (catchAll : CatchAll) (sole : parts.spec.catchAll? = some catchAll) :
    margined 4 catchAll.body <:+ EventDriven.catchAllLines parts := by
  rw [EventDriven.catchAllLines, sole]
  exact List.suffix_append [[], [], _] _

/-! Functions stand in the module. -/

theorem trait_class_holds (name : Text) (bases : List Text) (methods : List Resolved) (doc : Text) (method : Resolved)
    (member : method ∈ methods) : traitMethod method <:+: traitClass name bases methods doc :=
  (flatMap_holds traitMethod methods method member).trans (List.infix_append _ _ _)

theorem data_class_holds (name : Text) (base : Option Text) (fields : List Field) (impls : List Method)
    (methods : List Resolved) (impl : Method) (member : impl ∈ impls) :
    implMethod methods impl <:+: dataClass name base fields impls methods :=
  (flatMap_holds (implMethod methods) impls impl member).trans (List.infix_append _ _ _)

namespace Deterministic

variable (spec : Spec)

theorem trait_lines_hold (kind : spec.kind = .deterministic) (method : Resolved)
    (member : method ∈ spec.traitMethods .state) : traitMethod method <:+: traitLines spec := by
  cases declared : spec.stateTrait with
  | none => simp [Spec.traitMethods, Spec.declaredTrait, declared, Spec.hooks, Spec.isEventDriven, kind] at member
  | some trait_ => exact (trait_class_holds _ _ _ _ method member).trans (trait_class_stands spec trait_ declared)

theorem state_lines_hold (state : State) (declared : state ∈ spec.states) (impl : Method)
    (member : impl ∈ state.impls) : implMethod (spec.traitMethods .state) impl <:+: stateLines spec :=
  (data_class_holds _ _ _ _ _ impl member).trans (state_class_stands spec state declared)

theorem machine_class_holds (state : State) (own : Lines) (formed : machineClass spec state = .ok own)
    (transition : Transition) (member : transition ∈ state.transitions) :
    bodyFunction spec state.name transition <:+: own := by
  unfold machineClass at formed
  cases methods : machineMethods spec state.name state.transitions with
  | error line => simp [methods, Except.map] at formed
  | ok methods_ =>
      simp only [methods, Except.map, Except.ok.injEq] at formed
      rw [← formed, List.append_assoc]
      exact (flatMap_holds (bodyFunction spec state.name) _ transition member).trans (List.prefix_append _ _).isInfix

end Deterministic

namespace EventDriven

variable (parts : Parts)

theorem trait_lines_hold (side : Side) (method : Resolved) (member : method ∈ parts.methods side) :
    traitMethod method <:+: traitLines parts side :=
  (trait_class_holds _ _ _ _ method member).trans (trait_class_stands parts side)

theorem state_lines_hold (state : State) (declared : state ∈ parts.spec.states) (impl : Method)
    (member : impl ∈ state.impls) : implMethod (parts.methods .state) impl <:+: stateLines parts :=
  (data_class_holds _ _ _ _ _ impl member).trans (state_class_stands parts state declared)

theorem event_lines_hold (event : Event) (known : event ∈ parts.spec.events) (impl : Method)
    (member : impl ∈ event.impls) : implMethod (parts.methods .event) impl <:+: eventLines parts :=
  (data_class_holds _ _ _ _ _ impl member).trans (event_class_stands parts event known)

end EventDriven

end Emission

/-! Bodies. -/

theorem explicit_listed (parts : Parts) (made : ValidParts parts) (state : State) (declared : state ∈ parts.spec.states)
    (transition : Transition) (member : transition ∈ state.transitions) :
    ⟨state.name, transition.trigger, .explicit transition⟩ ∈ parts.table.explicitEntries := by
  have owned := owned_transition parts.spec state declared transition member
  have looked := entry_explicit parts.spec (pairs_distinct parts.spec made.accepted) parts.table made.table
    state.name transition owned
  exact List.mem_filter.mpr ⟨List.mem_of_find?_eq_some looked, rfl⟩

section
variable (spec : Spec) (valid : spec.validate = .ok ()) (function : Lines) (width : Nat) (body : Text)
  (writes : spec.WritesBody function width body)
include valid writes

theorem function_ends (filled : Text.blank body = false) : margined width body <:+ function := by
  cases writes with
  | method side shown method member => exact Emission.trait_method_ends method filled
  | stateImpl state declared impl member =>
      exact Emission.impl_method_ends _ impl
        (impls_listed spec valid .state (.inr rfl) _ (List.mem_map_of_mem declared) impl member)
  | eventImpl kind event declared impl member =>
      have known := declared_known spec ((names_of_valid spec valid).events kind).1 event declared
      exact Emission.impl_method_ends _ impl
        (impls_listed spec valid .event (.inl kind) _ (List.mem_map_of_mem known) impl member)
  | transition kind state declared transition member => exact Emission.body_function_ends spec state.name transition
  | handler parts made own state declared transition member =>
      exact Emission.handler_ends parts state.name transition.trigger transition filled
  | catchAll parts made own catchAll member =>
      subst own
      exact Emission.catch_all_ends parts catchAll (sole_catch_all parts.spec valid made.kind catchAll member)

theorem function_stands (table : Option Table) (prepared : spec.prepare = .ok table) (lines : Lines)
    (written : spec.moduleLines table = .ok lines) : function <:+: lines := by
  cases kind : spec.kind with
  | deterministic =>
      rw [deterministic_lines spec kind] at written
      have sections := Emission.Deterministic.module_sections spec lines written
      have apart : spec.kind ≠ .eventDriven := by simp [kind]
      cases writes with
      | method side shown method member =>
          obtain rfl : side = .state := shown.resolve_left apart
          exact (Emission.Deterministic.trait_lines_hold spec kind method member).trans sections.traits
      | stateImpl state declared impl member =>
          exact (Emission.Deterministic.state_lines_hold spec state declared impl member).trans sections.states
      | eventImpl other => exact absurd other apart
      | transition _ state declared transition member =>
          obtain ⟨own, formed, within⟩ := sections.classes state declared
          exact (Emission.Deterministic.machine_class_holds spec state own formed transition member).trans within
      | handler parts made same => exact absurd (same ▸ made.kind) apart
      | catchAll parts made same => exact absurd (same ▸ made.kind) apart
  | eventDriven =>
      obtain ⟨parts, rfl, accepted, rfl⟩ := prepared_parts spec valid kind table prepared
      rw [parts_lines parts accepted] at written
      have sections := Emission.EventDriven.module_sections parts lines written
      cases writes with
      | method side shown method member =>
          exact (Emission.EventDriven.trait_lines_hold parts side method member).trans (sections.traits side)
      | stateImpl state declared impl member =>
          exact (Emission.EventDriven.state_lines_hold parts state declared impl member).trans sections.states
      | eventImpl _ event declared impl member =>
          have known := declared_known parts.spec ((names_of_valid parts.spec valid).events kind).1 event declared
          exact (Emission.EventDriven.event_lines_hold parts event known impl member).trans sections.events
      | transition other => simp [kind] at other
      | handler other made same state declared transition member =>
          obtain rfl := parts_unique other parts made accepted same
          have listed := explicit_listed other made state declared transition member
          exact (Emission.flatMap_holds (Emission.EventDriven.handler other) _ _ listed).trans sections.handlers
      | catchAll other made same catchAll member =>
          obtain rfl := parts_unique other parts made accepted same
          exact sections.catchAll

end

theorem indents_bodies (spec : Spec) (function : Lines) (width : Nat) (body : Text)
    (writes : spec.WritesBody function width body) : 0 < width := by
  cases writes <;> decide

open Code in
/-- Each body of a valid specification is written in a function of the module, which ends with the block of the body. If
the body can be read on its own and its lines keep their places when they are moved, the block has the tokens of the body
between its own, with the strings as they are moved. These are the tokens of the body itself exactly if no string of it
goes on in a further line. -/
theorem emitted_body_tokens (spec : Spec) (valid : spec.validate = .ok ()) (table : Option Table)
    (prepared : spec.prepare = .ok table) (lines : Lines) (written : spec.moduleLines table = .ok lines)
    (function : Lines) (width : Nat) (body : Text) (writes : spec.WritesBody function width body)
    (filled : Text.blank body = false) :
    function <:+: lines ∧ margined width body <:+ function ∧
      (Movable width body →
        (∃ shared first last, tokensOfLines body = shared ++ [⟨.finish, last, 0⟩] ∧
          blockTokens width body = blockAround first last (shared.map (Token.carried width))) ∧
        (SameTokens (tokensOfLines body) (blockTokens width body) ↔
          ∀ token ∈ tokensOfLines body, token.goesOn = false)) := by
  have indents := indents_bodies spec function width body writes
  refine ⟨function_stands spec valid function width body writes table prepared lines written,
    function_ends spec valid function width body writes filled, fun movable => ⟨?_, ?_⟩⟩
  · exact block_carried width indents body filled movable
  · exact same_tokens_iff width indents body filled movable

-- A note that is open, and signed by a body.
def noteSpec (body : Text) : Spec :=
  { kind := .deterministic, name := "Note", context := "list"
    states := [{ name := "Open", transitions := [{ source := "Open", trigger := "sign", body }] }] }

theorem note_writes (body : Text) : ∃ function, (noteSpec body).WritesBody function 4 body :=
  ⟨_, .transition rfl _ List.mem_cons_self { source := "Open", trigger := "sign", body } List.mem_cons_self⟩

-- A block by a tab, a bracket over two lines, a comment and an empty line.
def listBody : Text := "if context:\n\tcontext.append((1,\n  2))  # both\n\ncontext.append('all')"

open Code in
theorem note_list_kept :
    (noteSpec listBody).validate = .ok () ∧ Movable 4 listBody ∧
      SameTokens (tokensOfLines listBody) (blockTokens 4 listBody) := by
  have valid : (noteSpec listBody).validate = .ok () := by decide +kernel
  have movable : Movable 4 listBody := by decide +kernel
  have plain : ∀ token ∈ tokensOfLines listBody, token.goesOn = false := by decide +kernel
  have prepared := prepare_deterministic (noteSpec listBody) valid rfl
  obtain ⟨lines, written⟩ : ∃ lines, (noteSpec listBody).moduleLines none = .ok lines := ⟨_, rfl⟩
  obtain ⟨function, writes⟩ := note_writes listBody
  have emitted := emitted_body_tokens (noteSpec listBody) valid none prepared lines written function 4 listBody writes
    (by decide +kernel)
  exact ⟨valid, movable, (emitted.2.2 movable).2.mpr plain⟩

-- A string over two lines, of which the second is written with the margin of the block.
def letterBody : Text := "context.append(\"\"\"dear\nall\"\"\")"

open Code in
theorem note_letter_indented :
    (noteSpec letterBody).validate = .ok () ∧ (∃ function, (noteSpec letterBody).WritesBody function 4 letterBody) ∧
      Text.blank letterBody = false ∧ ¬ SameTokens (tokensOfLines letterBody) (blockTokens 4 letterBody) := by
  have filled : Text.blank letterBody = false := by decide +kernel
  have further : ¬ ∀ token ∈ tokensOfLines letterBody, token.goesOn = false := by decide +kernel
  refine ⟨by decide +kernel, note_writes letterBody, filled, ?_⟩
  rwa [same_tokens_iff 4 (by decide) letterBody filled (by decide +kernel)]

end Statewright
