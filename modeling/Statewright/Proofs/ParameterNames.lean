import Statewright.Proofs.EmittedBodies
import Statewright.Proofs.Forwarding
import Statewright.Proofs.HelperNames
import Statewright.Proofs.Typestates

/-!
The names of parameters in the functions of a module. A list of parameters stands in the heading of every function that
takes it, behind what the function gets first, and in a method of a deterministic machine next to the names that the
method reads. A function can have the heading, and the method finds what it reads, if the names stay apart.
-/
set_option autoImplicit false

namespace Statewright

open Emission (Lines signature)
open Emission.Deterministic (bodyHeading methodHeading bodyName target?)
open Emission.EventDriven (Parts)

-- The line that opens a function, the class that the function stands in, and its parameters: those in front, and the
-- list of a specification.
structure Heading where
  line : Text
  owner : Text
  front : List Text
  list : Text

namespace Heading

def ofMethod (owner line list : Text) : Heading := ⟨line, owner, [Text.fixed "self"], list⟩

def ofBody (spec : Spec) (state : Text) (transition : Transition) : Heading :=
  ⟨bodyHeading spec state transition, [], [Text.fixed "state", Text.fixed "context"], transition.params⟩

def formals (heading : Heading) (params : Code.Params) : Machine.Formals Machine.Value :=
  (Machine.formalsOf params).headed heading.owner heading.front

end Heading

namespace Spec

-- A function of the module that takes a list of parameters of the specification.
inductive Heads (spec : Spec) : Heading → Prop
  | traitMethod (side : Side) (shown : spec.Shows side) (owner : Text) (named : spec.traitName? side = some owner)
      (method : Resolved) (member : method ∈ spec.traitMethods side) :
      Heads spec (.ofMethod owner ("    " ++ signature method) method.params)
  | stateMethod (state : State) (declared : state ∈ spec.states) (impl : Method) (member : impl ∈ state.impls)
      (method : Resolved) (found : (spec.traitMethods .state).find? (·.name == impl.name) = some method) :
      Heads spec (.ofMethod state.name ("    " ++ signature method) method.params)
  | eventMethod (kind : spec.kind = .eventDriven) (event : Event) (declared : event ∈ spec.declaredEvents)
      (impl : Method) (member : impl ∈ event.impls) (method : Resolved)
      (found : (spec.traitMethods .event).find? (·.name == impl.name) = some method) :
      Heads spec (.ofMethod event.name ("    " ++ signature method) method.params)
  | delegate (parts : Parts) (made : ValidParts parts) (own : parts.spec = spec) (side : Side) (method : Resolved)
      (member : method ∈ spec.traitMethods side) :
      Heads spec (.ofMethod (Emission.EventDriven.wrapping parts side).name ("    " ++ signature method) method.params)
  | machineMethod (kind : spec.kind = .deterministic) (state : State) (declared : state ∈ spec.states)
      (transition : Transition) (member : transition ∈ state.transitions) :
      Heads spec (.ofMethod (spec.name ++ state.name) (methodHeading spec transition) transition.params)
  | body (kind : spec.kind = .deterministic) (state : State) (declared : state ∈ spec.states) (transition : Transition)
      (member : transition ∈ state.transitions) : Heads spec (.ofBody spec state.name transition)

end Spec

/-! Where the headings stand. -/

namespace Emission

theorem trait_method_headed (method : Resolved) : ("    " ++ signature method : Text) ∈ traitMethod method := by
  rw [traitMethod]
  by_cases required : method.isAbstract = true
  · rw [if_pos required]
    simp [abstractMethod]
  · rw [if_neg required]
    simp [fullMethod]

theorem impl_method_headed (methods : List Resolved) (impl : Method) (method : Resolved)
    (found : methods.find? (·.name == impl.name) = some method) :
    ("    " ++ signature method : Text) ∈ implMethod methods impl := by
  simp [implMethod, found, fullMethod]

theorem delegates_headed (methods : List Resolved) (lines : Lines) (written : delegates methods = .ok lines) :
    ∀ method ∈ methods, ("    " ++ signature method : Text) ∈ lines := by
  intro method member
  obtain ⟨arguments, _, within⟩ := walk_holds (fun method => Code.forwardingText method.params) delegate delegates
    (fun _ _ => rfl) methods lines written method member
  exact within.subset (by simp [delegate])

theorem enumeration_headed (wrapping : Wrapping) (lines : Lines) (written : enumerationClass wrapping = .ok lines) :
    ∀ method ∈ wrapping.methods, ("    " ++ signature method : Text) ∈ lines := by
  intro method member
  rw [enumerationClass] at written
  cases listed : delegates wrapping.methods with
  | error line => simp [listed, Except.map] at written
  | ok methods =>
      simp only [listed, Except.map, Except.ok.injEq] at written
      have inside := delegates_headed wrapping.methods methods listed method member
      rw [← written]
      exact List.mem_append_left _ (List.mem_append_right _ inside)

namespace Deterministic

theorem machine_methods_headed (spec : Spec) (state : Text) (transitions : List Transition) (lines : Lines)
    (written : machineMethods spec state transitions = .ok lines) :
    ∀ transition ∈ transitions, methodHeading spec transition ∈ lines := by
  intro transition member
  obtain ⟨arguments, _, within⟩ := walk_holds (fun transition => Code.forwardingText transition.params)
    (machineMethod spec state) (machineMethods spec state) (fun _ _ => rfl) transitions lines written transition member
  exact within.subset (by simp [machineMethod])

theorem machine_class_headed (spec : Spec) (state : State) (lines : Lines)
    (written : machineClass spec state = .ok lines) :
    ∀ transition ∈ state.transitions, methodHeading spec transition ∈ lines := by
  intro transition member
  rw [machineClass] at written
  cases listed : machineMethods spec state.name state.transitions with
  | error line => simp [listed, Except.map] at written
  | ok methods =>
      simp only [listed, Except.map, Except.ok.injEq] at written
      rw [← written]
      exact List.mem_append_right _ (machine_methods_headed spec state.name _ methods listed transition member)

end Deterministic

end Emission

section Standing

variable (spec : Spec) (valid : spec.validate = .ok ()) (table : Option Table) (prepared : spec.prepare = .ok table)
  (lines : Lines) (written : spec.moduleLines table = .ok lines)

include valid prepared written

theorem heading_stands (heading : Heading) (heads : spec.Heads heading) : heading.line ∈ lines := by
  have function := fun lines width body writes line =>
    (function_stands spec valid lines width body writes table prepared _ written).subset (a := line)
  cases heads with
  | traitMethod side shown owner named method member =>
      exact function _ _ _ (.method side shown method member) _ (Emission.trait_method_headed method)
  | stateMethod state declared impl member method found =>
      exact function _ _ _ (.stateImpl state declared impl member) _ (Emission.impl_method_headed _ impl method found)
  | eventMethod kind event declared impl member method found =>
      exact function _ _ _ (.eventImpl kind event declared impl member) _
        (Emission.impl_method_headed _ impl method found)
  | body kind state declared transition member =>
      refine function _ _ _ (.transition kind state declared transition member) _ ?_
      simp [Heading.ofBody, Emission.Deterministic.bodyFunction]
  | delegate parts made own side method member =>
      subst own
      obtain ⟨other, same, accepted, rfl⟩ := prepared_parts parts.spec valid made.kind table prepared
      obtain rfl := parts_unique parts other made accepted same.symm
      rw [parts_lines parts accepted] at written
      obtain ⟨own, formed, within⟩ := (Emission.EventDriven.module_sections parts lines written).enumerations side
      exact within.subset (Emission.enumeration_headed _ own formed method member)
  | machineMethod kind state declared transition member =>
      rw [deterministic_lines spec kind] at written
      obtain ⟨own, formed, within⟩ := (Emission.Deterministic.module_sections spec lines written).classes state declared
      exact within.subset (Emission.Deterministic.machine_class_headed spec state own formed transition member)

end Standing

/-! When a function can have its heading. -/

-- The list of a method of a deterministic machine has no parameter of a name that its body gets first.
theorem transition_list_read (spec : Spec) (valid : spec.validate = .ok ()) (kind : spec.kind = .deterministic)
    (state : State) (declared : state ∈ spec.states) (transition : Transition)
    (member : transition ∈ state.transitions) :
    ∃ params, Code.readMethodParams transition.params = .ok params ∧
      ∀ name ∈ Validation.bodyArguments, name ∉ params.names := by
  cases blank : transition.params.isEmpty with
  | true =>
      have empty := List.isEmpty_iff.mp blank
      exact ⟨⟨[], [], none, [], none⟩, by rw [empty]; rfl, fun _ _ => List.not_mem_nil⟩
  | false =>
      obtain ⟨_, kinds, _, _⟩ := (validate_eq_ok spec).mp valid
      have accepted := (((deterministic_kind_eq_ok spec kind).mp kinds state declared).2 transition member).params
      rw [Validation.checkMethodParams, blank, if_neg Bool.false_ne_true] at accepted
      simp only [Validation.bind_eq_ok, Validation.params, Validation.fragment_eq_ok] at accepted
      obtain ⟨params, read, checked⟩ := accepted
      refine ⟨params, read, fun name reserved listed => ?_⟩
      cases clash : Validation.bodyArguments.find? params.names.contains with
      | some other =>
          rw [clash] at checked
          cases checked
      | none => exact List.find?_eq_none.mp clash name reserved (List.contains_iff_mem.mpr listed)

namespace Heading

-- The names of a list stay apart where the heading stands, and are none that it cannot have there.
structure Clean (heading : Heading) (params : Code.Params) : Prop where
  apart : (params.names.map (Machine.nameWithin heading.owner)).Nodup
  assigned : Text.fixed "__debug__" ∉ params.names
  object : Text.fixed "self" ∈ heading.front → Text.fixed "self" ∉ params.names

end Heading

theorem method_clean_iff (owner line list : Text) (params : Code.Params) :
    ((Heading.ofMethod owner line list).formals params).Compiles ↔ (Heading.ofMethod owner line list).Clean params := by
  refine (Machine.method_compiles_iff params owner).trans ?_
  constructor
  · rintro ⟨apart, clear⟩
    exact ⟨apart, clear _ (by decide), fun _ => clear _ (by decide)⟩
  · rintro ⟨apart, assigned, object⟩
    refine ⟨apart, fun name taken => ?_⟩
    rcases List.mem_pair.mp taken with rfl | rfl
    · exact assigned
    · exact object List.mem_cons_self

theorem body_clean_iff (spec : Spec) (state : Text) (transition : Transition) (params : Code.Params)
    (unreserved : ∀ name ∈ Validation.bodyArguments, name ∉ params.names) :
    ((Heading.ofBody spec state transition).formals params).Compiles ↔
      (Heading.ofBody spec state transition).Clean params := by
  refine (Machine.body_compiles_iff params).trans ?_
  constructor
  · rintro ⟨apart, clear⟩
    have other : Text.fixed "self" ∉ (Heading.ofBody spec state transition).front := by
      change Text.fixed "self" ∉ [Text.fixed "state", Text.fixed "context"]
      decide
    exact ⟨apart, clear _ (by decide), fun front => absurd front other⟩
  · rintro ⟨apart, assigned, _⟩
    refine ⟨apart, fun name taken => ?_⟩
    rcases List.mem_cons.mp taken with rfl | front
    · exact assigned
    · exact unreserved name ((List.Perm.swap _ _ []).mem_iff.mp front)

theorem heading_compiles_iff (spec : Spec) (valid : spec.validate = .ok ()) (heading : Heading)
    (heads : spec.Heads heading) :
    ∃ params, Code.readMethodParams heading.list = .ok params ∧
      ((heading.formals params).Compiles ↔ heading.Clean params) := by
  have coded := coded_of_valid spec valid
  have method : ∀ side, ∀ method ∈ spec.traitMethods side, ∀ owner line,
      ∃ params, Code.readMethodParams method.params = .ok params ∧
        (((Heading.ofMethod owner line method.params).formals params).Compiles ↔
          (Heading.ofMethod owner line method.params).Clean params) := by
    intro side method member owner line
    obtain ⟨params, read⟩ := (coded.methods side method member).params
    exact ⟨params, read, method_clean_iff owner line method.params params⟩
  cases heads with
  | traitMethod side shown owner named resolved member => exact method side resolved member owner _
  | stateMethod state declared impl member resolved found =>
      exact method .state resolved (List.mem_of_find?_eq_some found) state.name _
  | eventMethod kind event declared impl member resolved found =>
      exact method .event resolved (List.mem_of_find?_eq_some found) event.name _
  | delegate parts made own side resolved member => exact method side resolved member _ _
  | machineMethod kind state declared transition member =>
      obtain ⟨params, read, _⟩ := transition_list_read spec valid kind state declared transition member
      exact ⟨params, read, method_clean_iff _ _ _ params⟩
  | body kind state declared transition member =>
      obtain ⟨params, read, unreserved⟩ := transition_list_read spec valid kind state declared transition member
      exact ⟨params, read, body_clean_iff spec state.name transition params unreserved⟩

/-! What the method of a machine reads. -/

namespace Machine

open TypedWorld

-- A name that a method reads and has nothing of its own under.
structure Legible (owner : Text) (params : List Text) (name : Text) : Prop where
  same : nameWithin owner name = name
  foreign : name ∉ ["self", "target", "machine"].map Text.fixed
  unhidden : name ∉ params.map (nameWithin owner)

theorem misread_none_iff (owner : Text) (params : List Text) (name : Text) :
    Typed.misread? owner params name = none ↔ Legible owner params name := by
  have own : ["self", "target"].map (nameWithin owner ∘ Text.fixed) = ["self", "target"].map Text.fixed := by
    refine List.map_congr_left fun word member => name_within_plain owner _ ?_
    rcases List.mem_pair.mp member with rfl | rfl <;> decide
  have taken : nameWithin owner name ∈ (params ++ ["self", "target"].map Text.fixed).map (nameWithin owner) ↔
      nameWithin owner name ∈ params.map (nameWithin owner) ∨
        nameWithin owner name ∈ ["self", "target"].map Text.fixed := by
    rw [List.map_append, List.mem_append, List.map_map, own]
  have parts : ["self", "target", "machine"].map Text.fixed =
      ["self", "target"].map Text.fixed ++ [Text.fixed "machine"] := rfl
  simp only [Typed.misread?, List.contains_iff_mem, taken, Bool.or_eq_true, beq_iff_eq, bne_iff_ne]
  constructor
  · intro read
    split_ifs at read with clear kept
    rw [not_or] at clear kept
    have same := not_not.mp kept.2
    rw [same] at clear
    refine ⟨same, ?_, clear.1⟩
    rw [parts, List.mem_append, not_or]
    exact ⟨clear.2, fun machine => kept.1 (List.mem_singleton.mp machine)⟩
  · intro legible
    have foreign := legible.foreign
    rw [parts, List.mem_append, not_or, List.mem_singleton] at foreign
    rw [legible.same, if_neg (not_or.mpr ⟨legible.same ▸ legible.unhidden, foreign.1⟩), if_neg]
    exact not_or.mpr ⟨foreign.2, fun changed => changed rfl⟩

section Calls

variable {γ : Type} {spec : Spec} {world : TypedWorld γ} (conduct : Conduct γ) (call : LiveCall spec world)

def LiveCall.owner : Text := call.source.className spec

-- The method finds what the module defines under the names that it reads.
structure Finds (bindings : List (Text × Bound Value)) : Prop where
  body : ∀ now value context arguments,
    callNamed spec conduct now call.owner bindings call.body value context arguments =
      invoke spec conduct now (call.body.standing spec) value context arguments
  target : ∀ target, target? call.transition = some target →
    Typed.nextValue conduct call.owner bindings target .none_ = conduct.create target {}
  machineClass : ∀ target, target? call.transition = some target → ∀ now value context arguments,
    callNamed spec conduct now call.owner bindings (.machineClass target) value context arguments =
      invoke spec conduct now ((Callee.machineClass target).standing spec) value context arguments

-- No call of the method gives an answer.
def Lost : Prop :=
  ∀ answer after, world.call spec conduct call.id call.transition.trigger call.arguments ≠ (.ok answer, after)

theorem lost_of_bound (fails : ∀ bindings, (call.formals conduct).bind call.arguments = some bindings →
      ∃ fault after, perform spec conduct world call.id call.source call.value call.context bindings call.transition =
        (.error fault, after)) : Lost conduct call := by
  intro answer after answered
  cases bound : (call.formals conduct).bind call.arguments with
  | none =>
      rw [call_unbound conduct call bound] at answered
      cases answered
  | some bindings =>
      obtain ⟨fault, left, failed⟩ := fails bindings bound
      rw [call_bound conduct call bindings bound, failed] at answered
      cases answered

-- Whatever the body does, a method that cannot call the machine class of its target fails.
theorem perform_without_class (bindings : List (Text × Bound Value)) (target : Text)
    (leads : target? call.transition = some target) (fault : Fault)
    (taken : call.misread? bindings (.machineClass target) = some fault) :
    ∃ fault after, perform spec conduct world call.id call.source call.value call.context bindings call.transition =
      (.error fault, after) := by
  have found : Typed.misread? (call.source.className spec) (bindings.map (·.1)) (spec.name ++ target) = some fault :=
    taken
  cases answered : callNamed spec conduct world (call.source.className spec) bindings call.body call.value call.context
      ((call.formals conduct).forward bindings) with
  | mk outcome between =>
      cases outcome with
      | error other =>
          exact ⟨_, _, perform_error spec conduct world _ _ _ _ _ _ _ _ answered⟩
      | ok result =>
          rw [perform_ok spec conduct world _ _ _ _ _ _ _ _ answered]
          simp only [follow, leads, callNamed, Callee.name, found]
          cases Typed.nextValue conduct (call.source.className spec) bindings target result with
          | error other => exact ⟨_, _, rfl⟩
          | ok next => exact ⟨_, _, rfl⟩

variable (params : Code.Params) (takes : call.formals conduct = asMethod params call.owner)

include takes

-- The names that are bound are those of the list.
theorem bound_misread (bindings : List (Text × Bound Value))
    (bound : (call.formals conduct).bind call.arguments = some bindings) (name : Text) :
    Typed.misread? call.owner (bindings.map (·.1)) name = Typed.misread? call.owner params.names name := by
  have names := Formals.bind_names _ _ _ bound
  rw [takes] at names
  exact misread_perm _ _ _ (names.trans (formals_names_perm params)) name

theorem finds_legible (legible : ∀ name ∈ readNames spec call.source.state call.transition,
      Legible call.owner params.names name) (bindings : List (Text × Bound Value))
    (bound : (call.formals conduct).bind call.arguments = some bindings) : Finds conduct call bindings := by
  have read : ∀ name ∈ readNames spec call.source.state call.transition,
      Typed.misread? call.owner (bindings.map (·.1)) name = none := by
    intro name member
    rw [bound_misread conduct call params takes bindings bound, misread_none_iff]
    exact legible name member
  constructor
  case body =>
    intro now value context arguments
    have seen := read (call.body.name spec) List.mem_cons_self
    simp only [callNamed, seen]
  case target =>
    intro target leads
    have seen := read target (by simp [readNames, leads])
    simp only [Typed.nextValue, seen]
  case machineClass =>
    intro target leads now value context arguments
    have seen := read (spec.name ++ target) (by simp [readNames, leads])
    simp only [callNamed, Callee.name, seen]

theorem bound_hidden (bindings : List (Text × Bound Value))
    (bound : (call.formals conduct).bind call.arguments = some bindings) (name : Text)
    (hidden : ¬ Legible call.owner params.names name) :
    ∃ fault, Typed.misread? call.owner (bindings.map (·.1)) name = some fault := by
  rw [← misread_none_iff, ← bound_misread conduct call params takes bindings bound] at hidden
  exact Option.ne_none_iff_exists'.mp hidden

theorem lost_body (hidden : ¬ Legible call.owner params.names (call.body.name spec)) : Lost conduct call := by
  refine lost_of_bound conduct call fun bindings bound => ?_
  obtain ⟨fault, taken⟩ := bound_hidden conduct call params takes bindings bound _ hidden
  exact ⟨fault, world, perform_hidden conduct call bindings fault taken⟩

section Target

variable (target : Text) (leads : target? call.transition = some target)

include leads

theorem lost_class (hidden : ¬ Legible call.owner params.names (spec.name ++ target)) : Lost conduct call := by
  refine lost_of_bound conduct call fun bindings bound => ?_
  obtain ⟨fault, taken⟩ := bound_hidden conduct call params takes bindings bound _ hidden
  exact perform_without_class conduct call bindings target leads fault taken

theorem lost_target (hidden : ¬ Legible call.owner params.names target) (bindings : List (Text × Bound Value))
    (left : γ) (ran : Ran conduct call bindings (.ok .none_) left) : Lost conduct call := by
  refine lost_of_bound conduct call fun others bound => ?_
  obtain rfl := Option.some.inj ((ran_bound conduct call bindings _ left ran).symm.trans bound)
  obtain ⟨fault, taken⟩ := bound_hidden conduct call params takes bindings bound _ hidden
  have unmade : Typed.nextValue conduct (call.source.className spec) bindings target .none_ = .error fault := by
    have found : Typed.misread? (call.source.className spec) (bindings.map (·.1)) target = some fault := taken
    simp only [Typed.nextValue, found]
  exact ⟨fault, _, prepared_unmade conduct call bindings target fault left ⟨leads, _, ran, unmade⟩⟩

end Target

end Calls

section Modules

variable (spec : Spec) (valid : spec.validate = .ok ()) (table : Option Table) (prepared : spec.prepare = .ok table)
  (lines : Lines) (written : spec.moduleLines table = .ok lines)

include valid prepared written

-- A method of a written module takes its list as it is read behind the machine.
theorem method_takes (kind : spec.kind = .deterministic) (world : TypedWorld Contents) (call : LiveCall spec world) :
    ∃ params, Code.readMethodParams call.transition.params = .ok params ∧
      call.formals (Program.ofSpec spec).conduct = asMethod params call.owner := by
  obtain ⟨_, state, declared, named, member⟩ := offered_declared spec call.source _ call.transition call.offered
  obtain ⟨params, read, _⟩ := transition_list_read spec valid kind state declared call.transition member
  refine ⟨params, read, ?_⟩
  have listed : call.transition.params ∈ spec.handedOn := by
    rw [Spec.handedOn, kind]
    exact List.mem_map_of_mem (List.mem_flatMap.mpr ⟨state, declared, member⟩)
  have handed := (lines_forward_iff spec table valid prepared).mp ⟨lines, written⟩ _ listed
  have alone := Code.alone_of_handed _ params read handed
  have own : (Program.ofSpec spec).formals call.source.state call.transition.trigger = formalsOf params := by
    rw [← named, Program.formals_own spec valid state declared call.transition member]
    have synchronous : spec.isEventDriven = false := by simp [Spec.isEventDriven, kind]
    simp only [Program.bodyOf, synchronous, Bool.false_and, Bool.false_eq_true, if_false, alone]
    cases call.transition.target <;> rfl
  change ((Program.ofSpec spec).formals call.source.state call.transition.trigger).headed _ _ = _
  rw [own]
  rfl

end Modules

-- What the names come to that a method with these parameters reads.
structure ReadsNames {spec : Spec} {world : TypedWorld Contents} (call : LiveCall spec world) (params : Code.Params) :
    Prop where
  takes : call.formals (Program.ofSpec spec).conduct = asMethod params call.owner
  finds : (∀ name ∈ readNames spec call.source.state call.transition, Legible call.owner params.names name) →
    ∀ bindings, (call.formals (Program.ofSpec spec).conduct).bind call.arguments = some bindings →
      Finds (Program.ofSpec spec).conduct call bindings
  body : ¬ Legible call.owner params.names (call.body.name spec) → Lost (Program.ofSpec spec).conduct call
  machineClass : ∀ target, target? call.transition = some target →
    ¬ Legible call.owner params.names (spec.name ++ target) → Lost (Program.ofSpec spec).conduct call
  target : ∀ target, target? call.transition = some target → ¬ Legible call.owner params.names target →
    ∀ bindings left, Ran (Program.ofSpec spec).conduct call bindings (.ok .none_) left →
      Lost (Program.ofSpec spec).conduct call

-- A mixer whose method has parameters of several kinds, all of them apart.
def mixerSpin : Transition :=
  { source := "Idle", trigger := "spin", target := some "Busy", params := "speed, *steps, reverse=False"
    body := "context.append(speed)" }

def mixerSpec : Spec :=
  { kind := .deterministic, name := "Mixer", context := "list"
    states := [{ name := "Idle", transitions := [mixerSpin] }, { name := "Busy" }] }

def mixerList : Code.Params :=
  ⟨[], [⟨"speed", none, none⟩], some ⟨"steps", none, none⟩, [⟨"reverse", none, some (.constant .false_)⟩], none⟩

def mixerBindings : List (Text × Bound Value) :=
  [("speed", .one (.text "slow")), ("steps", .rest []), ("reverse", .one (.bool false))]

def mixerWorld : TypedWorld Contents :=
  { machines := [⟨"Idle", some (.object "Idle" [], 0)⟩], contexts := [[]] }

def mixerCall : LiveCall mixerSpec mixerWorld where
  id := 0
  source := ⟨"Idle", some (.object "Idle" [], 0)⟩
  value := .object "Idle" []
  context := 0
  contents := []
  transition := mixerSpin
  arguments := { positional := [.text "slow"] }
  present := rfl
  live := rfl
  kept := rfl
  offered := by decide

-- A pump whose method has these parameters.
def pumpSpec (params : Text) : Spec :=
  { kind := .deterministic, name := "Pump", context := "list"
    states := [{ name := "On", transitions := [{ source := "On", trigger := "turn", params }] }] }

def pumpWorld : TypedWorld Contents := { machines := [⟨"On", some (.object "On" [], 0)⟩], contexts := [[]] }

def twiceList : Code.Params := ⟨[], [⟨"a", none, none⟩, ⟨"a", none, none⟩], none, [], none⟩

end Machine

end Statewright
