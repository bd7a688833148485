import Statewright.Machine.Members
import Statewright.Proofs.Bindings
import Statewright.Proofs.FailedCalls
import Statewright.Proofs.WellTyped
import Mathlib.Data.List.Perm.Basic

/-!
The type of a machine says what it holds. A class offers what its state declares. A method with a target gives a
machine of that target, or fails; a method without one gives what its body returned and leaves the machine as it was.
-/
set_option autoImplicit false

namespace Statewright.Machine

open Emission.Deterministic (bodyName target?)
open TypedWorld

variable {γ : Type}

/-! What a class offers. -/

-- The members that every machine class has are reserved.
theorem common_reserved (name : Text) (member : name ∈ commonMembers ++ typedMembers) :
    Validation.isReservedMethod name = true := by
  have all : ∀ name ∈ commonMembers ++ typedMembers, Validation.isReservedMethod name = true := by decide
  exact all name member

theorem state_of_name (spec : Spec) (accepted : Validation.checkNames spec = .ok ()) (state : State)
    (declared : state ∈ spec.states) : spec.state? state.name = some state :=
  Validation.find_named State.name spec.states (Validation.state_names_distinct spec accepted) state declared

theorem state_name_nonempty (spec : Spec) (accepted : Validation.checkNames spec = .ok ()) (state : State)
    (declared : state ∈ spec.states) : state.name ≠ [] := by
  have names := (Validation.names_eq_ok spec).mp accepted
  have named : state.name ∈ Validation.classNames spec := by
    simp only [Validation.classNames, List.cons_append, List.mem_cons, List.mem_append]
    exact .inr (.inl (.inl (List.mem_map_of_mem declared)))
  intro empty
  have valid := names.valid state.name named
  rw [empty] at valid
  cases valid

section Classes

variable (spec : Spec) (valid : spec.validate = .ok ()) (kind : spec.kind = .deterministic)

include valid

theorem class_members (stage : Stage) (of : stage.spec = spec) (pool : ∃ world, stage.pool = .typed world) (state : State)
    (declared : state ∈ spec.states) :
    stage.members? (spec.name ++ state.name) =
      .ok (commonMembers ++ (typedMembers ++ state.transitions.map (·.trigger))) := by
  obtain ⟨world, typed⟩ := pool
  have names := ((validate_eq_ok spec).mp valid).1
  have found : spec.states.find? (fun other => spec.name ++ other.name == spec.name ++ state.name) = some state := by
    have same : (fun other : State => spec.name ++ other.name == spec.name ++ state.name) =
        fun other => other.name == state.name := by
      funext other
      rw [Bool.eq_iff_iff, beq_iff_eq, beq_iff_eq, List.append_cancel_left_eq]
    rw [same]
    exact state_of_name spec names state declared
  have machine : (spec.name ++ state.name == spec.name) = false := by
    rw [beq_eq_false_iff_ne]
    intro same
    exact state_name_nonempty spec names state declared (List.append_right_eq_self.mp same)
  simp only [Stage.members?, Stage.eventDriven?, typed, Stage.typedMembers?, of, machine, found]
  rfl

include kind in
theorem offers_declared_only (stage : Stage) (of : stage.spec = spec) (pool : ∃ world, stage.pool = .typed world)
    (state other : State) (declared : state ∈ spec.states) (listed : other ∈ spec.states) (method : Text)
    (somewhere : method ∈ other.transitions.map (·.trigger)) :
    (∃ members, stage.members? (spec.name ++ state.name) = .ok members ∧ method ∈ members) ↔
      method ∈ state.transitions.map (·.trigger) := by
  obtain ⟨_, kinds, _, _⟩ := (validate_eq_ok spec).mp valid
  obtain ⟨transition, member, rfl⟩ := List.mem_map.mp somewhere
  have open_ := (((deterministic_kind_eq_ok spec kind).mp kinds other listed).2 transition member).unreserved
  rw [class_members spec valid stage of pool state declared]
  constructor
  · rintro ⟨members, same, inMembers⟩
    obtain rfl := Except.ok.inj same
    rw [← List.append_assoc, List.mem_append] at inMembers
    refine inMembers.resolve_left fun common => ?_
    rw [common_reserved _ common] at open_
    cases open_
  · intro own
    exact ⟨_, rfl, by rw [← List.append_assoc]; exact List.mem_append_right _ own⟩

theorem transition_offered (machine : Typed) (method : Text) :
    (∃ transition, machine.transition? spec method = some transition) ↔
      ∃ state ∈ spec.states, state.name = machine.state ∧ method ∈ state.transitions.map (·.trigger) := by
  constructor
  · rintro ⟨transition, offered⟩
    obtain ⟨triggered, state, declared, named, member⟩ := offered_declared spec machine method transition offered
    exact ⟨state, declared, named, List.mem_map.mpr ⟨transition, member, triggered⟩⟩
  · rintro ⟨state, declared, named, own⟩
    obtain ⟨transition, member, rfl⟩ := List.mem_map.mp own
    have found := state_of_name spec ((validate_eq_ok spec).mp valid).1 state declared
    rw [named] at found
    have matched : (state.transitions.find? fun other => other.trigger == transition.trigger).isSome = true := by
      rw [List.find?_isSome]
      exact ⟨transition, member, beq_self_eq_true _⟩
    obtain ⟨other, first⟩ := Option.isSome_iff_exists.mp matched
    exact ⟨other, by rw [Typed.transition?, found, Option.bind_some, first]⟩

end Classes

/-! What a method reads by name, and what a call of it comes to where nothing of its own hides that. -/

-- The names that the method of a transition reads outside its parameters.
def readNames (spec : Spec) (state : Text) (transition : Transition) : List Text :=
  bodyName state transition.trigger :: (target? transition).toList.flatMap fun target => [target, spec.name ++ target]

-- A method finds what the module defines under the names that it reads.
def Unhidden (spec : Spec) (conduct : Conduct γ) : Prop :=
  ∀ state ∈ spec.states, ∀ transition ∈ state.transitions, ∀ name ∈ readNames spec state.name transition,
    Typed.misread? (spec.name ++ state.name) (conduct.formals state.name transition.trigger).names name = none

-- The value for a target: what the body returned, or one made from defaults if it returned nothing.
def filledIn (conduct : Conduct γ) (target : Text) : Value → Except Fault Value
  | .none_ => conduct.create target {}
  | value => .ok value

theorem next_value_seen (conduct : Conduct γ) (owner : Text) (bindings : List (Text × Bound Value)) (target : Text)
    (seen : Typed.misread? owner (bindings.map (·.1)) target = none) (value : Value) :
    Typed.nextValue conduct owner bindings target value = filledIn conduct target value := by
  cases value with
  | none_ => simp only [Typed.nextValue, filledIn, seen]
  | _ => rfl

theorem declared_target (spec : Spec) (valid : spec.validate = .ok ()) (kind : spec.kind = .deterministic)
    (state : State) (declared : state ∈ spec.states) (transition : Transition) (member : transition ∈ state.transitions) :
    target? transition = transition.target := by
  unfold target?
  split
  · rename_i empty
    have known := deterministic_targets_declared spec valid kind state declared transition member [] empty
    obtain ⟨other, listed, named⟩ := List.mem_map.mp known
    exact absurd named (state_name_nonempty spec ((validate_eq_ok spec).mp valid).1 other listed)
  · rfl

section Calls

variable {spec : Spec} {world : TypedWorld γ} (conduct : Conduct γ) (call : LiveCall spec world)

-- The arguments fit, and the body that is declared with the method has run on what the machine holds.
def BodyGives (outcome : Except Fault Value) (left : γ) : Prop :=
  ∃ bindings, (call.formals conduct).bind call.arguments = some bindings ∧
    Gives (conduct.body call.source.state call.transition.trigger call.value call.context
      ((call.formals conduct).forward bindings)) call.contents outcome left

variable (unhidden : ∀ name ∈ readNames spec call.source.state call.transition,
    Typed.misread? (call.source.className spec) (call.formals conduct).names name = none)

include unhidden

theorem bound_reads (bindings : List (Text × Bound Value))
    (bound : (call.formals conduct).bind call.arguments = some bindings) :
    ∀ name ∈ readNames spec call.source.state call.transition,
      Typed.misread? (call.source.className spec) (bindings.map (·.1)) name = none := by
  intro name read
  rw [misread_perm _ _ _ (Formals.bind_names _ _ _ bound), unhidden name read]

variable (own : Reaches spec call.source call.transition call.source.state call.transition.trigger)

include own

theorem body_gives_iff (outcome : Except Fault Value) (left : γ) :
    BodyGives conduct call outcome left ↔ ∃ bindings, Ran conduct call bindings outcome left := by
  constructor
  · rintro ⟨bindings, bound, gives⟩
    have seen := bound_reads conduct call unhidden bindings bound _ List.mem_cons_self
    exact ⟨bindings, .run _ _ bound seen own.body gives⟩
  · rintro ⟨bindings, ran⟩
    exact ⟨bindings, ran_bound conduct call bindings outcome left ran, ran_gives conduct call _ _ own bindings outcome
      left ran⟩

theorem call_stays_iff (stays : target? call.transition = none) (answer : Value) (after : TypedWorld γ) :
    world.call spec conduct call.id call.transition.trigger call.arguments = (.ok answer, after) ↔
      ∃ left, BodyGives conduct call (.ok answer) left ∧ after = world.setContext call.context left := by
  have gives := body_gives_iff conduct call unhidden own (.ok answer)
  rw [call_eq_iff conduct call ⟨_, _, own⟩]
  constructor
  · intro called
    cases called with
    | returned bindings _ left ran _ => exact ⟨left, (gives left).mpr ⟨bindings, ran⟩, rfl⟩
    | moved bindings target next left prepared seen fits =>
        rw [prepared.leads] at stays
        cases stays
  · rintro ⟨left, given, rfl⟩
    obtain ⟨bindings, ran⟩ := (gives left).mp given
    exact .returned bindings answer left ran stays

theorem call_moves_iff (tells : spec.hides "isinstance" = false) (target : Text)
    (leads : target? call.transition = some target) (answer : Value) (after : TypedWorld γ) :
    world.call spec conduct call.id call.transition.trigger call.arguments = (.ok answer, after) ↔
      ∃ result next left, BodyGives conduct call (.ok result) left ∧ filledIn conduct target result = .ok next ∧
        next.isOf target = true ∧ answer = .machine world.machines.length ∧
        after = ⟨(world.machines ++ [Typed.mk target (some (next, call.context))]).set call.id call.source.consumed,
          world.contexts.set call.context left⟩ := by
  have gives := body_gives_iff conduct call unhidden own
  have unread : ∀ bindings, (call.formals conduct).bind call.arguments = some bindings →
      Typed.misread? (call.source.className spec) (bindings.map (·.1)) target = none ∧
        call.misread? bindings (.machineClass target) = none := by
    intro bindings bound
    have seen := bound_reads conduct call unhidden bindings bound
    exact ⟨seen target (by simp [readNames, leads]), seen (spec.name ++ target) (by simp [readNames, leads])⟩
  rw [call_eq_iff conduct call ⟨_, _, own⟩]
  constructor
  · intro called
    cases called with
    | returned bindings _ left ran stays =>
        rw [leads] at stays
        cases stays
    | moved bindings other next left prepared seen fits =>
        obtain rfl : target = other := Option.some.inj (leads.symm.trans prepared.leads)
        obtain ⟨result, ran, made⟩ := prepared.made
        rw [next_value_seen conduct _ bindings target (unread bindings (ran_bound conduct call _ _ _ ran)).1] at made
        have placed := (misplaced_none_iff spec target next _).mp fits
        exact ⟨result, next, left, (gives _ left).mpr ⟨bindings, ran⟩, made, placed.2, rfl, rfl⟩
  · rintro ⟨result, next, left, given, made, fits, rfl, rfl⟩
    obtain ⟨bindings, ran⟩ := (gives _ left).mp given
    obtain ⟨seen, classSeen⟩ := unread bindings (ran_bound conduct call _ _ _ ran)
    rw [← next_value_seen conduct _ bindings target seen] at made
    exact .moved bindings target next left ⟨leads, result, ran, made⟩ classSeen
      ((misplaced_none_iff spec target next _).mpr ⟨tells, fits⟩)

end Calls

/-! Soundness. -/

-- The names that a module defines: those of its classes, and those of the functions that hold the bodies.
def definedNames (spec : Spec) : List Text :=
  Validation.classNames spec ++ spec.states.flatMap fun state =>
    state.transitions.map fun transition => bodyName state.name transition.trigger

theorem callees_distinct (spec : Spec) (kind : spec.kind = .deterministic) (distinct : (definedNames spec).Nodup) :
    ((Callee.all spec).map (·.name spec)).Nodup := by
  have named : (Callee.all spec).map (·.name spec) = spec.states.flatMap fun state =>
      (state.transitions.map fun transition => bodyName state.name transition.trigger) ++ [spec.name ++ state.name] := by
    simp [Callee.all, Callee.ofState, List.map_flatMap, Function.comp_def, Callee.name]
  have classes : spec.states.flatMap (fun state => [spec.name ++ state.name]) =
      spec.states.map fun state => Validation.machineClass spec state.name := by
    rw [List.map_eq_flatMap]
    rfl
  have together := List.flatMap_append_perm spec.states
    (fun state => state.transitions.map fun transition => bodyName state.name transition.trigger)
    fun state => [spec.name ++ state.name]
  simp only [definedNames, Validation.classNames, kind, List.cons_append, List.append_assoc] at distinct
  have machines := distinct.of_cons.of_append_right.of_append_right
  rw [named, ← together.nodup_iff, classes]
  exact List.nodup_append_comm.mp machines

-- The names of the language that the machine classes are written with.
def languageNames : List Text := ["type", "isinstance", "property", "staticmethod", "TypeError"].map Text.fixed

-- What the types of machines promise in a world.
structure Typestates (spec : Spec) (conduct : Conduct γ) (world : TypedWorld γ) : Prop where
  classes : ∀ (id : Nat) (machine : Typed), world.machines[id]? = some machine →
    machine.className spec ≠ spec.name ∧ ∃ state ∈ spec.states, machine.className spec = spec.name ++ state.name
  holds : ∀ (id : Nat) (machine : Typed) (value : Value) (context : Nat), world.machines[id]? = some machine →
    machine.held = some (value, context) → ∀ state ∈ spec.states,
      machine.className spec = spec.name ++ state.name ↔ value.isOf state.name = true
  -- A method that its state declares can be called on a live machine, and no other method on any machine.
  offers : ∀ (id : Nat) (machine : Typed) (value : Value) (context : Nat), world.machines[id]? = some machine →
    machine.held = some (value, context) → ∀ state ∈ spec.states, machine.className spec = spec.name ++ state.name →
    ∀ method ∈ state.transitions.map (·.trigger), ∀ arguments, ∃ call : LiveCall spec world, call.id = id ∧
      call.source = machine ∧ call.transition.trigger = method ∧ call.arguments = arguments
  refuses : ∀ (id : Nat) (machine : Typed), world.machines[id]? = some machine → ∀ state ∈ spec.states,
    machine.className spec = spec.name ++ state.name → ∀ method ∉ state.transitions.map (·.trigger), ∀ arguments,
      world.call spec conduct id method arguments = (.error .noAttribute, world)
  stays : ∀ call : LiveCall spec world, call.transition.target = none → ∀ answer after,
    world.call spec conduct call.id call.transition.trigger call.arguments = (.ok answer, after) ↔
      ∃ left, BodyGives conduct call (.ok answer) left ∧ after = ⟨world.machines, world.contexts.set call.context left⟩
  moves : ∀ (call : LiveCall spec world) (target : Text), call.transition.target = some target → ∀ answer after,
    world.call spec conduct call.id call.transition.trigger call.arguments = (.ok answer, after) ↔
      ∃ result next left, BodyGives conduct call (.ok result) left ∧ filledIn conduct target result = .ok next ∧
        next.isOf target = true ∧ answer = .machine world.machines.length ∧
        after = ⟨(world.machines ++ [Typed.mk target (some (next, call.context))]).set call.id call.source.consumed,
          world.contexts.set call.context left⟩
  makes : ∀ (value : Value) (contents : γ), ∀ state ∈ spec.states, value.isOf state.name = true →
    start spec conduct world none value contents = (.ok (.machine world.machines.length),
      ⟨world.machines ++ [⟨state.name, some (value, world.contexts.length)⟩], world.contexts ++ [contents]⟩)
  makesNoOther : ∀ (value : Value) (contents : γ), (∀ state ∈ spec.states, value.isOf state.name = false) →
    start spec conduct world none value contents =
      (.error (.foreignState (typeOf spec world value) spec.name), world)

theorem class_name_eq_iff (spec : Spec) (machine : Typed) (state : Text) :
    machine.className spec = spec.name ++ state ↔ machine.state = state := by
  rw [Typed.className, List.append_cancel_left_eq]

theorem well_typed_typestates (spec : Spec) (valid : spec.validate = .ok ()) (kind : spec.kind = .deterministic)
    (distinct : ((Callee.all spec).map (·.name spec)).Nodup)
    (free : ∀ name ∈ languageNames, spec.hides name = false) (conduct : Conduct γ) (unhidden : Unhidden spec conduct)
    (world : TypedWorld γ) (sound : WellTyped spec world) : Typestates spec conduct world := by
  have names := ((validate_eq_ok spec).mp valid).1
  have asks := free "type" (by decide)
  have tells := free "isinstance" (by decide)
  have owns : ∀ call : LiveCall spec world,
      Reaches spec call.source call.transition call.source.state call.transition.trigger ∧
      (∀ name ∈ readNames spec call.source.state call.transition,
        Typed.misread? (call.source.className spec) (call.formals conduct).names name = none) ∧
      target? call.transition = call.transition.target := by
    intro call
    obtain ⟨_, state, declared, named, member⟩ := offered_declared spec call.source _ call.transition call.offered
    have seen := unhidden state declared call.transition member
    rw [named] at seen
    exact ⟨offered_reaches_own spec valid kind distinct call.source _ call.transition call.offered, seen,
      declared_target spec valid kind state declared call.transition member⟩
  constructor
  case classes =>
    intro id machine present
    obtain ⟨state, declared, named⟩ := List.mem_map.mp (sound.declared id machine present)
    refine ⟨fun base => ?_, state, declared, (class_name_eq_iff spec machine state.name).mpr named.symm⟩
    rw [Typed.className, List.append_right_eq_self, ← named] at base
    exact state_name_nonempty spec names state declared base
  case holds =>
    intro id machine value context present live state declared
    have fits := (sound.holds id machine value context present live).1
    rw [class_name_eq_iff]
    constructor
    · intro same
      rw [← same]
      exact fits
    · intro also
      cases value with
      | object type fields => exact (beq_iff_eq.mp fits).symm.trans (beq_iff_eq.mp also)
      | _ => cases also
  case offers =>
    intro id machine value context present live state declared named method own arguments
    have kept := List.getElem?_eq_getElem (sound.holds id machine value context present live).2
    obtain ⟨transition, offered⟩ := (transition_offered spec valid machine method).mpr
      ⟨state, declared, ((class_name_eq_iff spec machine state.name).mp named).symm, own⟩
    obtain rfl := (offered_declared spec machine method transition offered).1
    exact ⟨⟨id, machine, value, context, _, transition, arguments, present, live, kept, offered⟩, rfl, rfl, rfl, rfl⟩
  case refuses =>
    intro id machine present state declared named method foreign arguments
    have missing : machine.transition? spec method = none := by
      rw [Option.eq_none_iff_forall_ne_some]
      intro transition offered
      obtain ⟨other, listed, same, own⟩ := (transition_offered spec valid machine method).mp ⟨transition, offered⟩
      rw [(class_name_eq_iff spec machine state.name).mp named] at same
      rw [List.inj_on_of_nodup_map (Validation.state_names_distinct spec names) listed declared same] at own
      exact foreign own
    simp only [TypedWorld.call, present, missing]
  case stays =>
    intro call stays answer after
    obtain ⟨own, seen, leads⟩ := owns call
    exact call_stays_iff conduct call seen own (leads.trans stays) answer after
  case moves =>
    intro call target goes answer after
    obtain ⟨own, seen, leads⟩ := owns call
    exact call_moves_iff conduct call seen own tells target (leads.trans goes) answer after
  case makes =>
    intro value contents state declared fits
    exact start_fits spec (distinct_apart spec distinct) conduct world value contents state.name
      (List.mem_map_of_mem declared) asks tells fits
  case makesNoOther =>
    intro value contents foreign
    exact start_foreign spec asks conduct world value contents foreign

-- A tap that is rinsed while it is open, and closes.
def tapSpec : Spec :=
  { kind := .deterministic, name := "Tap", context := "list"
    states :=
      [{ name := "Open"
         transitions :=
           [{ source := "Open", trigger := "rinse", body := "context.append(\"rinsed\")" },
            { source := "Open", trigger := "close", target := some "Shut" }] },
       { name := "Shut" }] }

def tapConduct : Conduct Contents := (Program.ofSpec tapSpec).conduct

def tapDeeds : List (Deed Contents) :=
  [.make (.object "Open" []) [], .ask 0 (.call "rinse" {}), .ask 0 (.call "close" {})]

-- A hatch whose name makes the machine class of the state `On` read like the body of `turnOn`.
def hatchSpec : Spec :=
  { kind := .deterministic, name := "_body__Off__turn", context := "list"
    states :=
      [{ name := "On" },
       { name := "Off"
         transitions :=
           [{ source := "Off", trigger := "turnOn", body := "return \"lost\"" },
            { source := "Off", trigger := "move", target := some "On" }] }] }

end Statewright.Machine
