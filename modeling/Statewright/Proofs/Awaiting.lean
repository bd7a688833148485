import Statewright.Machine.Dispatch
import Statewright.Proofs.Methods
import Statewright.Proofs.Tables

/-!
Which calls of hooks are awaited. A dispatch looks a hook up by its name alone, among the methods of both traits; the
methods of events come last and win. A hook of an event is awaited exactly if it is asynchronous. A hook of a state is,
unless the trait of the events has a method of its name that differs.
-/
set_option autoImplicit false

namespace Statewright

open Emission.EventDriven (Parts)

theorem find_reverse (methods : List Resolved) (distinct : (methods.map (·.name)).Nodup) (name : Text) :
    methods.reverse.find? (·.name == name) = methods.find? (·.name == name) := by
  cases found : methods.find? (·.name == name) with
  | none =>
      rw [List.find?_eq_none] at found ⊢
      intro method member
      exact found method (List.mem_reverse.mp member)
  | some method =>
      have named : method.name = name := by simpa using List.find?_some found
      have member := List.mem_reverse.mpr (List.mem_of_find?_eq_some found)
      have reversed : (methods.reverse.map (·.name)).Nodup := by
        rw [List.map_reverse, List.nodup_reverse]
        exact distinct
      rw [← named]
      exact Validation.find_named Resolved.name methods.reverse reversed method member

theorem awaits_eq (parts : Parts) (valid : ValidParts parts) (name : Text) :
    parts.awaits name = (((parts.methods .event).find? (·.name == name)).or
      ((parts.methods .state).find? (·.name == name))).any (·.isAsync) := by
  have events := trait_method_names_distinct parts.spec valid.accepted valid.kind .event
  have states := trait_method_names_distinct parts.spec valid.accepted valid.kind .state
  unfold Parts.awaits Parts.methods
  rw [List.reverse_append, List.find?_append, find_reverse _ events, find_reverse _ states]
  cases ((parts.spec.traitMethods .event).find? (·.name == name)).or
      ((parts.spec.traitMethods .state).find? (·.name == name)) with
  | none => rfl
  | some method => rfl

theorem event_hook_awaits (parts : Parts) (valid : ValidParts parts) (method : Resolved)
    (member : method ∈ parts.methods .event) : parts.awaits method.name = method.isAsync := by
  have distinct := trait_method_names_distinct parts.spec valid.accepted valid.kind .event
  rw [awaits_eq parts valid, Validation.find_named Resolved.name (parts.methods .event) distinct method member]
  rfl

theorem state_hook_awaits_iff (parts : Parts) (valid : ValidParts parts) (method : Resolved)
    (member : method ∈ parts.methods .state) :
    parts.awaits method.name = method.isAsync ↔
      ∀ other ∈ parts.methods .event, other.name = method.name → other.isAsync = method.isAsync := by
  have states := trait_method_names_distinct parts.spec valid.accepted valid.kind .state
  constructor
  · intro right other listed named
    rw [← right, ← named]
    exact (event_hook_awaits parts valid other listed).symm
  · intro agree
    cases found : (parts.methods .event).find? (·.name == method.name) with
    | none =>
        rw [awaits_eq parts valid, found, Validation.find_named Resolved.name (parts.methods .state) states method member]
        rfl
    | some other =>
        have named : other.name = method.name := by simpa using List.find?_some found
        have listed := List.mem_of_find?_eq_some found
        rw [← agree other listed named, ← named]
        exact event_hook_awaits parts valid other listed

theorem await_word_eq_iff (first second : Bool) :
    Emission.awaitWord first = Emission.awaitWord second ↔ first = second := by
  cases first <;> cases second <;> decide

namespace Machine

open Reactor Routine

theorem is_async_eq (parts : Parts) (valid : ValidParts parts) (side : Side) (hook : Hook) (method : Resolved)
    (member : method ∈ parts.methods side) (named : method.name = hook.name) :
    isAsync parts side hook = method.isAsync := by
  have distinct := trait_method_names_distinct parts.spec valid.accepted valid.kind side
  unfold isAsync
  rw [← named, Validation.find_named Resolved.name (parts.methods side) distinct method member]
  rfl

-- A call of a hook through the enumeration, as it is written in the routine.
def hookCall {γ : Type} (parts : Parts) (conduct : Conduct γ) (side : Side) (hook : Hook) (self : Variant)
    (arguments : List Value) : Routine (Place γ) Value :=
  inContext (conduct.delegate (Registry.ofParts parts side).name self hook.name { positional := arguments })

-- Asynchronous methods that nobody awaits do not run.
def unrun {γ : Type} (conduct : Conduct γ) : Conduct γ := { conduct with method := fun _ _ _ _ => pure .pending }

-- Ordinary methods that are awaited run, and what they return cannot be awaited.
def unawaitable {γ : Type} (conduct : Conduct γ) : Conduct γ :=
  { conduct with
    method := fun type name self arguments => conduct.method type name self arguments >>= fun _ => fail .mismatch }

theorem call_hook_eq {γ : Type} (parts : Parts) (valid : ValidParts parts) (side : Side) (hook : Hook)
    (method : Resolved) (member : method ∈ parts.methods side) (named : method.name = hook.name) (conduct : Conduct γ)
    (self : Variant) (arguments : List Value) :
    callHook parts conduct side hook self arguments =
      if parts.awaits hook.name = method.isAsync then hookCall parts conduct side hook self arguments
      else if method.isAsync then hookCall parts (unrun conduct) side hook self arguments
      else hookCall parts (unawaitable conduct) side hook self arguments := by
  unfold callHook called
  rw [is_async_eq parts valid side hook method member named]
  cases method.isAsync <;> cases parts.awaits hook.name <;> rfl

/-- A hook of an event is awaited exactly if it is asynchronous, as the handler is; a hook of a state is exactly where
every method of its name that the events have is asynchronous as it is. Elsewhere its call does not run, or fails. -/
theorem hooks_awaited_iff {γ : Type} (parts : Parts) (valid : ValidParts parts) (side : Side) (hook : Hook)
    (called : hook ∈ Hook.ofSide side) (conduct : Conduct γ) :
    parts.handlerAwaited = Emission.awaitWord parts.spec.isAsync ∧
    ∃ method ∈ parts.methods side, method.name = hook.name ∧
      (∀ other ∈ parts.methods side, other.name = hook.name → other = method) ∧
      (parts.awaited hook = Emission.awaitWord method.isAsync ↔
        side = .event ∨ ∀ other ∈ parts.methods .event, other.name = hook.name → other.isAsync = method.isAsync) ∧
      ∀ self arguments, callHook parts conduct side hook self arguments =
        if parts.awaited hook = Emission.awaitWord method.isAsync then hookCall parts conduct side hook self arguments
        else if method.isAsync then hookCall parts (unrun conduct) side hook self arguments
        else hookCall parts (unawaitable conduct) side hook self arguments := by
  obtain ⟨method, member, named⟩ := hook_resolved parts.spec valid.kind side hook called
  have distinct := trait_method_names_distinct parts.spec valid.accepted valid.kind side
  have word : parts.awaited hook = Emission.awaitWord method.isAsync ↔ parts.awaits hook.name = method.isAsync :=
    await_word_eq_iff _ _
  refine ⟨rfl, method, member, named, ?_, ?_, ?_⟩
  · intro other listed same
    exact List.inj_on_of_nodup_map distinct listed member (same.trans named.symm)
  · rw [word, ← named]
    cases side with
    | event => exact ⟨fun _ => .inl rfl, fun _ => event_hook_awaits parts valid method member⟩
    | state =>
        rw [state_hook_awaits_iff parts valid method member]
        constructor
        · intro agree
          exact .inr agree
        · rintro (other | agree)
          · cases other
          · exact agree
  · intro self arguments
    simp only [word]
    exact call_hook_eq parts valid side hook method member named conduct self arguments

-- A camera that never leaves a state, had its events no method of the same name as its veto.
def camSpec : Spec :=
  { kind := .eventDriven, name := "Cam", isAsync := true, context := "list"
    stateEnum := some { name := "CamState" }, eventEnum := some { name := "CamEvent" }
    stateTrait := some { name := "Held", methods := [{ name := "should_exit", body := "return False" }] }
    eventTrait := some { name := "Told", methods := [{ name := "should_exit", body := "return True" }] }
    states :=
      [{ name := "Idle", transitions := [{ source := "Idle", trigger := "Shoot", target := some "Busy" }] },
       { name := "Busy" }] }

def camParts : Parts := partsOf camSpec { name := "CamState" } { name := "CamEvent" }

theorem cam_valid : ValidParts camParts := parts_of_valid camSpec rfl rfl _ _ rfl rfl

theorem cam_exit_awaited :
    ∃ method ∈ camParts.methods .state, method.name = Hook.onExit.name ∧
      camParts.awaited .onExit = Emission.awaitWord method.isAsync := by
  obtain ⟨_, method, member, named, _, right, _⟩ :=
    hooks_awaited_iff camParts cam_valid .state .onExit (by decide) (Program.ofSpec camSpec).conduct
  refine ⟨method, member, named, right.mpr (.inr ?_)⟩
  intro other listed same
  exact absurd same (by revert other; decide)

-- The veto is not awaited, its coroutine counts as true, and the camera goes on.
theorem cam_veto_unawaited :
    camSpec.validate = .ok () ∧
    ((camParts.methods .state).find? (·.name == Hook.shouldExit.name)).map (·.isAsync) = some true ∧
    camParts.awaited .shouldExit = Emission.awaitWord false ∧
    (dispatch camParts (Program.ofSpec camSpec).conduct (.object "Shoot" []) (⟨⟨"Idle", []⟩, 0, none⟩, [])).settle =
      (.ok .transitioned, (⟨⟨"Busy", []⟩, 0, none⟩, [])) :=
  ⟨rfl, rfl, rfl, rfl⟩

end Machine

end Statewright
