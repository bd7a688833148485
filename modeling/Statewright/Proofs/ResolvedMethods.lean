import Statewright.Proofs.DocumentParts
import Statewright.Proofs.Identifiers

/-!
How the methods of a trait are resolved. The declared ones come first, each with what it leaves open decided, and the
hooks that none of them is called like come after. The verdict makes the methods of a machine that is not asynchronous
synchronous, and what implements a method agrees with it, on the sides that a machine of its kind has.
-/
set_option autoImplicit false

namespace Statewright

open Validation

/-! What is left open. -/

-- What a method states stands. What it leaves open is decided by the hook of its name, and without one by a default.
structure Decides {α : Type} (hooks : List Hook) (name : Text) (stated : Option α) (ofHook : Hook → α)
    (otherwise value : α) : Prop where
  kept : ∀ own, stated = some own → value = own
  hooked : stated = none → ∀ hook ∈ hooks, hook.name = name → value = ofHook hook
  plain : stated = none → (∀ hook ∈ hooks, hook.name ≠ name) → value = otherwise

theorem decides_iff {α : Type} (hooks : List Hook) (distinct : (hooks.map (·.name)).Nodup) (name : Text)
    (stated : Option α) (ofHook : Hook → α) (otherwise value : α) :
    Decides hooks name stated ofHook otherwise value ↔
      value = stated.getD (((hooks.find? (·.name == name)).map ofHook).getD otherwise) := by
  cases stated with
  | some own =>
      constructor
      · intro decides
        exact decides.kept own rfl
      · rintro rfl
        exact ⟨fun _ same => Option.some.inj same, nofun, nofun⟩
  | none =>
      cases found : hooks.find? (·.name == name) with
      | some hook =>
          have member := List.mem_of_find?_eq_some found
          have named : hook.name = name := by simpa using List.find?_some found
          constructor
          · intro decides
            exact decides.hooked rfl hook member named
          · rintro rfl
            refine ⟨nofun, fun _ other among same => ?_, fun _ apart => absurd named (apart hook member)⟩
            rw [List.inj_on_of_nodup_map distinct among member (same.trans named.symm)]
            rfl
      | none =>
          have apart : ∀ hook ∈ hooks, hook.name ≠ name := by simpa using found
          constructor
          · intro decides
            exact decides.plain rfl apart
          · rintro rfl
            exact ⟨nofun, fun _ hook member named => absurd named (apart hook member), fun _ _ => rfl⟩

structure Resolves (spec : Spec) (side : Side) (method : Method) (resolved : Resolved) : Prop where
  name : resolved.name = method.name
  returns : resolved.returns = method.returns
  body : resolved.body = method.body
  generated : resolved.generated = method.generated
  line : resolved.line = method.line
  params : Decides (spec.hooks side) method.name method.params Hook.paramText [] resolved.params
  manner : Decides (spec.hooks side) method.name method.isAsync (fun _ => spec.isAsync) false resolved.isAsync

-- The method that stands for a hook that nothing declares.
structure Supplies (spec : Spec) (hook : Hook) (resolved : Resolved) : Prop where
  name : resolved.name = hook.name
  params : resolved.params = hook.paramText
  returns : resolved.returns = hook.returns
  body : resolved.body = hook.body
  manner : resolved.isAsync = spec.isAsync
  generated : resolved.generated = true
  line : resolved.line = 0

theorem resolves_iff (spec : Spec) (side : Side) (method : Method) (resolved : Resolved) :
    Resolves spec side method resolved ↔ resolved = spec.resolve side method := by
  have distinct := hook_names_distinct spec side
  have params := decides_iff (spec.hooks side) distinct method.name method.params Hook.paramText [] resolved.params
  have manner := decides_iff (spec.hooks side) distinct method.name method.isAsync (fun _ => spec.isAsync) false
    resolved.isAsync
  have resolve : spec.resolve side method =
      { name := method.name, returns := method.returns, body := method.body, generated := method.generated
        line := method.line
        params := method.params.getD ((((spec.hooks side).find? (·.name == method.name)).map Hook.paramText).getD [])
        isAsync := method.isAsync.getD
          ((((spec.hooks side).find? (·.name == method.name)).map fun _ => spec.isAsync).getD false) } := by
    unfold Spec.resolve
    cases (spec.hooks side).find? (·.name == method.name) <;> rfl
  rw [resolve]
  constructor
  · intro resolves
    rw [← params.mp resolves.params, ← manner.mp resolves.manner, ← resolves.name, ← resolves.returns, ← resolves.body,
      ← resolves.generated, ← resolves.line]
  · rintro rfl
    exact ⟨rfl, rfl, rfl, rfl, rfl, params.mpr rfl, manner.mpr rfl⟩

theorem supplies_iff (spec : Spec) (hook : Hook) (resolved : Resolved) :
    Supplies spec hook resolved ↔ resolved = spec.generate hook := by
  constructor
  · intro supplies
    cases resolved
    obtain ⟨rfl, rfl, rfl, rfl, rfl, rfl, rfl⟩ := supplies
    rfl
  · rintro rfl
    exact ⟨rfl, rfl, rfl, rfl, rfl, rfl, rfl⟩

/-! The methods of a trait. -/

-- The hooks of a side that no method is called like, in their order.
structure Missing (hooks : List Hook) (declared : List Method) (missing : List Hook) : Prop where
  ordered : missing.Sublist hooks
  undeclared : ∀ hook ∈ hooks, hook ∈ missing ↔ ∀ method ∈ declared, method.name ≠ hook.name

theorem missing_iff (hooks : List Hook) (distinct : (hooks.map (·.name)).Nodup) (declared : List Method)
    (missing : List Hook) : Missing hooks declared missing ↔
      missing = hooks.filter fun hook => !declared.any (·.name == hook.name) := by
  have kept : ∀ hook, hook ∈ (hooks.filter fun hook => !declared.any (·.name == hook.name)) ↔
      hook ∈ hooks ∧ ∀ method ∈ declared, method.name ≠ hook.name := by
    simp [List.mem_filter]
  constructor
  · intro absent
    have apart : hooks.Nodup := distinct.of_map
    refine (List.Nodup.perm_iff_eq_of_sublist apart absent.ordered List.filter_sublist).mp ?_
    refine (List.perm_ext_iff_of_nodup (absent.ordered.nodup apart) (apart.filter _)).mpr fun hook => ?_
    rw [kept]
    by_cases member : hook ∈ hooks
    · rw [absent.undeclared hook member, and_iff_right member]
    · exact iff_of_false (fun within => member (absent.ordered.mem within)) fun within => member within.1
  · rintro rfl
    exact ⟨List.filter_sublist, fun hook member => (kept hook).trans (and_iff_right member)⟩

-- The declared methods, resolved one by one, and then the missing hooks.
def Completes (spec : Spec) (side : Side) (methods : List Resolved) : Prop :=
  ∃ own missing added, methods = own ++ added ∧ List.Forall₂ (Resolves spec side) (declaredMethods spec side) own ∧
    Missing (spec.hooks side) (declaredMethods spec side) missing ∧ List.Forall₂ (Supplies spec) missing added

-- A relation that gives each item one result gives a list the list of the results.
theorem pairs_iff {α β : Type} (relates : α → β → Prop) (result : α → β)
    (each : ∀ item value, relates item value ↔ value = result item) (items : List α) (values : List β) :
    List.Forall₂ relates items values ↔ values = items.map result := by
  have same : relates = fun item value => result item = value :=
    funext fun item => funext fun value => propext ((each item value).trans eq_comm)
  rw [same, ← List.forall₂_map_left_iff, List.forall₂_eq_eq_eq]
  exact eq_comm

theorem completes_iff (spec : Spec) (side : Side) (methods : List Resolved) :
    Completes spec side methods ↔ methods = spec.traitMethods side := by
  simp only [Completes, pairs_iff _ _ (resolves_iff spec side), pairs_iff _ _ (supplies_iff spec),
    missing_iff _ (hook_names_distinct spec side), trait_methods_eq]
  constructor
  · rintro ⟨_, _, _, rfl, rfl, rfl, rfl⟩
    rfl
  · rintro rfl
    exact ⟨_, _, _, rfl, rfl, rfl, rfl⟩

/-! Methods of accepted specifications. -/

-- Everything that puts a body in the place of a trait's method.
def Spec.allImpls (spec : Spec) : Side → List Method
  | .state => spec.states.flatMap (·.impls)
  | .event => spec.declaredEvents.flatMap (·.impls)

-- A method of its name is there, and is asynchronous exactly if the implementation says so, where it says anything.
structure Agrees (methods : List Resolved) (impl : Method) : Prop where
  implements : ∃ method ∈ methods, method.name = impl.name
  manner : ∀ method ∈ methods, method.name = impl.name → ∀ isAsync, impl.isAsync = some isAsync →
    method.isAsync = isAsync

theorem impl_owned (spec : Spec) (valid : spec.validate = .ok ()) (side : Side) (shown : spec.Shows side)
    (impl : Method) (member : impl ∈ spec.allImpls side) : ∃ owner ∈ owners spec side, impl ∈ owner.2.2.1 := by
  cases side with
  | state =>
      obtain ⟨state, declared, own⟩ := List.mem_flatMap.mp member
      exact ⟨_, List.mem_map_of_mem declared, own⟩
  | event =>
      obtain ⟨event, declared, own⟩ := List.mem_flatMap.mp member
      have kind : spec.kind = .eventDriven := shown.resolve_right (by decide)
      have known := declared_known spec ((names_of_valid spec valid).events kind).1 event declared
      exact ⟨_, List.mem_map_of_mem known, own⟩

theorem impl_agrees (spec : Spec) (valid : spec.validate = .ok ()) (side : Side) (shown : spec.Shows side)
    (impl : Method) (member : impl ∈ spec.allImpls side) : Agrees (spec.traitMethods side) impl := by
  obtain ⟨owner, listed, own⟩ := impl_owned spec valid side shown impl member
  rcases side_checked spec valid side shown with accepted | ⟨_, none_⟩
  · obtain ⟨method, found, agrees⟩ := (accepted.owners owner listed).listed impl own
    have named : method.name = impl.name := by simpa using List.find?_some found
    refine ⟨⟨method, List.mem_of_find?_eq_some found, named⟩, fun other among same isAsync states => ?_⟩
    have distinct := method_names_apart spec side accepted.trait_
    have equal : other = method :=
      List.inj_on_of_nodup_map distinct among (List.mem_of_find?_eq_some found) (same.trans named.symm)
    rw [states] at agrees
    rw [equal]
    exact (eq_of_beq agrees).symm
  · rw [none_ owner listed] at own
    cases own

/-! Deterministic machines. -/

theorem unread_label (text : Text) (source : Option Text) (spec : Spec) (read : Spec.read text source = .ok spec)
    (root : Markup.Element) (parsed : Markup.read text = .ok root) (label : Text)
    (unknown : label ∉ (Reading.Place.machine.inside spec.kind).map Prod.fst) :
    Reading.named label root.children = [] := by
  have heeded := admits_heeded _ _ _ (read_admits text source spec read root parsed).2
  refine List.filter_eq_nil_iff.mpr fun child member same => unknown ?_
  rw [← eq_of_beq same]
  exact heeded.elements rfl child member

-- A document of a deterministic machine says nothing of events.
theorem read_eventless (text : Text) (source : Option Text) (spec : Spec) (read : Spec.read text source = .ok spec)
    (kind : spec.kind = .deterministic) : spec.traitMethods .event = [] ∧ spec.allImpls .event = [] := by
  obtain ⟨root, _, _, parsed, _, _⟩ := read_filled text source spec read
  obtain ⟨_, _, _, parts⟩ := Reading.read_parts text source spec read root parsed
  have traits := parts.eventTrait
  have events := parts.declaredEvents
  rw [unread_label text source spec read root parsed "event_trait" (by rw [kind]; decide)] at traits
  rw [unread_label text source spec read root parsed "events" (by rw [kind]; decide)] at events
  have undeclared : spec.eventTrait = none := by simpa using List.forall₂_nil_left_iff.mp traits
  constructor
  · simp [Spec.traitMethods, Spec.declaredTrait, undeclared, Spec.hooks, Spec.isEventDriven, kind]
  · rw [Spec.allImpls, List.forall₂_nil_left_iff.mp events, List.flatMap_nil]

-- A harp whose trait declares one hook and a method that its only state implements.
def harpSpec : Spec :=
  { kind := .eventDriven, name := "Harp", context := "list"
    stateEnum := some { name := "HarpState" }, eventEnum := some { name := "HarpEvent" }
    stateTrait := some
      { name := "Tuned", methods := [{ name := "pitch" }, { name := "on_exit", body := "context.append(1)" }] }
    states := [{ name := "Still", impls := [{ name := "pitch", body := "return 440", isAsync := some false }]
                 transitions := [{ source := "Still", trigger := "Pluck", target := some "Still" }] }] }

-- A loom that no document describes: it is deterministic, and yet has a trait for events and an event.
def loomSpec : Spec :=
  { kind := .deterministic, name := "Loom", context := "int", states := [{ name := "Still", line := 1 }]
    stateEnum := some { name := "LoomState", line := 1 }, eventEnum := some { name := "LoomEvent", line := 1 }
    eventTrait := some
      { name := "Heard", methods := [{ name := "ring", body := "pass", isAsync := some true, line := 1 }], line := 1 }
    declaredEvents :=
      [{ name := "Pull", impls := [{ name := "ring", body := "pass", isAsync := some false, line := 1 }], line := 1 }]
    line := 1 }

end Statewright
