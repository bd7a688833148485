import Statewright.Proofs.Calls

/-!
Who owns the context of a deterministic machine. A run starts with one machine; then methods are called on any of its
machines, they are read, and they are taken apart, in any order. The context has one owner until somebody takes it; a
machine that has given it away stays consumed and answers nothing.
-/
set_option autoImplicit false

namespace Statewright.Machine

open TypedWorld

variable {γ : Type}

-- What can be asked of a machine; to take it is to consume it and keep its parts.
inductive Request where
  | call (method : Text) (arguments : Arguments Value)
  | read
  | take

def together (held : Value × Nat) : Value := .tuple [held.1, .context held.2]

section Requests

variable (spec : Spec) (conduct : Conduct γ)

def serve (world : TypedWorld γ) (id : Nat) : Request → Except Fault Value × TypedWorld γ
  | .call method arguments => world.call spec conduct id method arguments
  | .read => ((world.peek spec id).map together, world)
  | .take => ((world.take spec id).1.map together, (world.take spec id).2)

def served (world : TypedWorld γ) (requests : List (Nat × Request)) : TypedWorld γ :=
  requests.foldl (fun world request => (serve spec conduct world request.1 request.2).2) world

def Takes (world : TypedWorld γ) (id : Nat) (request : Request) : Prop :=
  request = .take ∧ ∃ parts, (serve spec conduct world id request).1 = .ok parts

-- Somebody takes the context in the course of a run.
def Emptied : TypedWorld γ → List (Nat × Request) → Prop
  | _, [] => False
  | world, (id, request) :: rest =>
    Takes spec conduct world id request ∨ Emptied (serve spec conduct world id request).2 rest

-- A request that a live machine would begin to serve.
def Fits (machine : Typed) : Request → Prop
  | .call method arguments => ∃ transition bindings, machine.transition? spec method = some transition ∧
      (machine.formals spec conduct transition.trigger).bind arguments = some bindings
  | .read => True
  | .take => True

-- What a request does to the machines: nothing, or its machine gives the context to a new one, or to whoever asked.
inductive Serves (world : TypedWorld γ) (id : Nat) (request : Request) : TypedWorld γ → Prop where
  | kept (after : TypedWorld γ) (machines : after.machines = world.machines)
      (contexts : after.contexts.length = world.contexts.length) (untaken : ¬ Takes spec conduct world id request) :
      Serves world id request after
  | moved (after : TypedWorld γ) (source next : Typed) (value : Value) (context : Nat)
      (present : world.machines[id]? = some source) (live : source.held = some (value, context))
      (following : ∃ value, next.held = some (value, context))
      (machines : after.machines = (world.machines ++ [next]).set id source.consumed)
      (contexts : after.contexts.length = world.contexts.length) (untaken : ¬ Takes spec conduct world id request) :
      Serves world id request after
  | taken (source : Typed) (value : Value) (context : Nat) (present : world.machines[id]? = some source)
      (live : source.held = some (value, context)) (takes : Takes spec conduct world id request) :
      Serves world id request (world.setMachine id source.consumed)

end Requests

-- The context is known to its owner alone; without an owner every machine is consumed.
structure Owned (world : TypedWorld γ) (owner : Option Nat) : Prop where
  contexts : world.contexts.length = 1
  holds : ∀ id, owner = some id → ∃ machine value, world.machines[id]? = some machine ∧ machine.held = some (value, 0)
  sole : ∀ id machine, world.machines[id]? = some machine → owner ≠ some id → machine.held = none

theorem owned_live (world : TypedWorld γ) (owner : Option Nat) (owned : Owned world owner) (id : Nat)
    (machine : Typed) (value : Value) (context : Nat) (present : world.machines[id]? = some machine)
    (live : machine.held = some (value, context)) : owner = some id ∧ context = 0 := by
  have owns : owner = some id := by
    by_contra other
    rw [owned.sole id machine present other] at live
    cases live
  obtain ⟨held, own, found, holds⟩ := owned.holds id owns
  obtain rfl : machine = held := Option.some.inj (present.symm.trans found)
  rw [live] at holds
  exact ⟨owns, (Prod.mk.inj (Option.some.inj holds)).2⟩

section Steps

variable (spec : Spec) (conduct : Conduct γ) (world : TypedWorld γ)

theorem call_never_takes (id : Nat) (method : Text) (arguments : Arguments Value) :
    ¬ Takes spec conduct world id (.call method arguments) := by
  rintro ⟨same, _⟩
  cases same

theorem called_serves (call : LiveCall spec world) (outcome : Except Fault Value) (after : TypedWorld γ)
    (called : Called conduct call outcome after) :
    Serves spec conduct world call.id (.call call.transition.trigger call.arguments) after := by
  have untaken := call_never_takes spec conduct world call.id call.transition.trigger call.arguments
  cases called with
  | failed fault left failed => exact .kept _ rfl (by simp) untaken
  | returned bindings result left ran stays => exact .kept _ rfl (by simp) untaken
  | moved bindings target next left prepared seen fits =>
      exact .moved _ call.source ⟨target, some (next, call.context)⟩ call.value call.context call.present call.live
        ⟨next, rfl⟩ rfl (by simp) untaken

-- A call leaves the world as it is, unless its machine is live and has the method.
theorem call_unserved_or_live (id : Nat)
    (kept : ∀ source value context, world.machines[id]? = some source → source.held = some (value, context) →
      context < world.contexts.length) (method : Text) (arguments : Arguments Value) :
    (world.call spec conduct id method arguments).2 = world ∨
      ∃ call : LiveCall spec world, call.id = id ∧ call.transition.trigger = method ∧ call.arguments = arguments := by
  cases present : world.machines[id]? with
  | none => exact .inl (by simp only [TypedWorld.call, present])
  | some source =>
      cases offered : source.transition? spec method with
      | none => exact .inl (by simp only [TypedWorld.call, present, offered])
      | some transition =>
          obtain rfl := (offered_declared spec source method transition offered).1
          cases live : source.held with
          | none =>
              obtain ⟨fault, consumed⟩ := typed_gone spec source live
              cases bound : (source.formals spec conduct transition.trigger).bind arguments with
              | none => exact .inl (by simp only [TypedWorld.call, present, offered, bound])
              | some bindings => exact .inl (by simp only [TypedWorld.call, present, offered, bound, consumed])
          | some parts =>
              obtain ⟨value, context⟩ := parts
              have holds := List.getElem?_eq_getElem (kept source value context present live)
              exact .inr ⟨⟨id, source, value, context, _, transition, arguments, present, live, holds, offered⟩,
                rfl, rfl, rfl⟩

theorem take_serves (id : Nat) : Serves spec conduct world id .take (serve spec conduct world id .take).2 := by
  have empty : ∀ fault, world.take spec id = (.error fault, world) →
      Serves spec conduct world id .take (serve spec conduct world id .take).2 := by
    intro fault refused
    have untaken : ¬ Takes spec conduct world id .take := by
      rintro ⟨_, parts, taken⟩
      simp [serve, refused, Except.map] at taken
    rw [serve, refused]
    exact .kept world rfl rfl untaken
  cases present : world.machines[id]? with
  | none => exact empty .noAttribute (by simp only [TypedWorld.take, present])
  | some source =>
      cases live : source.held with
      | none =>
          obtain ⟨fault, consumed⟩ := typed_gone spec source live
          exact empty fault (by simp only [TypedWorld.take, present, consumed])
      | some parts =>
          obtain ⟨value, context⟩ := parts
          have taken : world.take spec id = (.ok (value, context), world.setMachine id source.consumed) := by
            simp only [TypedWorld.take, present, typed_alive spec source value context live]
          have takes : Takes spec conduct world id .take := ⟨rfl, together (value, context), by rw [serve, taken]; rfl⟩
          rw [serve, taken]
          exact .taken source value context present live takes

theorem serve_serves (valid : spec.validate = .ok ()) (kind : spec.kind = .deterministic) (apart : Callee.Apart spec)
    (owner : Option Nat) (owned : Owned world owner) (id : Nat) (request : Request) :
    Serves spec conduct world id request (serve spec conduct world id request).2 := by
  cases request with
  | call method arguments =>
      have kept : ∀ source value context, world.machines[id]? = some source → source.held = some (value, context) →
          context < world.contexts.length := by
        intro source value context present live
        obtain ⟨_, rfl⟩ := owned_live world owner owned id source value context present live
        rw [owned.contexts]
        exact Nat.zero_lt_one
      rcases call_unserved_or_live spec conduct world id kept method arguments with same | ⟨call, rfl, rfl, rfl⟩
      · rw [serve, same]
        exact .kept world rfl rfl (call_never_takes spec conduct world id method arguments)
      · have reaches := offered_reaches spec valid kind apart call.source _ call.transition call.offered
        obtain ⟨outcome, after, called⟩ := call_ends conduct call reaches
        rw [serve, called_call conduct call reaches outcome after called]
        exact called_serves spec conduct world call outcome after called
  | read =>
      have untaken : ¬ Takes spec conduct world id .read := by
        rintro ⟨same, _⟩
        cases same
      exact .kept world rfl rfl untaken
  | take => exact take_serves spec conduct world id

end Steps

theorem set_found (machines : List Typed) (id other : Nat) (new machine : Typed)
    (found : (machines.set id new)[other]? = some machine) :
    other = id ∧ machine = new ∨ other ≠ id ∧ machines[other]? = some machine := by
  by_cases same : other = id
  · subst same
    have inside := (List.getElem?_eq_some_iff.mp found).1
    rw [List.getElem?_set_self (by simpa using inside)] at found
    exact .inl ⟨rfl, (Option.some.inj found).symm⟩
  · rw [List.getElem?_set_ne (Ne.symm same)] at found
    exact .inr ⟨same, found⟩

theorem serves_owned (spec : Spec) (conduct : Conduct γ) (world after : TypedWorld γ) (id : Nat) (request : Request)
    (owner : Option Nat) (owned : Owned world owner) (serves : Serves spec conduct world id request after) :
    ∃ next, Owned after next ∧ (next = none ↔ owner = none ∨ Takes spec conduct world id request) := by
  cases serves with
  | kept _ machines contexts untaken =>
      refine ⟨owner, ⟨?_, ?_, ?_⟩, ⟨.inl, fun gone => gone.resolve_right untaken⟩⟩
      · rw [contexts, owned.contexts]
      · rw [machines]
        exact owned.holds
      · rw [machines]
        exact owned.sole
  | moved _ source new value context present live following machines contexts untaken =>
      obtain ⟨owns, rfl⟩ := owned_live world owner owned id source value context present live
      obtain ⟨next, holds⟩ := following
      have early : id < world.machines.length := (List.getElem?_eq_some_iff.mp present).1
      have added : after.machines[world.machines.length]? = some new := by
        rw [machines, List.getElem?_set_ne (by omega)]
        simp
      refine ⟨some world.machines.length, ⟨?_, ?_, ?_⟩, ?_⟩
      · rw [contexts, owned.contexts]
      · intro other same
        obtain rfl := Option.some.inj same
        exact ⟨new, next, added, holds⟩
      · intro other machine found different
        rw [machines] at found
        rcases set_found _ id other source.consumed machine found with ⟨_, rfl⟩ | ⟨elsewhere, unmoved⟩
        · rfl
        · have inside : other < world.machines.length := by
            have bound := (List.getElem?_eq_some_iff.mp unmoved).1
            have apart : world.machines.length ≠ other := fun same => different (congrArg some same)
            simp only [List.length_append, List.length_singleton] at bound
            omega
          rw [List.getElem?_append_left inside] at unmoved
          exact owned.sole other machine unmoved (by rw [owns]; simpa using Ne.symm elsewhere)
      · simp [owns, untaken]
  | taken source value context present live takes =>
      obtain ⟨owns, rfl⟩ := owned_live world owner owned id source value context present live
      refine ⟨none, ⟨owned.contexts, by simp, ?_⟩, by simp [takes]⟩
      intro other machine found _
      rcases set_found world.machines id other source.consumed machine found with ⟨_, rfl⟩ | ⟨elsewhere, unmoved⟩
      · rfl
      · exact owned.sole other machine unmoved (by rw [owns]; simpa using Ne.symm elsewhere)

-- A consumed machine stays as it is.
theorem serves_consumed (spec : Spec) (conduct : Conduct γ) (world after : TypedWorld γ) (id other : Nat)
    (request : Request) (machine : Typed) (present : world.machines[id]? = some machine) (gone : machine.held = none)
    (serves : Serves spec conduct world other request after) : after.machines[id]? = some machine := by
  have different : ∀ source value context, world.machines[other]? = some source →
      source.held = some (value, context) → other ≠ id := by
    rintro source value context found live rfl
    obtain rfl := Option.some.inj (present.symm.trans found)
    rw [gone] at live
    cases live
  cases serves with
  | kept _ machines contexts untaken => rw [machines, present]
  | moved _ source next value context found live following machines contexts untaken =>
      rw [machines, List.getElem?_set_ne (different source value context found live),
        List.getElem?_append_left (List.getElem?_eq_some_iff.mp present).1, present]
  | taken source value context found live takes =>
      rw [set_machine_machines, List.getElem?_set_ne (different source value context found live), present]

-- What a consumed machine answers.
theorem consumed_refuses (spec : Spec) (asks : spec.hides "type" = false) (conduct : Conduct γ) (world : TypedWorld γ) (id : Nat) (machine : Typed)
    (present : world.machines[id]? = some machine) (gone : machine.held = none) (request : Request)
    (fits : Fits spec conduct machine request) :
    serve spec conduct world id request = (.error (.consumed (machine.className spec)), world) := by
  have consumed := typed_consumed spec asks machine gone
  cases request with
  | call method arguments =>
      obtain ⟨transition, bindings, offered, bound⟩ := fits
      simp only [serve, TypedWorld.call, present, offered, bound, consumed]
  | read =>
      simp only [serve, TypedWorld.peek, present, consumed]
      rfl
  | take =>
      simp only [serve, TypedWorld.take, present, consumed]
      rfl

section Runs

variable (spec : Spec) (valid : spec.validate = .ok ()) (kind : spec.kind = .deterministic) (apart : Callee.Apart spec)
  (conduct : Conduct γ)

include valid kind apart

theorem served_owned (world : TypedWorld γ) (owner : Option Nat) (owned : Owned world owner)
    (requests : List (Nat × Request)) :
    ∃ next, Owned (served spec conduct world requests) next ∧
      (next = none ↔ owner = none ∨ Emptied spec conduct world requests) := by
  induction requests generalizing world owner with
  | nil => exact ⟨owner, owned, ⟨.inl, fun gone => gone.resolve_right id⟩⟩
  | cons request rest ih =>
      obtain ⟨number, request⟩ := request
      have serves := serve_serves spec conduct world valid kind apart owner owned number request
      obtain ⟨middle, after, lost⟩ := serves_owned spec conduct world _ number request owner owned serves
      obtain ⟨next, reached, emptied⟩ := ih _ middle after
      refine ⟨next, reached, ?_⟩
      rw [emptied, lost, or_assoc]
      rfl

theorem served_consumed (world : TypedWorld γ) (owner : Option Nat) (owned : Owned world owner)
    (requests : List (Nat × Request)) (id : Nat) (machine : Typed) (present : world.machines[id]? = some machine)
    (gone : machine.held = none) : (served spec conduct world requests).machines[id]? = some machine := by
  induction requests generalizing world owner with
  | nil => exact present
  | cons request rest ih =>
      obtain ⟨number, request⟩ := request
      have serves := serve_serves spec conduct world valid kind apart owner owned number request
      obtain ⟨middle, after, _⟩ := serves_owned spec conduct world _ number request owner owned serves
      exact ih _ middle after (serves_consumed spec conduct world _ id number request machine present gone serves)

end Runs

theorem peek_live (spec : Spec) (world : TypedWorld γ) (id : Nat) (machine : Typed) (value : Value) (context : Nat)
    (present : world.machines[id]? = some machine) (live : machine.held = some (value, context)) :
    world.peek spec id = .ok (value, context) := by
  simp only [TypedWorld.peek, present, typed_alive spec machine value context live]

theorem peek_ok (spec : Spec) (world : TypedWorld γ) (id : Nat) (held : Value × Nat)
    (peeked : world.peek spec id = .ok held) :
    ∃ machine, world.machines[id]? = some machine ∧ machine.held = some held := by
  cases present : world.machines[id]? with
  | none => simp [TypedWorld.peek, present] at peeked
  | some machine =>
      cases live : machine.held with
      | none =>
          obtain ⟨fault, consumed⟩ := typed_gone spec machine live
          simp [TypedWorld.peek, present, consumed] at peeked
      | some parts =>
          rw [peek_live spec world id machine parts.1 parts.2 present live] at peeked
          obtain rfl := Except.ok.inj peeked
          exact ⟨machine, rfl, live⟩

theorem state_for_ok (spec : Spec) (value : Value) (actual state : Text)
    (chosen : Typed.stateFor spec value actual = .ok state) : spec.hides "type" = false ∧
    ∃ fields, value = .object state fields ∧ state ∈ spec.states.map (·.name) := by
  unfold Typed.stateFor at chosen
  split at chosen
  · cases chosen
  · rename_i asks
    refine ⟨Bool.eq_false_iff.mpr asks, ?_⟩
    split at chosen
    · rename_i type fields
      split at chosen
      · rename_i declared
        obtain rfl := Except.ok.inj chosen
        obtain ⟨found, matched⟩ := Option.isSome_iff_exists.mp declared
        obtain ⟨listed, named⟩ := state_found spec type found matched
        rw [← named]
        exact ⟨fields, rfl, List.mem_map_of_mem listed⟩
      · cases chosen
    · cases chosen

-- To make a machine fails and changes nothing, or makes one for the state of the value around a new context.
theorem start_ends (spec : Spec) (apart : Callee.Apart spec) (conduct : Conduct γ) (world : TypedWorld γ)
    (value : Value) (contents : γ) :
    (∃ fault, start spec conduct world none value contents = (.error fault, world)) ∨
    ∃ state ∈ spec.states.map (·.name), spec.hides "type" = false ∧ value.isOf state = true ∧
      start spec conduct world none value contents = (.ok (.machine world.machines.length),
        ⟨world.machines ++ [⟨state, some (value, world.contexts.length)⟩], world.contexts ++ [contents]⟩) := by
  cases chosen : Typed.stateFor spec value (typeOf spec world value) with
  | error fault => exact .inl ⟨fault, by simp only [start, chosen]⟩
  | ok state =>
      obtain ⟨asks, fields, rfl, declared⟩ := state_for_ok spec value _ state chosen
      have fits : (Value.object state fields).isOf state = true := beq_self_eq_true state
      cases misplaced : Typed.misplaced? spec state (.object state fields)
          (typeOf spec (world.addContext contents).2 (.object state fields)) with
      | some fault =>
          refine .inl ⟨fault, ?_⟩
          simp only [start, chosen, Callee.class_stands spec apart state declared, class_invoked, misplaced]
      | none =>
          refine .inr ⟨state, declared, asks, fits, ?_⟩
          simp only [start, chosen, Callee.class_stands spec apart state declared, class_invoked, misplaced]
          rfl

-- The first machine of a run holds the value and the context that it was made with.
theorem start_made (spec : Spec) (apart : Callee.Apart spec) (conduct : Conduct γ) (value machine : Value)
    (contents : γ) (world : TypedWorld γ)
    (started : start spec conduct {} none value contents = (.ok machine, world)) :
    machine = .machine 0 ∧ spec.hides "type" = false ∧ ∃ state, world = ⟨[⟨state, some (value, 0)⟩], [contents]⟩ := by
  rcases start_ends spec apart conduct {} value contents with ⟨fault, refused⟩ | ⟨state, _, asks, _, made⟩
  · rw [refused] at started
    cases started
  · rw [made] at started
    cases started
    exact ⟨rfl, asks, state, rfl⟩

theorem first_owned (state : Text) (value : Value) (contents : γ) :
    Owned (⟨[⟨state, some (value, 0)⟩], [contents]⟩ : TypedWorld γ) (some 0) where
  contexts := rfl
  holds := by
    rintro id same
    obtain rfl := Option.some.inj same
    exact ⟨_, value, rfl, rfl⟩
  sole := by
    intro id machine found different
    cases id with
    | zero => exact absurd rfl different
    | succ id => cases found

-- A light that burns out once.
def bulbSpec : Spec :=
  { kind := .deterministic, name := "Bulb", context := "list"
    states :=
      [{ name := "Lit", transitions := [{ source := "Lit", trigger := "burn", target := some "Dead" }] },
       { name := "Dead" }] }

def bulbWorld : TypedWorld Contents := ⟨[⟨"Lit", some (.object "Lit" [], 0)⟩], [[]]⟩

def bulbBurnt : TypedWorld Contents :=
  served bulbSpec (Program.ofSpec bulbSpec).conduct bulbWorld [(0, .call "burn" {})]

-- A light whose name makes the machine class of the state `On` read like the body of `turnOn`.
def torchSpec : Spec :=
  { kind := .deterministic, name := "_body__On__turn", context := "list"
    states := [{ name := "On", transitions := [{ source := "On", trigger := "turnOn" }] }] }

-- The call of the body makes a second machine on the context of the first, which stays live.
def torchWorld : TypedWorld Contents := ⟨[⟨"On", some (.object "On" [], 0)⟩], [[]]⟩

def torchTurned : TypedWorld Contents :=
  served torchSpec (Program.ofSpec torchSpec).conduct torchWorld [(0, .call "turnOn" {})]

end Statewright.Machine
