import Statewright.Machine.Dispatch
import Statewright.Proofs.Tables

/-!
The functions that hold the bodies of transitions. Each is named after the state and the trigger with a separator
between them, and identifiers may contain the separator, so two pairs have one name exactly where one reads as the
other with its separator moved. Of several definitions under one name the last one stands: a transition runs its own
body unless a later definition takes its name.
-/
set_option autoImplicit false

namespace Statewright

-- The separator of one pair moves to the left and gives the other: `A__B` on `C` reads as `A` on `B__C`.
def Slides (pair other : Text × Text) : Prop :=
  (∃ middle, pair.1 = other.1 ++ "__" ++ middle ∧ other.2 = middle ++ "__" ++ pair.2) ∨
  (pair.1 = other.1 ++ "_" ∧ other.2 = "_" ++ pair.2)

def Collides (pair other : Text × Text) : Prop := Slides pair other ∨ Slides other pair

def joined (pair : Text × Text) : Text := pair.1 ++ ("__" ++ pair.2)

theorem separator_marks : Text.fixed "__" = ['_', '_'] := rfl

theorem mark_alone : Text.fixed "_" = ['_'] := rfl

theorem slides_joined (pair other : Text × Text) (slides : Slides pair other) : joined pair = joined other := by
  unfold joined
  cases slides with
  | inl wide =>
      obtain ⟨middle, first, second⟩ := wide
      rw [first, second]
      simp only [List.append_assoc]
  | inr narrow =>
      obtain ⟨first, second⟩ := narrow
      rw [first, second, separator_marks, mark_alone]
      simp only [List.append_assoc, List.cons_append, List.nil_append]

theorem longer_slides (pair other : Text × Text) (rest : Text) (first : pair.1 = other.1 ++ rest)
    (second : "__" ++ other.2 = rest ++ ("__" ++ pair.2)) : pair = other ∨ Slides pair other := by
  rw [separator_marks] at second
  cases rest with
  | nil =>
      have same : other.2 = pair.2 := by simpa using second
      exact .inl (Prod.ext (by simpa using first) same.symm)
  | cons mark rest =>
      cases rest with
      | nil =>
          obtain ⟨rfl, tail⟩ := List.cons.inj second
          have ending : other.2 = "_" ++ pair.2 := (List.cons.inj tail).2
          exact .inr (.inr ⟨first, ending⟩)
      | cons next middle =>
          obtain ⟨rfl, tail⟩ := List.cons.inj second
          obtain ⟨rfl, ending⟩ := List.cons.inj tail
          have start : pair.1 = other.1 ++ "__" ++ middle := by
            rw [first, separator_marks, List.append_assoc]
            rfl
          have moved : other.2 = middle ++ "__" ++ pair.2 := by
            rw [separator_marks, List.append_assoc]
            exact ending
          exact .inr (.inl ⟨middle, start, moved⟩)

theorem joined_eq_iff (pair other : Text × Text) : joined pair = joined other ↔ pair = other ∨ Collides pair other := by
  constructor
  · intro same
    rcases List.append_eq_append_iff.mp same with ⟨rest, first, second⟩ | ⟨rest, first, second⟩
    · rcases longer_slides other pair rest first second with equal | slides
      · exact .inl equal.symm
      · exact .inr (.inr slides)
    · rcases longer_slides pair other rest first second with equal | slides
      · exact .inl equal
      · exact .inr (.inl slides)
  · rintro (rfl | slides | slides)
    · rfl
    · exact slides_joined pair other slides
    · exact (slides_joined other pair slides).symm

theorem slides_shortens (pair other : Text × Text) (slides : Slides pair other) : other.1.length < pair.1.length := by
  rcases slides with ⟨middle, first, _⟩ | ⟨first, _⟩
  · rw [first, separator_marks]
    simp only [List.length_append, List.length_cons]
    omega
  · rw [first, mark_alone]
    simp

theorem collides_apart (pair other : Text × Text) (collides : Collides pair other) : pair.1 ≠ other.1 := by
  intro same
  rcases collides with slides | slides
  · have shorter := slides_shortens pair other slides
    rw [same] at shorter
    exact absurd shorter (Nat.lt_irrefl _)
  · have shorter := slides_shortens other pair slides
    rw [same] at shorter
    exact absurd shorter (Nat.lt_irrefl _)

namespace Machine.Program

theorem helper_name_joined (spec : Spec) (state trigger : Text) :
    helperName spec state trigger =
      (if spec.isEventDriven then Text.fixed "_handle__" else Text.fixed "_body__") ++ joined (state, trigger) := by
  unfold helperName
  split
  · simp only [handlerName, joined, List.append_assoc]
  · simp only [Emission.Deterministic.bodyName, joined, List.append_assoc]

theorem helper_name_eq_iff (spec : Spec) (pair other : Text × Text) :
    helperName spec pair.1 pair.2 = helperName spec other.1 other.2 ↔ pair = other ∨ Collides pair other := by
  rw [helper_name_joined, helper_name_joined, List.append_cancel_left_eq]
  exact joined_eq_iff pair other

-- The name of the catch-all function has no separator after its beginning.
theorem handler_name_not_catch_all (state event : Text) : handlerName state event ≠ catchAllHandler := by
  intro same
  have marks := congrArg (List.count '_') same
  have long : (catchAllHandler.count '_') = 4 := by decide
  have start : (Text.fixed "_handle__").count '_' = 3 := by decide
  have middle : (Text.fixed "__").count '_' = 2 := by decide
  rw [long, handlerName, List.count_append, List.count_append, List.count_append, start, middle] at marks
  omega

-- A definition stands if no later one of its name differs from it.
theorem stands_iff (program : Program) (before after : List Definition) (definition : Definition)
    (ordered : program.definitions = before ++ definition :: after) (different : definition ∉ after) :
    program.standing? definition.name = some definition ↔ ∀ other ∈ after, other.name ≠ definition.name := by
  have searched : program.standing? definition.name =
      (after.reverse.find? (·.name == definition.name)).or (some definition) := by
    unfold standing?
    rw [ordered, List.reverse_append, List.reverse_cons, List.append_assoc, List.find?_append]
    congr 1
    simp
  rw [searched]
  constructor
  · intro stands other member same
    cases found : after.reverse.find? (·.name == definition.name) with
    | none =>
        have missing := List.find?_eq_none.mp found other (List.mem_reverse.mpr member)
        exact missing (beq_iff_eq.mpr same)
    | some winner =>
        rw [found, Option.some_or] at stands
        have later := List.mem_reverse.mp (List.mem_of_find?_eq_some found)
        exact different (Option.some.inj stands ▸ later)
  · intro apart
    have missing : after.reverse.find? (·.name == definition.name) = none := by
      rw [List.find?_eq_none]
      intro other member same
      exact apart other (List.mem_reverse.mp member) (beq_iff_eq.mp same)
    rw [missing]
    rfl

-- A transition that another one, of a later state, or the class of a state takes the name from.
def Overwritten (spec : Spec) (state : State) (transition : Transition) (later : List State) : Prop :=
  (∃ owner ∈ later, ∃ other ∈ owner.transitions,
    Collides (state.name, transition.trigger) (owner.name, other.trigger)) ∨
  (spec.kind = .deterministic ∧ ∃ owner ∈ state :: later,
    spec.name ++ owner.name = helperName spec state.name transition.trigger)

theorem mem_definitions_of (spec : Spec) (owner : State) (definition : Definition) :
    definition ∈ definitionsOf spec owner ↔
      (∃ other ∈ owner.transitions, definition = definitionOf spec owner.name other) ∨
      (spec.kind = .deterministic ∧ definition = .machineClass (spec.name ++ owner.name)) := by
  unfold definitionsOf Spec.isEventDriven
  rw [List.mem_append, List.mem_map]
  cases kind : spec.kind <;> simp [eq_comm]

-- What follows a transition is what its state would define with the remaining ones, and the later states.
def definitionsAfter (spec : Spec) (state : State) (rest : List Transition) (later : List State) : List Definition :=
  ({ state with transitions := rest } :: later).flatMap (definitionsOf spec)

theorem mem_definitions_after (spec : Spec) (state : State) (rest : List Transition) (later : List State)
    (definition : Definition) :
    definition ∈ definitionsAfter spec state rest later ↔
      (∃ other ∈ rest, definition = definitionOf spec state.name other) ∨
      (∃ owner ∈ later, ∃ other ∈ owner.transitions, definition = definitionOf spec owner.name other) ∨
      (spec.kind = .deterministic ∧ ∃ owner ∈ state :: later,
        definition = .machineClass (spec.name ++ owner.name)) := by
  unfold definitionsAfter
  simp only [List.flatMap_cons, List.mem_append, List.mem_flatMap, mem_definitions_of, List.exists_mem_cons_iff]
  constructor
  · rintro ((remaining | ⟨kind, own⟩) | ⟨owner, inLater, listed | ⟨kind, named⟩⟩)
    · exact .inl remaining
    · exact .inr (.inr ⟨kind, .inl own⟩)
    · exact .inr (.inl ⟨owner, inLater, listed⟩)
    · exact .inr (.inr ⟨kind, .inr ⟨owner, inLater, named⟩⟩)
  · rintro (remaining | ⟨owner, inLater, listed⟩ | ⟨kind, own | ⟨owner, inLater, named⟩⟩)
    · exact .inl (.inl remaining)
    · exact .inr ⟨owner, inLater, .inl listed⟩
    · exact .inl (.inr ⟨kind, own⟩)
    · exact .inr ⟨owner, inLater, .inr ⟨kind, named⟩⟩

-- The pair of a transition is declared nowhere after it.
theorem pair_not_later (spec : Spec) (valid : spec.validate = .ok ()) (earlier later : List State) (state : State)
    (ordered : spec.states = earlier ++ state :: later) (first rest : List Transition) (transition : Transition)
    (listed : state.transitions = first ++ transition :: rest) :
    (∀ other ∈ rest, (state.name, other.trigger) ≠ (state.name, transition.trigger)) ∧
      ∀ owner ∈ later, ∀ other ∈ owner.transitions,
        (owner.name, other.trigger) ≠ (state.name, transition.trigger) := by
  have distinct := pairs_distinct spec valid
  have split : spec.ownedTransitions.map pairOf =
      ((earlier.flatMap fun owner => owner.transitions.map fun other => (owner.name, other.trigger)) ++
        first.map fun other => (state.name, other.trigger)) ++
      (state.name, transition.trigger) :: ((rest.map fun other => (state.name, other.trigger)) ++
        later.flatMap fun owner => owner.transitions.map fun other => (owner.name, other.trigger)) := by
    simp [Spec.ownedTransitions, ordered, listed, List.map_flatMap, pairOf, Function.comp_def]
  rw [split] at distinct
  have fresh := (List.nodup_cons.mp (List.nodup_append.mp distinct).2.1).1
  constructor
  · intro other member same
    exact fresh (List.mem_append_left _ (List.mem_map.mpr ⟨other, member, same⟩))
  · intro owner inLater other member same
    refine fresh (List.mem_append_right _ (List.mem_flatMap.mpr ⟨owner, inLater, ?_⟩))
    exact List.mem_map.mpr ⟨other, member, same⟩

theorem name_taken_iff (spec : Spec) (valid : spec.validate = .ok ()) (earlier later : List State) (state : State)
    (ordered : spec.states = earlier ++ state :: later) (first rest : List Transition) (transition : Transition)
    (listed : state.transitions = first ++ transition :: rest) :
    (∃ other ∈ definitionsAfter spec state rest later, other.name = helperName spec state.name transition.trigger) ↔
      Overwritten spec state transition later := by
  obtain ⟨apart, elsewhere⟩ := pair_not_later spec valid earlier later state ordered first rest transition listed
  have names := helper_name_eq_iff spec (state.name, transition.trigger)
  constructor
  · rintro ⟨definition, follows, same⟩
    rcases (mem_definitions_after spec state rest later definition).mp follows with
      ⟨other, remaining, rfl⟩ | ⟨owner, inLater, other, found, rfl⟩ | ⟨kind, owner, declared, rfl⟩
    · rcases (names (state.name, other.trigger)).mp same.symm with equal | collides
      · exact absurd equal.symm (apart other remaining)
      · exact absurd rfl (collides_apart (state.name, transition.trigger) (state.name, other.trigger) collides)
    · rcases (names (owner.name, other.trigger)).mp same.symm with equal | collides
      · exact absurd equal.symm (elsewhere owner inLater other found)
      · exact .inl ⟨owner, inLater, other, found, collides⟩
    · exact .inr ⟨kind, owner, declared, same⟩
  · rintro (⟨owner, inLater, other, found, collides⟩ | ⟨kind, owner, declared, same⟩)
    · have follows := (mem_definitions_after spec state rest later _).mpr
        (.inr (.inl ⟨owner, inLater, other, found, rfl⟩))
      exact ⟨_, follows, ((names (owner.name, other.trigger)).mpr (.inr collides)).symm⟩
    · have follows := (mem_definitions_after spec state rest later _).mpr (.inr (.inr ⟨kind, owner, declared, rfl⟩))
      exact ⟨_, follows, same⟩

theorem helper_stands_iff (spec : Spec) (valid : spec.validate = .ok ()) (earlier later : List State) (state : State)
    (ordered : spec.states = earlier ++ state :: later) (transition : Transition)
    (member : transition ∈ state.transitions) :
    (ofSpec spec).standing? (helperName spec state.name transition.trigger) =
        some (definitionOf spec state.name transition) ↔ ¬ Overwritten spec state transition later := by
  obtain ⟨first, rest, listed⟩ := List.append_of_mem member
  obtain ⟨apart, elsewhere⟩ := pair_not_later spec valid earlier later state ordered first rest transition listed
  have definitions : (ofSpec spec).definitions =
      (earlier.flatMap (definitionsOf spec) ++ first.map (definitionOf spec state.name)) ++
        definitionOf spec state.name transition :: definitionsAfter spec state rest later := by
    simp [ofSpec, ordered, definitionsOf, definitionsAfter, listed]
  have different : definitionOf spec state.name transition ∉ definitionsAfter spec state rest later := by
    intro again
    rcases (mem_definitions_after spec state rest later _).mp again with
      ⟨other, remaining, same⟩ | ⟨owner, inLater, other, found, same⟩ | ⟨_, owner, _, same⟩
    · obtain ⟨_, sameTrigger, _⟩ := Definition.body.inj same
      exact apart other remaining (by rw [sameTrigger])
    · obtain ⟨sameState, sameTrigger, _⟩ := Definition.body.inj same
      exact elsewhere owner inLater other found (by rw [sameState, sameTrigger])
    · cases same
  have stands := stands_iff (ofSpec spec) _ _ _ definitions different
  rw [← name_taken_iff spec valid earlier later state ordered first rest transition listed]
  simp only [not_exists, not_and]
  exact stands

-- No method begins with an underscore, so methods of a deterministic machine collide over a whole separator.
theorem methods_slide_far (spec : Spec) (valid : spec.validate = .ok ()) (kind : spec.kind = .deterministic)
    (owned other : Text × Transition) (declared : other ∈ spec.ownedTransitions)
    (slides : Slides (pairOf owned) (pairOf other)) :
    ∃ middle, owned.1 = other.1 ++ "__" ++ middle ∧ other.2.trigger = middle ++ "__" ++ owned.2.trigger := by
  refine slides.resolve_right ?_
  rintro ⟨_, second⟩
  have opened : other.2.trigger = Text.fixed "_" ++ owned.2.trigger := second
  have head : other.2.trigger.head? = some '_' := by
    rw [opened, mark_alone]
    rfl
  exact deterministic_triggers_open spec valid kind other declared head

-- The parameters of a method are those of its own body, whatever stands under its name.
theorem formals_own (spec : Spec) (valid : spec.validate = .ok ()) (state : State) (declared : state ∈ spec.states)
    (transition : Transition) (member : transition ∈ state.transitions) :
    (ofSpec spec).formals state.name transition.trigger = (bodyOf spec transition).formals := by
  have listed : definitionOf spec state.name transition ∈ (ofSpec spec).definitions :=
    List.mem_flatMap.mpr ⟨state, declared, (mem_definitions_of spec state _).mpr (.inl ⟨transition, member, rfl⟩)⟩
  unfold formals
  cases found : (ofSpec spec).definitions.find? (·.isBodyOf state.name transition.trigger) with
  | none =>
      have missing := List.find?_eq_none.mp found _ listed
      simp [definitionOf, Definition.isBodyOf] at missing
  | some definition =>
      have matched := List.find?_some found
      obtain ⟨owner, stated, inOwner⟩ := List.mem_flatMap.mp (List.mem_of_find?_eq_some found)
      rcases (mem_definitions_of spec owner definition).mp inOwner with ⟨other, within, rfl⟩ | ⟨_, rfl⟩
      · simp only [definitionOf, Definition.isBodyOf, Bool.and_eq_true, beq_iff_eq] at matched
        have first := owned_transition spec owner stated other within
        have second := owned_transition spec state declared transition member
        have same : pairOf (owner.name, other) = pairOf (state.name, transition) := Prod.ext matched.1 matched.2
        have equal := List.inj_on_of_nodup_map (pairs_distinct spec valid) first second same
        rw [(Prod.mk.inj equal).2]
        rfl
      · cases matched

-- The entry of the table, or the method of the machine, leads to the body that is declared for the pair.
def RunsOwnBody (spec : Spec) (state : Text) (transition : Transition) : Prop :=
  let program := ofSpec spec
  match spec.kind with
  | .eventDriven =>
    (∀ table, spec.table = .ok table →
      table.lookup? state transition.trigger = some ⟨state, transition.trigger, .explicit transition⟩) ∧
    ∀ self context event, program.conduct.handler state transition.trigger self context event =
      (bodyOf spec transition).call program.classes (given self context ++ [(Text.fixed "event", event)]) {}
  | .deterministic =>
    program.conduct.formals state transition.trigger = (bodyOf spec transition).formals ∧
    ∀ self context arguments, program.conduct.body state transition.trigger self context arguments =
      (bodyOf spec transition).call program.classes (given self context) arguments

theorem standing_helper_runs (spec : Spec) (valid : spec.validate = .ok ()) (state : State)
    (declared : state ∈ spec.states) (transition : Transition) (member : transition ∈ state.transitions)
    (stands : (ofSpec spec).standing? (helperName spec state.name transition.trigger) =
      some (definitionOf spec state.name transition)) : RunsOwnBody spec state.name transition := by
  have owned := owned_transition spec state declared transition member
  have called : (ofSpec spec).defined? (helperName spec state.name transition.trigger) =
      some (bodyOf spec transition) := by
    rw [defined?, stands]
    rfl
  unfold RunsOwnBody
  cases kind : spec.kind with
  | eventDriven =>
      have name : helperName spec state.name transition.trigger = handlerName state.name transition.trigger := by
        simp [helperName, Spec.isEventDriven, kind]
      rw [name] at called
      constructor
      · intro table built
        have found := lookup_resolution spec table built state.name transition.trigger (owner_is_state spec _ owned)
          (trigger_is_event spec _ owned)
        rw [found, resolution_owned spec (pairs_distinct spec valid) state.name transition owned]
      · intro self context event
        simp only [conduct, callDefined, called]
  | deterministic =>
      have name : helperName spec state.name transition.trigger =
          Emission.Deterministic.bodyName state.name transition.trigger := by
        simp [helperName, Spec.isEventDriven, kind]
      rw [name] at called
      refine ⟨formals_own spec valid state declared transition member, ?_⟩
      intro self context arguments
      simp only [conduct, callDefined, called]

-- A lamp whose two states each go back to themselves, on events that the separator makes alike.
def dimState : State :=
  { name := "Red__Dim", transitions := [{ source := "Red__Dim", trigger := "Tick", target := some "Red__Dim" }] }

def redTick : Transition := { source := "Red", trigger := "Dim__Tick", target := some "Red" }

def redState : State := { name := "Red", transitions := [redTick] }

def lampSpec : Spec :=
  { kind := .eventDriven, name := "Lamp", context := "list"
    stateEnum := some { name := "LampState" }, eventEnum := some { name := "LampEvent" }
    states := [dimState, redState] }

def lampParts : Emission.EventDriven.Parts := partsOf lampSpec { name := "LampState" } { name := "LampEvent" }

end Machine.Program

end Statewright
