import Statewright.Proofs.CompleteTables

/-!
The events of a machine as a merge of its references and its declarations: one event for each name, those referred to
first, in the order of their first references, then the others, in the order of their first declarations.
-/
set_option autoImplicit false

namespace Statewright

-- What is kept of a list is what nothing of its name stands before.
theorem mem_firsts_iff {α : Type} (name : α → Text) (seen : List Text) (items : List α) (item : α) :
    item ∈ firstsBy name seen items ↔ name item ∉ seen ∧
      ∃ before after, items = before ++ item :: after ∧ ∀ other ∈ before, name other ≠ name item := by
  induction items generalizing seen with
  | nil => simp [firstsBy]
  | cons first rest ih =>
      have later (fresh : name first ≠ name item) :
          (∃ before after, rest = before ++ item :: after ∧ ∀ other ∈ before, name other ≠ name item) ↔
            ∃ before after, first :: rest = before ++ item :: after ∧ ∀ other ∈ before, name other ≠ name item := by
        constructor
        · rintro ⟨before, after, rfl, unlike⟩
          exact ⟨first :: before, after, rfl, List.forall_mem_cons.mpr ⟨fresh, unlike⟩⟩
        · rintro ⟨before, after, parted, unlike⟩
          cases before with
          | nil =>
              cases parted
              exact absurd rfl fresh
          | cons head before =>
              cases parted
              exact ⟨before, after, rfl, fun other member => unlike other (List.mem_cons_of_mem _ member)⟩
      by_cases known : name first ∈ seen
      · rw [firstsBy, if_pos (by simpa using known), ih]
        refine and_congr_right fun unseen => later ?_
        intro same
        exact unseen (same ▸ known)
      · rw [firstsBy, if_neg (by simpa using known), List.mem_cons, ih]
        by_cases same : name first = name item
        · constructor
          · rintro (rfl | ⟨unseen, _⟩)
            · exact ⟨known, [], rest, rfl, by simp⟩
            · exact absurd (same ▸ List.mem_cons_self) unseen
          · rintro ⟨_, before, after, parted, unlike⟩
            cases before with
            | nil => exact .inl (List.cons.inj parted).1.symm
            | cons head before =>
                cases parted
                exact absurd same (unlike first List.mem_cons_self)
        · have unequal : item ≠ first := fun equal => same (equal ▸ rfl)
          rw [later same]
          simp [unequal, Ne.symm same]

namespace Spec

def triggers (spec : Spec) : List Text := spec.transitions.map (·.trigger)

def declaredNames (spec : Spec) : List Text := spec.declaredEvents.map (·.name)

inductive ComesFirst (spec : Spec) : Text → Text → Prop
  | references (first second : Text) (one : first ∈ spec.triggers) (other : second ∈ spec.triggers)
      (before : spec.triggers.idxOf first < spec.triggers.idxOf second) : ComesFirst spec first second
  | reference (first second : Text) (one : first ∈ spec.triggers) (other : second ∉ spec.triggers) :
      ComesFirst spec first second
  | declarations (first second : Text) (one : first ∉ spec.triggers) (other : second ∉ spec.triggers)
      (before : spec.declaredNames.idxOf first < spec.declaredNames.idxOf second) : ComesFirst spec first second

-- The event of a name: its first declaration, or one made from its first reference if nothing declares it.
inductive Stands (spec : Spec) : Event → Prop
  | declaration (event : Event) (before after : List Event) (parted : spec.declaredEvents = before ++ event :: after)
      (first : ∀ other ∈ before, other.name ≠ event.name) : Stands spec event
  | reference (transition : Transition) (before after : List Transition)
      (parted : spec.transitions = before ++ transition :: after)
      (first : ∀ other ∈ before, other.trigger ≠ transition.trigger)
      (undeclared : transition.trigger ∉ spec.declaredNames) :
      Stands spec ⟨transition.trigger, [], [], true, transition.line⟩

structure Merged (spec : Spec) (events : List Event) : Prop where
  distinct : (events.map (·.name)).Nodup
  complete : ∀ name, name ∈ events.map (·.name) ↔ name ∈ spec.triggers ∨ name ∈ spec.declaredNames
  ordered : (events.map (·.name)).Pairwise spec.ComesFirst
  winners : ∀ event ∈ events, spec.Stands event

theorem referred_name (spec : Spec) (transition : Transition) : (spec.referred transition).name = transition.trigger := by
  unfold referred declared?
  cases found : spec.declaredEvents.find? (·.name == transition.trigger) with
  | none => rfl
  | some event => simpa using List.find?_some found

theorem referred_names (spec : Spec) (transitions : List Transition) :
    (transitions.map spec.referred).map (·.name) = transitions.map (·.trigger) := by
  rw [List.map_map]
  exact List.map_congr_left fun transition _ => spec.referred_name transition

end Spec

/-! The events stand for their names. -/

theorem declared_stands (spec : Spec) (name : Text) (event : Event) (found : spec.declared? name = some event) :
    spec.Stands event := by
  obtain ⟨named, before, after, parted, earlier⟩ := List.find?_eq_some_iff_append.mp found
  simp only [beq_iff_eq] at named
  subst named
  exact .declaration event before after parted (by simpa using earlier)

theorem referred_stands (spec : Spec) (before after : List Transition) (transition : Transition)
    (parted : spec.transitions = before ++ transition :: after)
    (first : ∀ other ∈ before, other.trigger ≠ transition.trigger) : spec.Stands (spec.referred transition) := by
  unfold Spec.referred
  cases found : spec.declared? transition.trigger with
  | some event => exact declared_stands spec transition.trigger event found
  | none =>
      refine .reference transition before after parted first ?_
      have missing := List.find?_eq_none.mp found
      rw [Spec.declaredNames, List.mem_map]
      rintro ⟨event, declared, same⟩
      exact missing event declared (by simpa using same)

theorem event_stands (spec : Spec) (event : Event) (known : event ∈ spec.events) : spec.Stands event := by
  obtain ⟨_, before, after, parted, unlike⟩ := (mem_firsts_iff _ _ _ _).mp known
  rcases List.append_eq_append_iff.mp parted with ⟨declared, rfl, rest⟩ | ⟨referred, references, rest⟩
  · exact .declaration event declared after rest fun other member => unlike other (List.mem_append_right _ member)
  · cases referred with
    | nil =>
        rw [List.nil_append] at rest
        exact .declaration event [] after rest.symm (by simp)
    | cons head referred =>
        obtain ⟨rfl, _⟩ := List.cons.inj rest
        obtain ⟨earlier, remaining, transitions, mapped, following⟩ := List.map_eq_append_iff.mp references
        obtain ⟨transition, later, rfl, rfl, _⟩ := List.map_eq_cons_iff.mp following
        refine referred_stands spec earlier later transition transitions ?_
        intro other member same
        refine unlike (spec.referred other) (mapped ▸ List.mem_map_of_mem member) ?_
        rw [spec.referred_name, spec.referred_name, same]

-- Nothing but its name decides which event stands for it.
theorem stands_unique (spec : Spec) (one other : Event) (first : spec.Stands one) (second : spec.Stands other)
    (same : one.name = other.name) : one = other := by
  have declared (event : Event) (before after : List Event) (parted : spec.declaredEvents = before ++ event :: after)
      (first : ∀ other ∈ before, other.name ≠ event.name) : spec.declared? event.name = some event :=
    List.find?_eq_some_iff_append.mpr ⟨by simp, before, after, parted, by simpa using first⟩
  have referred (transition : Transition) (before after : List Transition)
      (parted : spec.transitions = before ++ transition :: after)
      (first : ∀ other ∈ before, other.trigger ≠ transition.trigger) :
      spec.transitions.find? (·.trigger == transition.trigger) = some transition :=
    List.find?_eq_some_iff_append.mpr ⟨by simp, before, after, parted, by simpa using first⟩
  have named (event : Event) (before after : List Event) (parted : spec.declaredEvents = before ++ event :: after) :
      event.name ∈ spec.declaredNames := List.mem_map_of_mem (by simp [parted])
  cases first with
  | declaration _ before after parted first =>
      cases second with
      | declaration _ before' after' parted' first' =>
          have found := declared one before after parted first
          rw [same, declared other before' after' parted' first'] at found
          exact (Option.some.inj found).symm
      | reference transition _ _ _ _ undeclared =>
          exact absurd (named one before after parted) (same ▸ undeclared)
  | reference transition before after parted first undeclared =>
      cases second with
      | declaration _ before' after' parted' _ =>
          exact absurd (named other before' after' parted') (same ▸ undeclared)
      | reference transition' before' after' parted' first' _ =>
          have triggers : transition.trigger = transition'.trigger := same
          have found := referred transition before after parted first
          rw [triggers, referred transition' before' after' parted' first'] at found
          rw [Option.some.inj found]

/-! The events in their order. -/

theorem mem_triggers (spec : Spec) (name : Text) :
    name ∈ spec.triggers ↔ ∃ transition ∈ spec.transitions, transition.trigger = name := List.mem_map

theorem comes_first_of_position (spec : Spec) (first second : Text)
    (before : (spec.triggers ++ spec.declaredNames).idxOf first < (spec.triggers ++ spec.declaredNames).idxOf second) :
    spec.ComesFirst first second := by
  by_cases one : first ∈ spec.triggers
  · by_cases other : second ∈ spec.triggers
    · rw [List.idxOf_append_of_mem one, List.idxOf_append_of_mem other] at before
      exact .references first second one other before
    · exact .reference first second one other
  · have bound : spec.triggers.length ≤ (spec.triggers ++ spec.declaredNames).idxOf first := by
      rw [List.idxOf_append_of_notMem one]
      exact Nat.le_add_right _ _
    by_cases other : second ∈ spec.triggers
    · have within := List.idxOf_lt_length_iff.mpr other
      rw [List.idxOf_append_of_mem other] at before
      omega
    · rw [List.idxOf_append_of_notMem one, List.idxOf_append_of_notMem other] at before
      exact .declarations first second one other (Nat.lt_of_add_lt_add_left before)

theorem events_ordered (spec : Spec) : (spec.events.map (·.name)).Pairwise spec.ComesFirst := by
  have names : (spec.transitions.map spec.referred ++ spec.declaredEvents).map (·.name) =
      spec.triggers ++ spec.declaredNames := by
    rw [List.map_append, spec.referred_names]
    rfl
  have positions := firsts_in_order (·.name) [] (spec.transitions.map spec.referred ++ spec.declaredEvents)
  rw [names] at positions
  exact positions.imp fun {first second} => comes_first_of_position spec first second

theorem comes_first_asymmetric (spec : Spec) (first second : Text) (one : spec.ComesFirst first second) :
    ¬ spec.ComesFirst second first := by
  intro other
  cases one <;> cases other <;> first | contradiction | omega

theorem eq_of_names (first second : List Event) (names : first.map (·.name) = second.map (·.name))
    (decided : ∀ one ∈ first, ∀ other ∈ second, one.name = other.name → one = other) : first = second := by
  induction first generalizing second with
  | nil => exact (List.map_eq_nil_iff.mp names.symm).symm
  | cons one first ih =>
      obtain ⟨other, rest, rfl, same, remaining⟩ := List.map_eq_cons_iff.mp names.symm
      have equal := decided one List.mem_cons_self other List.mem_cons_self same.symm
      have tails := ih rest remaining.symm fun one' member other' member' =>
        decided one' (List.mem_cons_of_mem _ member) other' (List.mem_cons_of_mem _ member')
      rw [equal, tails]

theorem merged_unique (spec : Spec) (first second : List Event) (one : spec.Merged first) (other : spec.Merged second) :
    first = second := by
  have permuted : (first.map (·.name)).Perm (second.map (·.name)) := by
    refine (List.perm_ext_iff_of_nodup one.distinct other.distinct).mpr ?_
    intro name
    rw [one.complete, other.complete]
  have names : first.map (·.name) = second.map (·.name) := by
    refine permuted.eq_of_pairwise ?_ one.ordered other.ordered
    intro early late _ _ before after
    exact absurd after (comes_first_asymmetric spec early late before)
  exact eq_of_names first second names fun event member event' member' =>
    stands_unique spec event event' (one.winners event member) (other.winners event' member')

/-- The events of a machine are the one list that merges what its transitions refer to with what it declares. -/
theorem events_eq_iff_merged (spec : Spec) (events : List Event) : events = spec.events ↔ spec.Merged events := by
  have merged : spec.Merged spec.events := by
    refine ⟨firsts_distinct _ _ _, ?_, events_ordered spec, event_stands spec⟩
    intro name
    rw [mem_event_names, mem_triggers, Spec.declaredNames, List.mem_map]
  constructor
  · rintro rfl
    exact merged
  · intro given
    exact merged_unique spec events spec.events given merged

end Statewright
