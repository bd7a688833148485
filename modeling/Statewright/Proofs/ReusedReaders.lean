import Statewright.Spec.Shelf

/-!
Readers that are used again. Each reading is that of a new reader, whatever was read before and however it ended, and
changes nothing that was made before.
-/
set_option autoImplicit false

namespace Statewright.Shelf

open Reading

-- What a reader that makes nothing but the last specification would be by now.
def reader (shelf : Shelf) : SpecReader := ⟨shelf.held?, shelf.source⟩

section

variable {α β : Type} (shelf : Shelf)

-- Filling goes on, step by step, at the place where it began.
theorem fill_at_bind (place : Fin shelf.made.length) (first : Filling α) (next : α → Filling β) (value : α)
    (between : Shelf) (ran : shelf.fillAt place first = (.ok value, between)) :
    ∃ same : shelf.made.length = between.made.length,
      shelf.fillAt place (first >>= next) = between.fillAt (place.cast same) (next value) := by
  unfold fillAt at ran
  cases turn : first.run.run (shelf.made.get place) with
  | mk outcome spec =>
      rw [turn] at ran
      obtain ⟨rfl, rfl⟩ := Prod.mk.inj ran
      refine ⟨by simp, ?_⟩
      unfold fillAt
      rw [ExceptT.run_bind, StateT.run_bind, turn]
      simp only [List.get_eq_getElem, Fin.val_cast, List.getElem_set_self, List.set_set]
      rfl

-- The last place is filled as a specification is that stands alone, and what stands in front of it is left.
theorem fill_last (spec : Spec) (filling : Filling α) :
    (shelf.put spec).fillAt (shelf.last spec) filling =
      ((filling.run.run spec).1, shelf.put (filling.run.run spec).2) := by
  have stands : (shelf.put spec).made.get (shelf.last spec) = spec := by simp [put, last]
  unfold fillAt
  rw [stands]
  simp only [put, last, List.set_append_right _ _ (Nat.le_refl _), Nat.sub_self, List.set_cons_zero]
  rfl

theorem put_held (spec : Spec) : (shelf.put spec).held? = some spec := by simp [held?, put]

-- How a reading with memory goes against the one of a reader without.
structure Follows (made : List Spec) (outcome : Except Misshape Nat × Shelf)
    (other : Except Misshape Spec × SpecReader) : Prop where
  gives : outcome.1.map (outcome.2.made[·]?) = other.1.map some
  reader : outcome.2.reader = other.2
  keeps : made <+: outcome.2.made

theorem read_element_follows (root : Markup.Element) :
    Follows shelf.made (shelf.readElement root) (shelf.reader.readElement root) := by
  unfold readElement SpecReader.readElement
  cases begun : begin shelf.source root with
  | error misshape =>
      rw [show begin shelf.reader.source root = _ from begun]
      exact ⟨rfl, rfl, List.prefix_rfl⟩
  | ok empty =>
      rw [show begin shelf.reader.source root = _ from begun]
      dsimp only
      rw [fill_last]
      cases turn : (fill root).run.run empty with
      | mk outcome spec =>
          refine ⟨?_, ?_, List.prefix_append _ _⟩
          · cases outcome with
            | error misshape => rfl
            | ok done => simp [Except.map, put]
          · rw [Shelf.reader, put_held]
            rfl

theorem read_follows (text : Text) (source : Option Text) :
    Follows shelf.made (shelf.read text source) (shelf.reader.read text source) := by
  unfold read SpecReader.read
  cases Markup.read text with
  | error line => exact ⟨rfl, rfl, List.prefix_rfl⟩
  | ok root => exact read_element_follows { shelf with source } root

-- A reader forgets what it held.
theorem reader_forgets (reader : SpecReader) (text : Text) (source : Option Text) :
    (reader.read text source).1 = Spec.read text source := by
  unfold Spec.read SpecReader.read
  cases Markup.read text with
  | error line => rfl
  | ok root =>
      dsimp only [SpecReader.readElement]
      cases begin source root <;> rfl

theorem read_all_keeps (documents : List (Text × Option Text)) : shelf.made <+: (shelf.readAll documents).made := by
  induction documents generalizing shelf with
  | nil => exact List.prefix_rfl
  | cons document rest ih => exact (read_follows shelf document.1 document.2).keeps.trans (ih _)

end

/-- Among any documents that one reader reads, with or without success, each gives the specification or the flaw that
it gives to a new reader, and what it gives still stands as it was given when the others have been read. -/
theorem readings_independent (before after : List (Text × Option Text)) (text : Text) (source : Option Text) :
    let turn := (readAll {} before).read text source
    turn.1.map (turn.2.made[·]?) = (Spec.read text source).map some ∧
      turn.1.map ((turn.2.readAll after).made[·]?) = (Spec.read text source).map some := by
  intro turn
  have gives : turn.1.map (turn.2.made[·]?) = (Spec.read text source).map some :=
    (read_follows _ text source).gives.trans (congrArg _ (reader_forgets _ text source))
  refine ⟨gives, ?_⟩
  obtain ⟨more, kept⟩ := read_all_keeps turn.2 after
  cases outcome : turn.1 with
  | error misshape =>
      rw [← gives, outcome]
      rfl
  | ok place =>
      rw [outcome] at gives
      cases expected : Spec.read text source with
      | error misshape =>
          rw [expected] at gives
          cases gives
      | ok spec =>
          rw [expected] at gives
          have stands : turn.2.made[place]? = some spec := Except.ok.inj gives
          obtain ⟨bound, _⟩ := List.getElem?_eq_some_iff.mp stands
          rw [← kept]
          exact congrArg Except.ok ((List.getElem?_append_left bound).trans stands)

end Statewright.Shelf
