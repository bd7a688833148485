import Statewright.Validation.Violation
import Mathlib.Data.List.Nodup

/-!
What a check that succeeds has established. A sequence of checks succeeds exactly if each of them does; a walk over a
list that refuses what it has seen succeeds only on a list without repetitions.
-/
set_option autoImplicit false

namespace Statewright.Validation

variable {ε α β : Type}

theorem bind_eq_ok (first : Except ε α) (next : α → Except ε β) (result : β) :
    (first >>= next) = .ok result ↔ ∃ value, first = .ok value ∧ next value = .ok result := by
  cases first <;> simp [bind, Except.bind]

theorem pure_eq_ok (value result : α) : (pure value : Except ε α) = .ok result ↔ value = result := by
  simp [pure, Except.pure]

theorem ensure_eq_ok (condition : Bool) (breach : Breach) (element : Text) (line : Nat) (result : Unit) :
    ensure condition breach element line = .ok result ↔ condition = true := by
  cases condition <;> simp [ensure, violate]

theorem violate_ne_ok (breach : Breach) (element : Text) (line : Nat) (result : α) :
    (violate breach element line : Check α) ≠ .ok result := by
  simp [violate]

-- Two checks of which only the verdict matters.
theorem then_eq_ok (first second : Except ε Unit) :
    (first >>= fun _ => second) = .ok () ↔ first = .ok () ∧ second = .ok () := by
  rw [bind_eq_ok]
  exact ⟨fun ⟨_, passed, rest⟩ => ⟨passed, rest⟩, fun ⟨passed, rest⟩ => ⟨(), passed, rest⟩⟩

theorem forM_eq_ok (items : List α) (check : α → Except ε Unit) :
    items.forM check = .ok () ↔ ∀ item ∈ items, check item = .ok () := by
  induction items with
  | nil => simp [pure_eq_ok]
  | cons item rest ih =>
      change (check item >>= fun _ => rest.forM check) = .ok () ↔ _
      rw [then_eq_ok, ih, List.forall_mem_cons]

-- A walk that refuses a key it has seen accepts what has no key twice and is accepted item by item.
theorem walk_eq_ok {κ : Type} (walk : List κ → List α → Except ε Unit) (key : α → κ) (accepted : α → Prop)
    (finished : ∀ seen, walk seen [] = .ok ())
    (step : ∀ seen item rest, walk seen (item :: rest) = .ok () ↔
      key item ∉ seen ∧ accepted item ∧ walk (key item :: seen) rest = .ok ())
    (items : List α) :
    walk [] items = .ok () ↔ (items.map key).Nodup ∧ ∀ item ∈ items, accepted item := by
  have general : ∀ seen, walk seen items = .ok () ↔
      (∀ item ∈ items, key item ∉ seen) ∧ (items.map key).Nodup ∧ ∀ item ∈ items, accepted item := by
    induction items with
    | nil => simp [finished]
    | cons item rest ih =>
        intro seen
        rw [step, ih, List.forall_mem_cons, List.forall_mem_cons, List.map_cons, List.nodup_cons]
        simp only [List.mem_cons, not_or, List.mem_map, not_exists, not_and]
        constructor
        · rintro ⟨fresh, holds, apart, distinct, each⟩
          exact ⟨⟨fresh, fun other member => (apart other member).2⟩,
            ⟨fun other member same => (apart other member).1 same, distinct⟩, holds, each⟩
        · rintro ⟨⟨fresh, apart⟩, ⟨alone, distinct⟩, holds, each⟩
          exact ⟨fresh, holds, fun other member => ⟨alone other member, apart other member⟩, distinct, each⟩
  simpa using general []

-- An item is what its name finds, where no two items share one.
theorem find_named (name : α → Text) (items : List α) (distinct : (items.map name).Nodup) (item : α)
    (member : item ∈ items) : items.find? (name · == name item) = some item := by
  cases found : items.find? (name · == name item) with
  | none => simpa using List.find?_eq_none.mp found item member
  | some other =>
      have same : name other = name item := by simpa using List.find?_some found
      rw [List.inj_on_of_nodup_map distinct (List.mem_of_find?_eq_some found) member same]

end Statewright.Validation
