import Mathlib.Data.List.TakeWhile
import Statewright.Markup.Reader

/-!
Lines that the reader of markup counts. Whatever it reads, it goes on behind a piece of the text that it began with,
and it has counted the line feeds of that piece.
-/
set_option autoImplicit false

namespace Statewright.Markup

-- From one place of a text to a later one.
def Passes (cursor next : Cursor) : Prop :=
  ∃ passed, cursor.rest = passed ++ next.rest ∧ next.line = cursor.line + passed.count '\n'

theorem passes_none (cursor : Cursor) : Passes cursor cursor := ⟨[], rfl, rfl⟩

theorem passes_trans (first second third : Cursor) (before : Passes first second) (after : Passes second third) :
    Passes first third := by
  obtain ⟨one, ahead, counted⟩ := before
  obtain ⟨two, behind, further⟩ := after
  refine ⟨one ++ two, by rw [ahead, behind, List.append_assoc], ?_⟩
  rw [further, counted, List.count_append, Nat.add_assoc]

-- What is read without a line feed in it.
theorem passes_plain (line : Nat) (passed rest : Text) (next : Cursor) (inside : '\n' ∉ passed)
    (further : Passes ⟨line, rest⟩ next) : Passes ⟨line, passed ++ rest⟩ next :=
  passes_trans _ _ _ ⟨passed, rfl, by simp [List.count_eq_zero_of_not_mem inside]⟩ further

theorem passes_cons (line : Nat) (c : Char) (rest : Text) (next : Cursor)
    (further : Passes ⟨if c = '\n' then line + 1 else line, rest⟩ next) : Passes ⟨line, c :: rest⟩ next := by
  refine passes_trans _ _ _ ⟨[c], rfl, ?_⟩ further
  by_cases newline : c = '\n' <;> simp [newline]

/-! Texts. -/

theorem spaces_pass (line : Nat) (text : Text) : Passes ⟨line, text⟩ (Scan.spacesFrom line text) := by
  induction text generalizing line with
  | nil => exact passes_none _
  | cons c rest ih =>
      rw [Scan.spacesFrom]
      split
      · exact passes_cons line c rest _ (ih _)
      · exact passes_none _

theorem name_inside (e c : Char) (rest : Text) (apart : startsName e = false ∧ continuesName e = false)
    (starts : startsName c = true) : e ∉ c :: rest.takeWhile continuesName := by
  rw [List.mem_cons, not_or]
  constructor
  · rintro rfl
    rw [apart.1] at starts
    cases starts
  · intro member
    have continues := List.mem_takeWhile_imp member
    rw [apart.2] at continues
    cases continues

theorem name_whole (c : Char) (rest : Text) :
    c :: rest.takeWhile continuesName ++ (c :: rest).drop (c :: rest.takeWhile continuesName).length = c :: rest :=
  List.prefix_iff_eq_append.mp ((List.prefix_cons_inj c).mpr (List.takeWhile_prefix continuesName))

theorem named_reference_source (text name after : Text) (read : namedReference text = some (name, after)) :
    text = name ++ ';' :: after ∧ '\n' ∉ name ∧ '<' ∉ name := by
  cases text with
  | nil => cases read
  | cons c rest =>
      unfold namedReference at read
      dsimp only at read
      split at read
      · rename_i starts
        split at read
        · rename_i behind ends
          cases read
          exact ⟨by rw [← ends, name_whole], name_inside '\n' c rest (by decide) starts,
            name_inside '<' c rest (by decide) starts⟩
        · cases read
      · cases read

theorem numeric_reference_source (text after : Text) (c : Char) (read : numericReference text = some (c, after)) :
    ∃ digits, text = digits ++ ';' :: after ∧ '\n' ∉ digits ∧ '<' ∉ digits := by
  have ended (isDigit : Char → Bool) (text : Text) (apart : isDigit '\n' = false ∧ isDigit '<' = false)
      (behind : text.dropWhile isDigit = ';' :: after) :
      ∃ digits, text = digits ++ ';' :: after ∧ '\n' ∉ digits ∧ '<' ∉ digits := by
    refine ⟨text.takeWhile isDigit, ?_, fun member => ?_, fun member => ?_⟩
    · rw [← behind, List.takeWhile_append_dropWhile]
    · exact Bool.false_ne_true (apart.1.symm.trans (List.mem_takeWhile_imp member))
    · exact Bool.false_ne_true (apart.2.symm.trans (List.mem_takeWhile_imp member))
  unfold numericReference at read
  split at read
  rename_i base isDigit digits chosen
  dsimp only at read
  split at read
  · rename_i behind
    split at read
    · cases read
      split at chosen
      · cases chosen
        obtain ⟨digits, whole, newline, mark⟩ := ended isHexDigit _ (by decide) behind
        exact ⟨'x' :: digits, congrArg ('x' :: ·) whole, by simpa using newline, by simpa using mark⟩
      · cases chosen
        exact ended Char.isDigit _ (by decide) behind
    · cases read
  · cases read

theorem map_read (outcome : Except Nat (Text × Cursor)) (change : Text → Text) (value : Text) (next : Cursor)
    (read : (outcome.map fun (more, cursor) => (change more, cursor)) = .ok (value, next)) :
    ∃ more, outcome = .ok (more, next) ∧ value = change more := by
  cases outcome with
  | error line => cases read
  | ok pair =>
      cases read
      exact ⟨pair.1, rfl, rfl⟩

theorem skip_past_pass (close : Text) (inside : '\n' ∉ close) (line : Nat) (text : Text) (next : Cursor)
    (read : skipPast close line text = .ok next) : Passes ⟨line, text⟩ next := by
  induction text generalizing line with
  | nil => cases read
  | cons c rest ih =>
      rw [skipPast] at read
      split at read
      · rename_i after found
        cases read
        rw [Text.eq_append_of_after? found]
        exact passes_plain line close after _ inside (passes_none _)
      · split at read
        · exact passes_cons line c rest next (ih _ read)
        · cases read

theorem skip_comment_pass (line : Nat) (text : Text) (next : Cursor) (read : skipComment line text = .ok next) :
    Passes ⟨line, text⟩ next := by
  fun_induction skipComment line text with
  | case1 line after =>
      cases read
      exact passes_plain line "-->" after _ (by decide) (passes_none _)
  | case2 => cases read
  | case3 => cases read
  | case4 line c rest _ allowed ih => exact passes_cons line c rest next (ih read)
  | case5 => cases read

theorem section_text_pass (line : Nat) (text value : Text) (next : Cursor)
    (read : sectionText line text = .ok (value, next)) : Passes ⟨line, text⟩ next := by
  fun_induction sectionText line text generalizing value with
  | case1 line rest =>
      cases read
      exact passes_plain line "]]>" rest _ (by decide) (passes_none _)
  | case2 => cases read
  | case3 line rest ih =>
      obtain ⟨more, further, _⟩ := map_read _ _ _ _ read
      exact passes_cons line '\r' _ next (passes_cons _ '\n' rest next (ih more further))
  | case4 line rest _ ih =>
      obtain ⟨more, further, _⟩ := map_read _ _ _ _ read
      exact passes_cons line '\r' rest next (ih more further)
  | case5 line c rest _ _ _ allowed ih =>
      obtain ⟨more, further, _⟩ := map_read _ _ _ _ read
      exact passes_cons line c rest next (ih more further)
  | case6 => cases read

theorem numeric_pass (line : Nat) (text after : Text) (c : Char) (next : Cursor)
    (read : numericReference text = some (c, after)) (further : Passes ⟨line, after⟩ next) :
    Passes ⟨line, '&' :: '#' :: text⟩ next := by
  obtain ⟨digits, rfl, inside, _⟩ := numeric_reference_source text after c read
  have passed := passes_plain line ('&' :: '#' :: digits ++ [';']) after next (by simp [inside]) further
  rwa [List.append_assoc] at passed

theorem named_pass (line : Nat) (text name after : Text) (next : Cursor)
    (read : namedReference text = some (name, after))
    (further : Passes ⟨line, after⟩ next) : Passes ⟨line, '&' :: text⟩ next := by
  obtain ⟨rfl, inside, _⟩ := named_reference_source text name after read
  have passed := passes_plain line ('&' :: name ++ [';']) after next (by simp [inside]) further
  rwa [List.append_assoc] at passed

theorem attribute_value_pass (declared : Declared) (quote : Char) (apart : quote ≠ '\n') (fuel line : Nat)
    (text value : Text)
    (next : Cursor) (read : attributeValue declared quote fuel line text = .ok (value, next)) :
    Passes ⟨line, text⟩ next := by
  have go (fuel line : Nat) (piece rest value : Text)
      (ih : ∀ line rest value, attributeValue declared quote fuel line rest = .ok (value, next) →
        Passes ⟨line, rest⟩ next)
      (goes : ((attributeValue declared quote fuel line rest).map fun (more, cursor) => (piece ++ more, cursor)) =
        .ok (value, next)) : Passes ⟨line, rest⟩ next := by
    obtain ⟨more, further, _⟩ := map_read _ _ _ _ goes
    exact ih line rest more further
  fun_induction attributeValue declared quote fuel line text generalizing value with
  | case1 => cases read
  | case2 => cases read
  | case3 fuel line rest =>
      cases read
      exact passes_plain line [quote] rest _ (by simpa using apart.symm) (passes_none _)
  | case4 => cases read
  | case5 fuel line _ digits c after found _ _ ih =>
      exact numeric_pass line digits after c next found (go fuel line _ after value ih read)
  | case6 => cases read
  | case7 => simp_all
  | case8 fuel line rest _ name after found c known _ _ _ ih =>
      simp only [found, known] at read
      exact named_pass line rest name after next found (go fuel line _ after value ih read)
  | case9 fuel line rest _ name after found unknown _ listed _ expanded _ _ _ ih =>
      simp only [found, unknown, listed, expanded] at read
      exact named_pass line rest name after next found (go fuel line _ after value ih read)
  | case10 => simp_all
  | case11 => simp_all
  | case12 fuel line rest _ name after found unknown unlisted open_ _ _ _ ih =>
      simp only [found, unknown, unlisted, open_, if_true] at read
      exact named_pass line rest name after next found (go fuel line _ after value ih read)
  | case13 _ _ _ _ _ _ found unknown unlisted closed =>
      simp only [found, unknown, unlisted, closed] at read
      cases read
  | case14 fuel line _ more _ _ _ ih =>
      exact passes_cons line '\r' _ next (passes_cons line '\n' more next (go fuel _ _ more value ih read))
  | case15 fuel line rest _ _ _ _ _ ih => exact passes_cons line '\r' rest next (go fuel line _ rest value ih read)
  | case16 fuel line rest _ _ _ _ _ ih => exact passes_cons line '\n' rest next (go fuel _ _ rest value ih read)
  | case17 fuel line rest _ _ _ _ _ _ ih => exact passes_cons line '\t' rest next (go fuel line _ rest value ih read)
  | case18 fuel line c rest _ _ _ _ _ newline _ _ ih =>
      exact passes_plain line [c] rest next (by simpa using Ne.symm newline) (go fuel line _ rest value ih read)
  | case19 => cases read

/-! Readers. -/

-- Wherever the reader begins, it ends at a later place.
def Walks {α : Type} (scan : Scan α) : Prop :=
  ∀ cursor value next, scan cursor = .ok (value, next) → Passes cursor next

section

variable {α β : Type}

theorem walks_pure (value : α) : Walks (pure value : Scan α) := by
  intro cursor result next read
  cases read
  exact passes_none cursor

theorem walks_stop : Walks (Scan.stop : Scan α) := nofun

theorem walks_stopped (then_ : α → Scan β) : Walks (Scan.stop >>= then_) := nofun

theorem bind_read (first : Scan α) (then_ : α → Scan β) (cursor next : Cursor) (result : β)
    (read : (first >>= then_) cursor = .ok (result, next)) :
    ∃ value middle, first cursor = .ok (value, middle) ∧ then_ value middle = .ok (result, next) := by
  change (first cursor >>= fun pair => then_ pair.1 pair.2) = _ at read
  cases one : first cursor with
  | error line =>
      rw [one] at read
      cases read
  | ok pair =>
      rw [one] at read
      exact ⟨pair.1, pair.2, rfl, read⟩

theorem walks_bind (first : Scan α) (then_ : α → Scan β) (one : Walks first) (others : ∀ value, Walks (then_ value)) :
    Walks (first >>= then_) := by
  intro cursor result next read
  obtain ⟨value, middle, before, after⟩ := bind_read first then_ cursor next result read
  exact passes_trans _ _ _ (one cursor value middle before) (others value middle result next after)

-- What follows may depend on the text that is left.
theorem walks_rest (then_ : Text → Scan β)
    (each : ∀ line text value next, then_ text ⟨line, text⟩ = .ok (value, next) → Passes ⟨line, text⟩ next) :
    Walks (Scan.rest >>= then_) := by
  intro cursor value next read
  exact each cursor.line cursor.rest value next read

theorem walks_any_rest (then_ : Text → Scan β) (each : ∀ text, Walks (then_ text)) : Walks (Scan.rest >>= then_) :=
  walks_rest then_ fun line text value next read => each text ⟨line, text⟩ value next read

theorem walks_if (condition : Bool) (one other : Scan α) (first : Walks one) (second : Walks other) :
    Walks (if condition = true then one else other) := by
  split
  · exact first
  · exact second

end

namespace Scan

theorem walks_spaces : Walks spaces := by
  intro cursor value next read
  cases read
  exact spaces_pass cursor.line cursor.rest

theorem accept_read (word : Text) (cursor next : Cursor) (found : Bool)
    (read : accept word cursor = .ok (found, next)) :
    (found = true ∧ cursor.rest = word ++ next.rest ∧ next.line = cursor.line) ∨ (found = false ∧ next = cursor) := by
  obtain ⟨text, middle, got, read⟩ := bind_read _ _ cursor next found read
  cases got
  cases begins : Text.after? word cursor.rest with
  | some after =>
      rw [begins] at read
      cases read
      exact .inl ⟨rfl, Text.eq_append_of_after? begins, rfl⟩
  | none =>
      rw [begins] at read
      cases read
      exact .inr ⟨rfl, rfl⟩

theorem walks_accept (word : Text) (inside : '\n' ∉ word) : Walks (accept word) := by
  intro cursor found next read
  rcases accept_read word cursor next found read with ⟨_, whole, line⟩ | ⟨_, same⟩
  · exact ⟨word, whole, by simp [line, List.count_eq_zero_of_not_mem inside]⟩
  · exact same ▸ passes_none cursor

theorem need_read (word : Text) (cursor next : Cursor) (read : need word cursor = .ok ((), next)) :
    cursor.rest = word ++ next.rest ∧ next.line = cursor.line := by
  obtain ⟨found, middle, accepted, passed⟩ := bind_read _ _ _ _ _ read
  rcases accept_read word cursor middle found accepted with ⟨rfl, whole, line⟩ | ⟨rfl, rfl⟩
  · cases passed
    exact ⟨whole, line⟩
  · cases passed

theorem walks_need (word : Text) (inside : '\n' ∉ word) : Walks (need word) := by
  intro cursor value next read
  obtain ⟨whole, line⟩ := need_read word cursor next read
  exact ⟨word, whole, by simp [line, List.count_eq_zero_of_not_mem inside]⟩

theorem walks_name : Walks name := by
  refine walks_rest _ fun line text value next read => ?_
  split at read
  · rename_i c more
    split at read
    · rename_i starts
      cases read
      refine ⟨c :: more.takeWhile continuesName, (name_whole c more).symm, ?_⟩
      rw [List.count_eq_zero_of_not_mem (name_inside '\n' c more (by decide) starts), Nat.add_zero]
    · cases read
  · cases read

theorem walks_lift (f : Nat → Text → Except Nat Cursor)
    (each : ∀ line text next, f line text = .ok next → Passes ⟨line, text⟩ next) : Walks (lift f) := by
  intro cursor value next read
  unfold lift at read
  split at read
  · rename_i after found
    cases read
    exact each _ _ _ found
  · cases read

theorem walks_lift_text (f : Nat → Text → Except Nat (Text × Cursor))
    (each : ∀ line text value next, f line text = .ok (value, next) → Passes ⟨line, text⟩ next) : Walks (liftText f) :=
  fun cursor value next read => each cursor.line cursor.rest value next read

-- A reader that wants white space first.
theorem walks_spaced {α : Type} (next : Scan α) (after : Walks next) :
    Walks (spaces >>= fun spaced => if (!spaced) = true then (do (stop : Scan Unit); next) else next) := by
  refine walks_bind _ _ walks_spaces fun spaced => ?_
  cases spaced
  · exact walks_stopped _
  · exact after

theorem walks_comment : Walks comment :=
  walks_bind _ _ (walks_need _ (by decide)) fun _ => walks_lift _ skip_comment_pass

theorem walks_instruction : Walks instruction := by
  refine walks_bind _ _ (walks_need _ (by decide)) fun _ => walks_bind _ _ walks_name fun target => ?_
  dsimp only
  split
  · exact walks_stopped _
  · refine walks_bind _ _ (walks_accept _ (by decide)) fun ended => walks_if _ _ _ (walks_pure ()) (walks_spaced _ ?_)
    exact walks_lift _ (skip_past_pass _ (by decide))

theorem walks_around (fuel : Nat) : Walks (around fuel) := by
  induction fuel with
  | zero => exact walks_pure ()
  | succ fuel ih =>
      refine walks_bind _ _ walks_spaces fun _ => walks_any_rest _ fun text => ?_
      refine walks_if _ _ _ (walks_bind _ _ walks_comment fun _ => ih) (walks_if _ _ _ ?_ (walks_pure ()))
      exact walks_bind _ _ walks_instruction fun _ => ih

theorem quoted_take_pass (quote : Char) (apart : quote ≠ '\n') (line : Nat) (more value : Text) (next : Cursor)
    (read : quotedUntil.take quote more ⟨line, quote :: more⟩ = .ok (value, next)) :
    Passes ⟨line, quote :: more⟩ next := by
  unfold quotedUntil.take at read
  dsimp only at read
  split at read
  · cases read
  · rename_i ended
    cases read
    have parts := List.takeWhile_append_dropWhile (p := (· != quote)) (l := more)
    have closes := List.head?_dropWhile_not (· != quote) more
    generalize more.takeWhile (· != quote) = value at parts ended ⊢
    generalize more.dropWhile (· != quote) = behind at parts closes
    subst parts
    cases behind with
    | nil => simp at ended
    | cons c rest =>
        have own : c = quote := by simpa using closes
        subst own
        exact ⟨c :: value ++ [c], by simp, by simp [apart]⟩

theorem walks_quoted : Walks quotedUntil := by
  refine walks_rest _ fun line text value next read => ?_
  split at read
  · exact quoted_take_pass '"' (by decide) line _ value next read
  · exact quoted_take_pass '\'' (by decide) line _ value next read
  · cases read

end Scan

open Scan

theorem walks_external : Walks externalPlace := by
  refine walks_bind _ _ (walks_accept _ (by decide)) fun kept => walks_if _ _ _ ?_ ?_
  · exact walks_spaced _ (walks_bind _ _ walks_quoted fun _ => walks_pure _)
  · refine walks_bind _ _ (walks_accept _ (by decide)) fun known => walks_if _ _ _ ?_ (walks_pure _)
    exact walks_spaced _ (walks_bind _ _ walks_quoted fun _ =>
      walks_spaced _ (walks_bind _ _ walks_quoted fun _ => walks_pure _))

theorem walks_entity (declared : Declared) : Walks (entityDeclaration declared) := by
  refine walks_spaced _ (walks_bind _ _ (walks_accept _ (by decide)) fun parameter => ?_)
  extract_lets -underBinder named
  have further : Walks (named ()) := by
    refine walks_bind _ _ walks_name fun name => ?_
    extract_lets -underBinder valued
    have value : Walks (valued ()) := by
      refine walks_spaced _ (walks_bind _ _ ?_ fun value => ?_)
      · refine walks_bind _ _ walks_external fun outside => walks_if _ _ _ ?_ ?_
        · refine walks_bind _ _ walks_spaces fun _ => walks_if _ _ _ ?_ (walks_pure _)
          refine walks_bind _ _ (walks_accept _ (by decide)) fun _ => walks_if _ _ _ ?_ (walks_pure _)
          exact walks_spaced _ (walks_bind _ _ walks_name fun _ => walks_pure _)
        · refine walks_bind _ _ walks_quoted fun literal => ?_
          cases entityValue (literal.length + 1) literal with
          | some value => exact walks_pure _
          | none => exact walks_stop
      · refine walks_bind _ _ walks_spaces fun _ => walks_bind _ _ (walks_need _ (by decide)) fun _ => ?_
        exact walks_if _ _ _ (walks_pure _) (walks_pure _)
    exact walks_if _ _ _ (walks_stopped _) value
  exact walks_if _ _ _ (walks_spaced _ further) further

theorem walks_over (fuel : Nat) : Walks (passOver fuel) := by
  induction fuel with
  | zero => exact walks_stop
  | succ fuel ih =>
      refine walks_rest _ fun line text value next read => ?_
      have quoted : Walks (do let _ ← quotedUntil; passOver fuel) := walks_bind _ _ walks_quoted fun _ => ih
      split at read
      · cases read
      · cases read
        exact passes_plain line ['>'] _ _ (by decide) (passes_none _)
      · exact quoted _ value next read
      · exact quoted _ value next read
      · rename_i more
        exact passes_cons line '\n' more next (ih ⟨line + 1, more⟩ value next read)
      · rename_i filled _ _ _ newline
        cases text with
        | nil => exact absurd rfl filled
        | cons c rest =>
            have plain : '\n' ∉ [c] := by
              rw [List.mem_singleton]
              rintro rfl
              exact newline rest rfl
            exact passes_plain line [c] rest next plain (ih ⟨line, rest⟩ value next read)

theorem walks_subset (fuel : Nat) (declared : Declared) : Walks (internalSubset fuel declared) := by
  induction fuel generalizing declared with
  | zero => exact walks_stop
  | succ fuel ih =>
      refine walks_bind _ _ walks_spaces fun _ => walks_any_rest _ fun text => ?_
      refine walks_bind _ _ (walks_accept _ (by decide)) fun _ => walks_if _ _ _ (walks_pure _) ?_
      refine walks_bind _ _ (walks_accept _ (by decide)) fun _ => walks_if _ _ _ ?_ ?_
      · exact walks_bind _ _ walks_name fun _ => walks_bind _ _ (walks_need _ (by decide)) fun _ => ih _
      refine walks_if _ _ _ (walks_bind _ _ walks_comment fun _ => ih _) ?_
      refine walks_if _ _ _ (walks_bind _ _ walks_instruction fun _ => ih _) ?_
      refine walks_bind _ _ (walks_accept _ (by decide)) fun _ => walks_if _ _ _ ?_ ?_
      · exact walks_bind _ _ (walks_entity declared) fun _ => ih _
      refine walks_bind _ _ (walks_accept _ (by decide)) fun _ => ?_
      refine walks_bind _ _ (walks_accept _ (by decide)) fun _ => ?_
      refine walks_bind _ _ (walks_accept _ (by decide)) fun _ => walks_if _ _ _ ?_ walks_stop
      exact walks_spaced _ (walks_bind _ _ (walks_over text.length) fun _ => ih _)

theorem walks_document_type : Walks documentType := by
  refine walks_bind _ _ (walks_accept _ (by decide)) fun typed => ?_
  cases typed
  · exact walks_pure _
  refine walks_spaced _ (walks_bind _ _ walks_name fun _ => walks_bind _ _ walks_spaces fun _ => ?_)
  refine walks_bind _ _ walks_external fun outside => walks_bind _ _ walks_spaces fun _ => ?_
  refine walks_bind _ _ ?_ fun declared => walks_bind _ _ (walks_need _ (by decide)) fun _ => walks_pure _
  refine walks_bind _ _ (walks_accept _ (by decide)) fun _ => walks_if _ _ _ ?_ (walks_pure _)
  refine walks_any_rest _ fun text => walks_bind _ _ (walks_subset _ _) fun _ => ?_
  exact walks_bind _ _ walks_spaces fun _ => walks_pure _

theorem walks_value (declared : Declared) (quote : Char) (apart : quote ≠ '\n') (line : Nat) (more value : Text)
    (next : Cursor)
    (read : (do skip 1; liftText (attributeValue declared quote (more.length + 1))) ⟨line, quote :: more⟩ =
      .ok (value, next)) : Passes ⟨line, quote :: more⟩ next :=
  passes_plain line [quote] more next (by simpa using apart.symm)
    (attribute_value_pass declared quote apart _ line more value next read)

theorem walks_attributes (declared : Declared) (fuel : Nat) : Walks (writtenAttributes declared fuel) := by
  induction fuel with
  | zero => exact walks_stop
  | succ fuel ih =>
      refine walks_any_rest _ fun text => walks_if _ _ _ (walks_pure _) (walks_bind _ _ walks_name fun key => ?_)
      cases Qualified.ofText? key with
      | none => exact walks_stop
      | some key =>
          refine walks_bind _ _ walks_spaces fun _ => walks_bind _ _ (walks_need _ (by decide)) fun _ => ?_
          refine walks_bind _ _ walks_spaces fun _ => walks_bind _ _ ?_ fun value => ?_
          · refine walks_rest _ fun line text value next read => ?_
            split at read
            · exact walks_value declared '"' (by decide) line _ value next read
            · exact walks_value declared '\'' (by decide) line _ value next read
            · cases read
          · refine walks_bind _ _ walks_spaces fun spaced => walks_any_rest _ fun text => ?_
            refine walks_if _ _ _ (walks_stopped _) (walks_bind _ _ ih fun _ => walks_pure _)

theorem walks_item (key : Text) (inside : '\n' ∉ key) : Walks (declarationItem key) := by
  refine walks_bind _ _ (walks_accept key inside) fun _ => walks_if _ _ _ ?_ (walks_pure _)
  refine walks_bind _ _ walks_spaces fun _ => walks_bind _ _ (walks_need _ (by decide)) fun _ => ?_
  exact walks_bind _ _ walks_spaces fun _ => walks_bind _ _ walks_quoted fun _ => walks_pure _

/-! The declaration. -/

-- From a place of a text to a later one, where the text is read anew from a place between them on.
def Declares (cursor next : Cursor) : Prop :=
  ∃ middle encoding, Passes cursor middle ∧ Passes ⟨middle.line, Encoding.reread encoding middle.rest⟩ next

theorem declares_behind (cursor middle next : Cursor) (before : Passes cursor middle) (after : Declares middle next) :
    Declares cursor next := by
  obtain ⟨place, encoding, first, further⟩ := after
  exact ⟨place, encoding, passes_trans _ _ _ before first, further⟩

def Declaring {α : Type} (scan : Scan α) : Prop :=
  ∀ cursor value next, scan cursor = .ok (value, next) → Declares cursor next

section

variable {α β : Type}

theorem declaring_walks (scan : Scan α) (walks : Walks scan) : Declaring scan := fun cursor value next read =>
  ⟨cursor, .utf8, passes_none cursor, walks cursor value next read⟩

theorem declaring_bind (first : Scan α) (then_ : α → Scan β) (one : Walks first)
    (others : ∀ value, Declaring (then_ value)) : Declaring (first >>= then_) := by
  intro cursor result next read
  obtain ⟨value, middle, before, after⟩ := bind_read first then_ cursor next result read
  exact declares_behind _ _ _ (one cursor value middle before) (others value middle result next after)

theorem declaring_if (condition : Bool) (one other : Scan α) (first : Declaring one) (second : Declaring other) :
    Declaring (if condition = true then one else other) := by
  split
  · exact first
  · exact second

end

theorem declaration_declares (marked : Bool) (cursor next : Cursor)
    (read : declaration marked cursor = .ok ((), next)) : Declares cursor next := by
  obtain ⟨_, _, got, goes⟩ := bind_read _ _ _ _ _ read
  cases got
  clear read
  extract_lets -underBinder begins at goes
  by_cases opens : begins = true
  · rw [if_pos opens] at goes
    obtain ⟨_, _, skipped, further⟩ := bind_read _ _ _ _ _ goes
    cases skipped
    have opened : Passes cursor ⟨cursor.line, cursor.rest.drop 5⟩ := by
      unfold begins at opens
      cases found : Text.after? "<?xml" cursor.rest with
      | none =>
          rw [found] at opens
          cases opens
      | some after =>
          have whole := Text.eq_append_of_after? found
          have rest : cursor.rest.drop 5 = after := by rw [whole]; rfl
          rw [rest]
          exact ⟨"<?xml", whole, rfl⟩
    refine declares_behind _ _ _ opened ((declaring_bind _ _ walks_spaces fun _ => ?_) _ _ _ further)
    refine declaring_bind _ _ (walks_item _ (by decide)) fun version => ?_
    extract_lets -underBinder encoded
    have others : Declaring (encoded ()) := by
      refine declaring_bind _ _ walks_spaces fun spaced => ?_
      refine declaring_bind _ _ (walks_if _ _ _ (walks_item _ (by decide)) (walks_pure _)) fun named => ?_
      extract_lets -underBinder ended
      have last : Walks (ended ()) := by
        refine walks_bind _ _ (walks_if _ _ _ walks_spaces (walks_pure _)) fun spaced => ?_
        refine walks_bind _ _ (walks_if _ _ _ (walks_item _ (by decide)) (walks_pure _)) fun standalone => ?_
        extract_lets -underBinder closed
        have close : Walks (closed ()) := walks_bind _ _ walks_spaces fun _ => walks_need _ (by decide)
        cases standalone with
        | none => exact close
        | some value => exact walks_if _ _ _ (walks_stopped _) close
      cases named with
      | none => exact declaring_walks _ last
      | some name =>
          refine declaring_if _ _ _ (declaring_walks _ (walks_stopped _)) ?_
          dsimp -zeta only
          cases Encoding.ofName? name with
          | none => exact declaring_walks _ (walks_stopped _)
          | some encoding =>
              refine declaring_if _ _ _ ?_ (declaring_walks _ last)
              intro cursor value next read
              have anew := last ⟨cursor.line, encoding.reread cursor.rest⟩ value next read
              exact ⟨cursor, encoding, passes_none cursor, anew⟩
    cases version with
    | none => exact declaring_walks _ (walks_stopped _)
    | some version => exact declaring_if _ _ _ (declaring_walks _ (walks_stopped _)) others
  · rw [if_neg opens] at goes
    cases goes
    exact ⟨cursor, .utf8, passes_none cursor, passes_none cursor⟩

end Statewright.Markup
