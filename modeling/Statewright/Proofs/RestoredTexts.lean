import Statewright.Proofs.BodyLines
import Statewright.Proofs.Reindentation

/-!
Code texts that are put back. A code text that was taken out of a document and is indented to some depth has the lines
it had, each that much deeper, and is the same when it is taken out again, exactly if no blank line of it holds a
character: such a line is put back empty.
-/
set_option autoImplicit false

namespace Statewright.Text.Block

open Emission (placed)

-- A line and the same line at a depth.
def Deepens (width : Nat) (line result : Text) : Prop :=
  line = [] ∧ result = [] ∨ line ≠ [] ∧ result = spaces width ++ line

-- A block whose blank lines are empty.
def Bare (block : List Text) : Prop := ∀ line ∈ block, blank line = true → line = []

/-! Lines that are put back. -/

theorem placed_blank (width : Nat) (line : Text) : blank (placed width line) = blank line := by
  unfold placed
  split
  · rename_i empty
    rw [empty]
    rfl
  · rw [blank_append, Code.margin_blank _ (Code.spaces_margin width), Bool.true_and]

theorem placed_bare (width : Nat) (block : List Text) : Bare (block.map (placed width)) := by
  refine List.forall_mem_map.mpr fun line _ empty => ?_
  rw [placed_blank] at empty
  rw [placed, if_pos empty]

-- Where blank lines are empty, a line is put back as it is moved together with the others.
theorem placed_moved (width : Nat) (block : List Text) (bare : Bare block) :
    block.map (placed width) = block.map (indentLine (spaces width)) := by
  refine List.map_congr_left fun line member => ?_
  by_cases empty : blank line = true
  · rw [bare line member empty]
    rfl
  · have shown : ¬ line.all isMargin = true := fun only => empty (Code.margin_blank line only)
    rw [placed, if_neg empty, indentLine, if_neg shown]

theorem deepens_placed_iff (width : Nat) (line : Text) :
    Deepens width line (placed width line) ↔ (blank line = true → line = []) := by
  unfold Deepens placed
  by_cases empty : blank line = true
  · rw [if_pos empty]
    constructor
    · rintro (⟨none_, _⟩ | ⟨some_, none_⟩) _
      · exact none_
      · exact absurd (List.append_eq_nil_iff.mp none_.symm).2 some_
    · intro bare
      exact .inl ⟨bare empty, rfl⟩
  · rw [if_neg empty]
    have some_ : line ≠ [] := by
      rintro rfl
      exact empty rfl
    exact iff_of_true (.inr ⟨some_, rfl⟩) fun also => absurd also empty

theorem dedent_bare (block : List Text) (bare : Bare block) : Bare (dedent block) := by
  rw [dedent_eq]
  refine List.forall_mem_map.mpr fun line member empty => ?_
  rw [outdent_blank block line member] at empty
  rw [bare line member empty]
  rfl

/-! Texts that are put back. -/

theorem extract_blank (text : Text) (empty : blank (extract text) = true) : extract text = [] := by
  refine (extract_ends text).resolve_right ?_
  rintro ⟨first, last, begins, _, shown, _⟩
  have within := lines_within (extract text) first (List.mem_of_mem_head? begins)
  have all : blank first = true := List.all_eq_true.mpr fun c member => List.all_eq_true.mp empty c (within c member)
  rw [all] at shown
  cases shown

-- Something stands in the place of a code text that is missing.
theorem extract_indent_nil (width : Nat) : extract (indent width []) = "pass" := by
  have shown : indentLine (spaces width) "pass" = spaces width ++ "pass" := if_neg (by decide)
  have moved : indent width [] = reindent (spaces width) "pass" := by
    rw [reindent, show endedLines "pass" = [(Text.fixed "pass", [])] by decide, List.map_singleton, joined_cons, shown]
    exact (List.append_nil _).symm
  rw [moved, extract_reindent (Code.spaces_margin width)]
  decide

theorem indent_lines (text : Text) (width : Nat) (filled : blank (extract text) = false) :
    lines (indent width (extract text)) = (lines (extract text)).map (placed width) := by
  have whole : indent width (extract text) = unlines ((lines (extract text)).map (placed width)) :=
    if_neg (Bool.eq_false_iff.mp filled)
  rw [whole]
  refine lines_unlines _ ?_ fun none_ => ?_
  · refine List.forall_mem_map.mpr fun line member c within => Bool.eq_false_iff.mpr fun ends => ?_
    have apart : c ≠ ' ' := by
      rintro rfl
      cases ends
    exact Emission.placed_inside width c apart line (Emission.line_inside (extract text) c ends line member) within
  · -- The last line is not blank, and stays so.
    have some_ : extract text ≠ [] := by
      intro none_
      rw [none_] at filled
      cases filled
    obtain ⟨first, last, _, final, _, shown⟩ := (extract_ends text).resolve_left some_
    rw [List.getLast?_map, final, Option.map_some, Option.some_inj] at none_
    rw [← placed_blank width, none_] at shown
    cases shown

theorem indent_block (text : Text) (width : Nat) (filled : blank (extract text) = false) :
    blockOf (indent width (extract text)) = (dedent (blockOf text)).map (placed width) := by
  rw [blockOf, indent_lines text width filled, ends_map _ _ fun line _ => placed_blank width line, extract_lines,
    trimmed_kept _ (dedent_trimmed _ (block_trimmed text))]

theorem indent_deepens_iff (text : Text) (width : Nat) (filled : blank (extract text) = false) :
    List.Forall₂ (Deepens width) (lines (extract text)) (lines (indent width (extract text))) ↔
      Bare (lines (extract text)) := by
  rw [indent_lines text width filled, List.forall₂_map_right_iff, List.forall₂_same]
  exact forall₂_congr fun line _ => deepens_placed_iff width line

theorem extract_indent_iff (text : Text) (width : Nat) (filled : blank (extract text) = false) :
    extract (indent width (extract text)) = extract text ↔ Bare (lines (extract text)) := by
  constructor
  · intro same
    rw [← same, extract_lines, indent_block text width filled]
    exact dedent_bare _ (placed_bare width _)
  · intro bare
    rw [extract_lines] at bare
    rw [extract_eq (indent width (extract text)), indent_block text width filled, placed_moved width _ bare,
      dedent_indented (Code.spaces_margin width), dedent_again, ← extract_eq]

/-- Indenting and taking out are inverse on a code text that was taken out of a document, and indenting moves each of
its lines and no other, exactly if it is not blank and its blank lines are empty. -/
theorem indent_inverted_iff (text : Text) (width : Nat) :
    (List.Forall₂ (Deepens width) (lines (extract text)) (lines (indent width (extract text))) ↔
      blank (extract text) = false ∧ Bare (lines (extract text))) ∧
    (extract (indent width (extract text)) = extract text ↔
      blank (extract text) = false ∧ Bare (lines (extract text))) := by
  cases empty : blank (extract text) with
  | false =>
      simp only [true_and]
      exact ⟨indent_deepens_iff text width empty, extract_indent_iff text width empty⟩
  | true =>
      rw [extract_blank text empty, extract_indent_nil]
      refine ⟨iff_of_false (fun deepens => ?_) (by simp), iff_of_false (by decide) (by simp)⟩
      have none_ := (lines_nil _).mp (List.forall₂_nil_left_iff.mp deepens)
      have filled := extract_indent_nil width
      rw [none_] at filled
      revert filled
      decide

-- A space that is none of a margin stands on the middle line.
example : extract (indent 4 (extract (Text.fixed "open()\n" ++ Char.ofNat 0xa0 :: Text.fixed "\nclose()"))) =
    "open()\n\nclose()" := by decide

end Statewright.Text.Block
