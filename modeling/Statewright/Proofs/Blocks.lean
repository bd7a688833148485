import Mathlib.Data.List.Forall2
import Statewright.Proofs.BodyBlocks

/-!
Blocks taken out of a document. The margin that the lines of a block share is the longest that all of them begin with,
so that a block that has lost it has none, and one whose lines are all moved loses what they were moved by.
-/
set_option autoImplicit false

namespace Statewright.Text

/-! Lines. -/

theorem lines_plain (c : Char) (rest : Text) (plain : endsLine c = false) :
    lines (c :: rest) = pushFront c (lines rest) := by
  have alone : ∀ after, c = '\r' → rest = '\n' :: after → False := by
    rintro after rfl -
    cases plain
  rw [lines.eq_3 c rest alone, plain]
  rfl

theorem lines_ended (line : Text) (c : Char) (rest : Text) (inside : ∀ d ∈ line, endsLine d = false)
    (ends : endsLine c = true) (alone : ∀ after, c = '\r' → rest = '\n' :: after → False) :
    lines (line ++ c :: rest) = line :: lines rest := by
  induction line with
  | nil =>
      rw [List.nil_append, lines.eq_3 c rest alone, ends]
      rfl
  | cons d line ih =>
      rw [List.forall_mem_cons] at inside
      rw [List.cons_append, lines_plain d _ inside.1, ih inside.2]
      rfl

theorem lines_line (line rest : Text) (inside : ∀ c ∈ line, endsLine c = false) :
    lines (line ++ '\n' :: rest) = line :: lines rest :=
  lines_ended line '\n' rest inside rfl (by simp)

theorem lines_last (line : Text) (inside : ∀ c ∈ line, endsLine c = false) (filled : line ≠ []) :
    lines line = [line] := by
  induction line with
  | nil => exact absurd rfl filled
  | cons c line ih =>
      rw [List.forall_mem_cons] at inside
      rw [lines_plain c line inside.1]
      cases line with
      | nil => rfl
      | cons next line =>
          rw [ih inside.2 (List.cons_ne_nil next line)]
          rfl

theorem lines_unlines (all : List Text) (inside : ∀ line ∈ all, ∀ c ∈ line, endsLine c = false)
    (last : all.getLast? ≠ some []) : lines (unlines all) = all := by
  induction all with
  | nil => rfl
  | cons line rest ih =>
      rw [List.forall_mem_cons] at inside
      cases rest with
      | nil => exact lines_last line inside.1 fun empty => last (congrArg some empty)
      | cons next rest =>
          rw [List.getLast?_cons_cons] at last
          have further := ih inside.2 last
          rw [unlines, join, List.append_assoc, List.singleton_append, lines_line line _ inside.1, ← unlines, further]
          exact List.cons_ne_nil next rest

namespace Block

/-! Common starts. -/

def common : List Text → Text
  | [] => []
  | first :: rest => rest.foldl commonStart first

theorem common_start_behind (front a b : Text) : commonStart (front ++ a) (front ++ b) = front ++ commonStart a b := by
  induction front with
  | nil => rfl
  | cons c front ih => simp [commonStart, ih]

theorem common_start_left (a b : Text) : commonStart a b <+: a := by
  fun_induction commonStart a b with
  | case1 as c bs ih => exact (List.prefix_cons_inj c).mpr ih
  | case2 => exact List.nil_prefix
  | case3 => exact List.nil_prefix

theorem common_start_right (a b : Text) : commonStart a b <+: b := by
  fun_induction commonStart a b with
  | case1 as c bs ih => exact (List.prefix_cons_inj c).mpr ih
  | case2 => exact List.nil_prefix
  | case3 => exact List.nil_prefix

theorem common_fold_start (rest : List Text) (first : Text) :
    rest.foldl commonStart first <+: first ∧ ∀ start ∈ rest, rest.foldl commonStart first <+: start := by
  induction rest generalizing first with
  | nil => exact ⟨List.prefix_rfl, by simp⟩
  | cons next rest ih =>
      obtain ⟨shared, others⟩ := ih (commonStart first next)
      rw [List.foldl_cons, List.forall_mem_cons]
      exact ⟨shared.trans (common_start_left first next), shared.trans (common_start_right first next), others⟩

theorem common_starts (starts : List Text) : ∀ start ∈ starts, common starts <+: start := by
  cases starts with
  | nil => simp
  | cons first rest =>
      obtain ⟨own, others⟩ := common_fold_start rest first
      exact List.forall_mem_cons.mpr ⟨own, others⟩

-- What is put before all of them is put before what they have in common.
theorem common_behind (front : Text) (starts : List Text) (some_ : starts ≠ []) :
    common (starts.map (front ++ ·)) = front ++ common starts := by
  cases starts with
  | nil => exact absurd rfl some_
  | cons first rest =>
      change (rest.map (front ++ ·)).foldl commonStart (front ++ first) = front ++ rest.foldl commonStart first
      clear some_
      induction rest generalizing first with
      | nil => rfl
      | cons next rest ih => rw [List.map_cons, List.foldl_cons, List.foldl_cons, common_start_behind, ih]

theorem common_longest (front : Text) (starts : List Text) (some_ : starts ≠ [])
    (all : ∀ start ∈ starts, front <+: start) :
    front <+: common starts := by
  have behind : starts = (starts.map (List.drop front.length)).map (front ++ ·) := by
    rw [List.map_map]
    refine (List.map_id starts).symm.trans (List.map_congr_left fun start member => ?_)
    obtain ⟨rest, rfl⟩ := all start member
    simp
  rw [behind, common_behind front _ (by simpa using some_)]
  exact List.prefix_append front _

/-! Blank ends. -/

theorem blank_append (front rest : Text) : blank (front ++ rest) = (blank front && blank rest) := List.all_append

theorem drop_blank_append (before block : List Text) (empty : ∀ line ∈ before, blank line = true) :
    (before ++ block).dropWhile blank = block.dropWhile blank := by
  rw [List.dropWhile_append_of_pos empty]

theorem ends_between (before block after : List Text) (first : ∀ line ∈ before, blank line = true)
    (last : ∀ line ∈ after, blank line = true) : dropBlankEnds (before ++ block ++ after) = dropBlankEnds block := by
  unfold dropBlankEnds
  rw [List.append_assoc, drop_blank_append before _ first, List.dropWhile_append]
  split
  · rename_i none_
    rw [List.isEmpty_iff.mp none_, List.dropWhile_eq_nil_iff.mpr last]
  · rw [List.reverse_append, drop_blank_append _ _ fun line member => last line (List.mem_reverse.mp member)]

theorem ends_map (change : Text → Text) (block : List Text) (same : ∀ line ∈ block, blank (change line) = blank line) :
    dropBlankEnds (block.map change) = (dropBlankEnds block).map change := by
  have drop : ∀ lines : List Text, (∀ line ∈ lines, blank (change line) = blank line) →
      (lines.map change).dropWhile blank = (lines.dropWhile blank).map change := by
    intro lines
    induction lines with
    | nil => simp
    | cons line rest ih =>
        intro same
        rw [List.forall_mem_cons] at same
        rw [List.map_cons, List.dropWhile_cons, List.dropWhile_cons, same.1]
        split
        · exact ih same.2
        · rfl
  unfold dropBlankEnds
  rw [drop block same, ← List.map_reverse, drop, List.map_reverse]
  exact fun line member => same line ((List.dropWhile_sublist _).mem (List.mem_reverse.mp member))

theorem ends_parts (block : List Text) : ∃ after, block = block.takeWhile blank ++ dropBlankEnds block ++ after ∧
    ∀ line ∈ after, blank line = true := by
  refine ⟨((block.dropWhile blank).reverse.takeWhile blank).reverse, ?_,
    fun line member => List.mem_takeWhile_imp (List.mem_reverse.mp member)⟩
  unfold dropBlankEnds
  rw [List.append_assoc, ← List.reverse_append, List.takeWhile_append_dropWhile, List.reverse_reverse,
    List.takeWhile_append_dropWhile]

theorem ends_split (block : List Text) : ∃ before after, block = before ++ dropBlankEnds block ++ after ∧
    (∀ line ∈ before, blank line = true) ∧ ∀ line ∈ after, blank line = true := by
  obtain ⟨after, whole, last⟩ := ends_parts block
  exact ⟨_, after, whole, fun line member => List.mem_takeWhile_imp member, last⟩

-- The first and the last line of what is left are not blank.
structure Trimmed (block : List Text) : Prop where
  first : ∀ line ∈ block.head?, blank line = false
  last : ∀ line ∈ block.getLast?, blank line = false

theorem drop_blank_head (block : List Text) : ∀ line ∈ (block.dropWhile blank).head?, blank line = false := by
  intro line member
  have stopped := List.head?_dropWhile_not blank block
  rw [Option.mem_def.mp member] at stopped
  exact stopped

theorem drop_blank_kept (block : List Text) (first : ∀ line ∈ block.head?, blank line = false) :
    block.dropWhile blank = block := by
  cases block with
  | nil => rfl
  | cons line rest => exact List.dropWhile_cons_of_neg (by simp [first line rfl])

theorem trimmed_ends (block : List Text) : Trimmed (dropBlankEnds block) where
  first := by
    intro line member
    obtain ⟨front, whole⟩ : (block.dropWhile blank).reverse.dropWhile blank <:+ (block.dropWhile blank).reverse :=
      List.dropWhile_suffix blank
    have head : (block.dropWhile blank).head? = some line := by
      have own : ((block.dropWhile blank).reverse.dropWhile blank).reverse.head? = some line := member
      rw [← List.reverse_reverse (block.dropWhile blank), ← whole, List.reverse_append, List.head?_append, own]
      rfl
    exact drop_blank_head block line head
  last := by
    intro line member
    rw [dropBlankEnds, List.getLast?_reverse] at member
    exact drop_blank_head _ line member

theorem trimmed_kept (block : List Text) (trimmed : Trimmed block) : dropBlankEnds block = block := by
  have last : ∀ line ∈ block.reverse.head?, blank line = false := by
    rw [List.head?_reverse]
    exact trimmed.last
  rw [dropBlankEnds, drop_blank_kept block trimmed.first, drop_blank_kept _ last, List.reverse_reverse]

/-! Margins. -/

-- A line that has lost some of its margin.
def Unindents (line result : Text) : Prop := ∃ front, front.all isMargin = true ∧ line = front ++ result

theorem unindents_blank (line result : Text) (unindents : Unindents line result) : blank result = blank line := by
  obtain ⟨front, only, rfl⟩ := unindents
  rw [blank_append, Code.margin_blank front only, Bool.true_and]

def visible (block : List Text) : List Text := block.filter fun line => !line.all isMargin

theorem sharedMargin_eq (block : List Text) : sharedMargin block = common ((visible block).map margin) := by
  unfold sharedMargin visible
  cases (block.filter fun line => !line.all isMargin).map margin <;> rfl

def outdent (width : Nat) (line : Text) : Text := if line.all isMargin then [] else line.drop width

theorem dedent_eq (block : List Text) : dedent block = block.map (outdent (sharedMargin block).length) := rfl

theorem shared_margin_starts (block : List Text) (line : Text) (member : line ∈ visible block) :
    sharedMargin block <+: margin line := by
  rw [sharedMargin_eq]
  exact common_starts _ _ (List.mem_map_of_mem member)

theorem margin_only (line : Text) : (margin line).all isMargin = true :=
  List.all_eq_true.mpr fun _ member => List.mem_takeWhile_imp member

theorem margin_behind (front line : Text) (only : front.all isMargin = true) :
    margin (front ++ line) = front ++ margin line :=
  List.takeWhile_append_of_pos (List.all_eq_true.mp only)

theorem mem_visible (block : List Text) (line : Text) :
    line ∈ visible block ↔ line ∈ block ∧ line.all isMargin = false := by
  rw [visible, List.mem_filter, Bool.not_eq_true']

theorem shared_margin_only (block : List Text) (line : Text) (seen : line ∈ visible block) :
    (sharedMargin block).all isMargin = true :=
  List.all_eq_true.mpr fun c within =>
    List.all_eq_true.mp (margin_only line) c ((shared_margin_starts block line seen).mem within)

theorem visible_outdent (block : List Text) (line : Text) (seen : line ∈ visible block) :
    line = sharedMargin block ++ outdent (sharedMargin block).length line := by
  have filled := ((mem_visible block line).mp seen).2
  obtain ⟨rest, starts⟩ := (shared_margin_starts block line seen).trans (List.takeWhile_prefix isMargin)
  rw [outdent, filled, if_neg Bool.false_ne_true, ← starts, List.drop_left]

theorem outdent_unindents (block : List Text) (line : Text) (member : line ∈ block) :
    Unindents line (outdent (sharedMargin block).length line) := by
  by_cases only : line.all isMargin = true
  · refine ⟨line, only, ?_⟩
    rw [outdent, if_pos only, List.append_nil]
  · have seen := (mem_visible block line).mpr ⟨member, eq_false_of_ne_true only⟩
    exact ⟨sharedMargin block, shared_margin_only block line seen, visible_outdent block line seen⟩

theorem dedent_unindents (block : List Text) : List.Forall₂ Unindents block (dedent block) := by
  rw [dedent_eq, List.forall₂_map_right_iff, List.forall₂_same]
  exact outdent_unindents block

theorem outdent_blank (block : List Text) (line : Text) (member : line ∈ block) :
    blank (outdent (sharedMargin block).length line) = blank line :=
  unindents_blank line _ (outdent_unindents block line member)

/-! Blocks. -/

theorem dedent_trimmed (block : List Text) (trimmed : Trimmed block) : Trimmed (dedent block) where
  first := by
    rw [dedent_eq, List.head?_map]
    intro line member
    obtain ⟨own, first, rfl⟩ := Option.map_eq_some_iff.mp member
    rw [outdent_blank block own (List.mem_of_mem_head? first), trimmed.first own first]
  last := by
    rw [dedent_eq, List.getLast?_map]
    intro line member
    obtain ⟨own, last, rfl⟩ := Option.map_eq_some_iff.mp member
    rw [outdent_blank block own (List.mem_of_mem_getLast? last), trimmed.last own last]

def blockOf (text : Text) : List Text := dropBlankEnds (lines text)

theorem block_inside (text : Text) : ∀ line ∈ blockOf text, ∀ c ∈ line, endsLine c = false := by
  obtain ⟨before, after, whole, _, _⟩ := ends_split (lines text)
  refine fun line member => lines_inside text line ?_
  rw [whole]
  exact List.mem_append_left _ (List.mem_append_right _ member)

theorem dedent_inside (text : Text) : ∀ line ∈ dedent (blockOf text), ∀ c ∈ line, endsLine c = false := by
  rw [dedent_eq, List.forall_mem_map]
  intro line member c within
  obtain ⟨front, _, whole⟩ := outdent_unindents (blockOf text) line member
  refine block_inside text line member c ?_
  rw [whole]
  exact List.mem_append_right _ within

theorem block_trimmed (text : Text) : Trimmed (blockOf text) := trimmed_ends (lines text)

theorem extract_eq (text : Text) : extract text = unlines (dedent (blockOf text)) := rfl

-- The lines of what is taken out are those of the block, each without the shared margin.
theorem extract_lines (text : Text) : lines (extract text) = dedent (blockOf text) := by
  refine lines_unlines _ (dedent_inside text) fun empty => ?_
  have filled := (dedent_trimmed _ (block_trimmed text)).last [] empty
  cases filled

end Block

end Statewright.Text
