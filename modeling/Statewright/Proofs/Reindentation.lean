import Statewright.Proofs.Blocks

/-!
Code texts do not depend on how far they are indented. Taking a code text out of a document gives a normal form: it
is taken out of itself unchanged, and out of a text whose lines have all been moved by one margin it is the same.
-/
set_option autoImplicit false

namespace Statewright.Text

/-! Texts cut into lines. -/

-- The lines of a text, each with what ends it.
def endedLines : Text → List (Text × Text)
  | [] => []
  | '\r' :: '\n' :: rest => ([], ['\r', '\n']) :: endedLines rest
  | c :: rest =>
    if endsLine c then ([], [c]) :: endedLines rest
    else match endedLines rest with
      | [] => [([c], [])]
      | (line, end_) :: more => (c :: line, end_) :: more

def joined (pieces : List (Text × Text)) : Text := pieces.flatMap fun piece => piece.1 ++ piece.2

theorem joined_cons (line end_ : Text) (rest : List (Text × Text)) :
    joined ((line, end_) :: rest) = line ++ (end_ ++ joined rest) := by
  simp [joined]

-- Pieces that a text can be cut into: nothing that ends a line is inside one, and the pair of characters that ends a
-- line is not cut in two.
inductive Cut : List (Text × Text) → Prop
  | nil : Cut []
  | last (line : Text) (inside : ∀ c ∈ line, endsLine c = false) (filled : line ≠ []) : Cut [(line, [])]
  | pair (line : Text) (rest : List (Text × Text)) (inside : ∀ c ∈ line, endsLine c = false) (further : Cut rest) :
      Cut ((line, ['\r', '\n']) :: rest)
  | ends (line : Text) (c : Char) (rest : List (Text × Text)) (inside : ∀ d ∈ line, endsLine d = false)
      (ends : endsLine c = true) (alone : c = '\r' → rest.head? ≠ some ([], ['\n'])) (further : Cut rest) :
      Cut ((line, [c]) :: rest)

theorem cut_front (c : Char) (plain : endsLine c = false) (line end_ : Text) (rest : List (Text × Text))
    (cut : Cut ((line, end_) :: rest)) : Cut ((c :: line, end_) :: rest) := by
  have inside : ∀ line : Text, (∀ d ∈ line, endsLine d = false) → ∀ d ∈ c :: line, endsLine d = false :=
    fun line inside => List.forall_mem_cons.mpr ⟨plain, inside⟩
  cases cut with
  | last _ within _ => exact .last _ (inside _ within) (List.cons_ne_nil c line)
  | pair _ _ within further => exact .pair _ _ (inside _ within) further
  | ends _ d _ within ends alone further => exact .ends _ d _ (inside _ within) ends alone further

theorem line_before_newline (line after rest : Text) (inside : ∀ c ∈ line, endsLine c = false)
    (begins : line ++ after = '\n' :: rest) : line = [] ∧ after = '\n' :: rest := by
  cases line with
  | nil => exact ⟨rfl, begins⟩
  | cons c line =>
      obtain ⟨rfl, _⟩ := List.cons.inj begins
      exact absurd (inside '\n' List.mem_cons_self) (by decide)

theorem joined_newline (pieces : List (Text × Text)) (cut : Cut pieces) (rest : Text)
    (begins : joined pieces = '\n' :: rest) : pieces.head? = some ([], ['\n']) := by
  cases cut with
  | nil => cases begins
  | last line inside filled =>
      rw [joined_cons] at begins
      exact absurd (line_before_newline line _ rest inside begins).1 filled
  | pair line more inside further =>
      rw [joined_cons] at begins
      obtain ⟨_, after⟩ := line_before_newline line _ rest inside begins
      cases after
  | ends line c more inside ends alone further =>
      rw [joined_cons] at begins
      obtain ⟨rfl, after⟩ := line_before_newline line _ rest inside begins
      obtain ⟨rfl, _⟩ := List.cons.inj after
      rfl

theorem cut_lines (pieces : List (Text × Text)) (cut : Cut pieces) : lines (joined pieces) = pieces.map Prod.fst := by
  induction cut with
  | nil => rfl
  | last line inside filled =>
      rw [joined_cons]
      simpa [joined] using lines_last line inside filled
  | pair line rest inside further ih =>
      rw [joined_cons, List.map_cons, ← ih]
      clear ih
      induction line with
      | nil => rfl
      | cons c line ih =>
          rw [List.forall_mem_cons] at inside
          rw [List.cons_append, lines_plain c _ inside.1, ih inside.2]
          rfl
  | ends line c rest inside ends alone further ih =>
      rw [joined_cons, List.map_cons, ← ih]
      refine lines_ended line c _ inside ends fun after single begins => ?_
      exact alone single (joined_newline rest further after begins)

theorem ended_lines_joined (text : Text) : joined (endedLines text) = text := by
  unfold joined
  fun_induction endedLines text <;> simp_all

theorem ended_lines_cut (text : Text) : Cut (endedLines text) := by
  fun_induction endedLines text with
  | case1 => exact .nil
  | case2 rest ih => exact .pair [] _ nofun ih
  | case3 c rest alone ends ih =>
      refine .ends [] c _ nofun ends (fun single begins => ?_) ih
      obtain ⟨more, listed⟩ := List.head?_eq_some_iff.mp begins
      refine alone (joined more) single ?_
      rw [← ended_lines_joined rest, listed, joined_cons]
      rfl
  | case4 c rest alone plain empty ih => exact .last [c] (by simpa using plain) (List.cons_ne_nil c [])
  | case5 c rest alone plain line end_ more found ih =>
      rw [found] at ih
      exact cut_front c (by simpa using plain) line end_ more ih

theorem ended_lines_lines (text : Text) : (endedLines text).map Prod.fst = lines text := by
  rw [← cut_lines _ (ended_lines_cut text), ended_lines_joined]

namespace Block

def indentLine (front line : Text) : Text := if line.all isMargin then line else front ++ line

-- The text with something put before each of its lines that is more than a margin.
def reindent (front text : Text) : Text :=
  joined ((endedLines text).map fun piece => (indentLine front piece.1, piece.2))

theorem indent_line_nil (front line : Text) : indentLine front line = [] ↔ line = [] := by
  unfold indentLine
  split
  · rfl
  · rename_i filled
    refine iff_of_false (fun none_ => filled ?_) (fun none_ => filled ?_)
    · rw [(List.append_eq_nil_iff.mp none_).2]
      rfl
    · rw [none_]
      rfl

section
variable {front : Text} (only : front.all isMargin = true)
include only

theorem margin_plain (c : Char) (member : c ∈ front) : endsLine c = false := by
  rcases Code.margin_cases front only c member with rfl | rfl <;> rfl

theorem indent_line_inside (line : Text) (inside : ∀ c ∈ line, endsLine c = false) :
    ∀ c ∈ indentLine front line, endsLine c = false := by
  unfold indentLine
  split
  · exact inside
  · exact List.forall_mem_append.mpr ⟨margin_plain only, inside⟩

theorem indented_cut (pieces : List (Text × Text)) (cut : Cut pieces) :
    Cut (pieces.map fun piece => (indentLine front piece.1, piece.2)) := by
  induction cut with
  | nil => exact .nil
  | last line inside filled =>
      exact .last _ (indent_line_inside only line inside) fun none_ => filled ((indent_line_nil front line).mp none_)
  | pair line rest inside further ih => exact .pair _ _ (indent_line_inside only line inside) ih
  | ends line c rest inside ends alone further ih =>
      refine .ends _ c _ (indent_line_inside only line inside) ends (fun single begins => alone single ?_) ih
      rw [List.head?_map] at begins
      obtain ⟨⟨first, end_⟩, own, same⟩ := Option.map_eq_some_iff.mp begins
      obtain ⟨none_, rfl⟩ := Prod.mk.inj same
      obtain rfl := (indent_line_nil front first).mp none_
      exact own

theorem reindent_lines (text : Text) : lines (reindent front text) = (lines text).map (indentLine front) := by
  rw [reindent, cut_lines _ (indented_cut only _ (ended_lines_cut text)), ← ended_lines_lines, List.map_map,
    List.map_map]
  rfl

theorem indent_line_blank (line : Text) : blank (indentLine front line) = blank line := by
  unfold indentLine
  split
  · rfl
  · rw [blank_append, Code.margin_blank front only, Bool.true_and]

theorem indent_line_margin (line : Text) : (indentLine front line).all isMargin = line.all isMargin := by
  unfold indentLine
  split
  · rfl
  · rw [List.all_append, only, Bool.true_and]

theorem indented_visible (block : List Text) :
    visible (block.map (indentLine front)) = (visible block).map (front ++ ·) := by
  unfold visible
  rw [List.filter_map]
  have same : (fun line : Text => !line.all isMargin) ∘ indentLine front = fun line => !line.all isMargin :=
    funext fun line => congrArg not (indent_line_margin only line)
  rw [same]
  refine List.map_congr_left fun line member => ?_
  have filled : ¬ line.all isMargin = true := by simpa using (List.mem_filter.mp member).2
  rw [indentLine, if_neg filled]

theorem indented_margin (block : List Text) (some_ : visible block ≠ []) :
    sharedMargin (block.map (indentLine front)) = front ++ sharedMargin block := by
  rw [sharedMargin_eq, sharedMargin_eq, indented_visible only, List.map_map]
  have moved : margin ∘ (front ++ ·) = (front ++ ·) ∘ margin := funext fun line => margin_behind front line only
  rw [moved, ← List.map_map, common_behind front _ (by simpa using some_)]

-- A block is dedented to the same lines wherever it stands.
theorem dedent_indented (block : List Text) : dedent (block.map (indentLine front)) = dedent block := by
  rw [dedent_eq, dedent_eq, List.map_map]
  refine List.map_congr_left fun line member => ?_
  rw [Function.comp_apply, outdent, outdent, indent_line_margin only]
  split
  · rfl
  · rename_i filled
    have seen := (mem_visible block line).mpr ⟨member, eq_false_of_ne_true filled⟩
    rw [indented_margin only block (List.ne_nil_of_mem seen), indentLine, if_neg filled, List.length_append,
      List.drop_append]
    simp

theorem extract_reindent (text : Text) : extract (reindent front text) = extract text := by
  have block : blockOf (reindent front text) = (blockOf text).map (indentLine front) := by
    rw [blockOf, reindent_lines only, ends_map _ _ fun line _ => indent_line_blank only line]
    rfl
  rw [extract_eq, extract_eq, block, dedent_indented only]

end

/-! Texts without a margin. -/

theorem outdent_margin (block : List Text) (line : Text) (member : line ∈ block) :
    (outdent (sharedMargin block).length line).all isMargin = line.all isMargin := by
  by_cases only : line.all isMargin = true
  · rw [outdent, if_pos only, only]
    rfl
  · have seen := (mem_visible block line).mpr ⟨member, eq_false_of_ne_true only⟩
    conv_rhs => rw [visible_outdent block line seen]
    rw [List.all_append, shared_margin_only block line seen, Bool.true_and]

theorem visible_dedent (block : List Text) :
    visible (dedent block) = (visible block).map (outdent (sharedMargin block).length) := by
  rw [dedent_eq, visible, List.filter_map]
  refine congrArg (List.map _) (List.filter_congr fun line member => ?_)
  rw [Function.comp_apply, outdent_margin block line member]

theorem dedent_margin (block : List Text) : sharedMargin (dedent block) = [] := by
  by_cases none_ : visible block = []
  · rw [sharedMargin_eq, visible_dedent, none_]
    rfl
  · -- The margins before are those behind the shared one, so the shared one is itself behind itself.
    have behind : (visible block).map margin = ((visible (dedent block)).map margin).map (sharedMargin block ++ ·) := by
      rw [visible_dedent, List.map_map, List.map_map]
      refine List.map_congr_left fun line seen => ?_
      conv_lhs => rw [visible_outdent block line seen]
      exact margin_behind _ _ (shared_margin_only block line seen)
    have some_ : (visible (dedent block)).map margin ≠ [] := by
      rw [visible_dedent]
      simpa using none_
    have again : sharedMargin block = sharedMargin block ++ sharedMargin (dedent block) := by
      conv_lhs => rw [sharedMargin_eq, behind, common_behind _ _ some_]
      rw [← sharedMargin_eq]
    exact List.self_eq_append_right.mp again

theorem dedent_again (block : List Text) : dedent (dedent block) = dedent block := by
  rw [dedent_eq (dedent block), dedent_margin]
  refine (List.map_congr_left fun line member => ?_).trans (List.map_id _)
  by_cases only : line.all isMargin = true
  · rw [dedent_eq] at member
    obtain ⟨own, listed, rfl⟩ := List.mem_map.mp member
    rw [outdent_margin block own listed] at only
    rw [outdent, outdent, if_pos only]
    rfl
  · rw [outdent, if_neg only]
    rfl

theorem extract_again (text : Text) : extract (extract text) = extract text := by
  have block : blockOf (extract text) = dedent (blockOf text) := by
    rw [blockOf, extract_lines, trimmed_kept _ (dedent_trimmed _ (block_trimmed text))]
  rw [extract_eq (extract text), block, dedent_again, ← extract_eq]

-- A code text that has no blank ends and no margin, so that it is taken out of itself.
structure Settled (text : Text) : Prop where
  again : extract text = text
  ends : text = [] ∨ ∃ first last, (lines text).head? = some first ∧ (lines text).getLast? = some last ∧
    blank first = false ∧ blank last = false
  marginless : text ≠ [] → ∀ c, isMargin c = true → ∃ line ∈ lines text, line.all isMargin = false ∧ line.head? ≠ some c

theorem extract_ends (text : Text) : extract text = [] ∨ ∃ first last, (lines (extract text)).head? = some first ∧
    (lines (extract text)).getLast? = some last ∧ blank first = false ∧ blank last = false := by
  have trimmed := dedent_trimmed _ (block_trimmed text)
  rw [extract_lines]
  cases listed : dedent (blockOf text) with
  | nil =>
      left
      rw [extract_eq, listed]
      rfl
  | cons first rest =>
      right
      have ends := List.getLast?_eq_some_getLast (List.cons_ne_nil first rest)
      rw [listed] at trimmed
      exact ⟨first, _, rfl, ends, trimmed.first first rfl, trimmed.last _ ends⟩

theorem extract_marginless (text : Text) (filled : extract text ≠ []) (c : Char) (among : isMargin c = true) :
    ∃ line ∈ lines (extract text), line.all isMargin = false ∧ line.head? ≠ some c := by
  obtain ⟨first, last, begins, _, shown, _⟩ := (extract_ends text).resolve_left filled
  rw [extract_lines] at begins ⊢
  have seen : first ∈ visible (dedent (blockOf text)) := by
    refine (mem_visible _ first).mpr ⟨List.mem_of_mem_head? begins, eq_false_of_ne_true fun only => ?_⟩
    rw [Code.margin_blank first only] at shown
    cases shown
  by_contra all
  push Not at all
  have starts : [c] <+: common ((visible (dedent (blockOf text))).map margin) := by
    refine common_longest [c] _ (List.ne_nil_of_mem (List.mem_map_of_mem seen)) ?_
    refine List.forall_mem_map.mpr fun line member => ?_
    obtain ⟨listed, filled⟩ := (mem_visible _ line).mp member
    obtain ⟨rest, rfl⟩ := List.head?_eq_some_iff.mp (all line listed filled)
    rw [margin, List.takeWhile_cons_of_pos among]
    exact ⟨_, rfl⟩
  rw [← sharedMargin_eq, dedent_margin] at starts
  cases List.prefix_nil.mp starts

/-- Taking a code text out of a document gives a normal form, and the same one however deep the text stands. -/
theorem extract_normalizes (text : Text) :
    Settled (extract text) ∧ ∀ front : Text, front.all isMargin = true → extract (reindent front text) = extract text :=
  ⟨⟨extract_again text, extract_ends text, extract_marginless text⟩, fun _ only => extract_reindent only text⟩

-- A blank line, a line that is only a margin, and lines that share a tab and differ behind it.
def nestedText : Text := "
	if ready:
  
	    start()
	
"

theorem nested_moved_alike : (Text.fixed " 	").all isMargin = true ∧
    reindent " 	" nestedText = "
 		if ready:
  
 		    start()
	
" ∧
    extract nestedText = "if ready:

    start()" ∧ extract (reindent " 	" nestedText) = extract nestedText :=
  ⟨by decide, by decide, by decide, (extract_normalizes nestedText).2 " 	" (by decide)⟩

end Block

end Statewright.Text
