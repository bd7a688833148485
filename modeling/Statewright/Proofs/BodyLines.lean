import Statewright.Markup.Characters
import Statewright.Proofs.Blocks

/-!
Lines of a code text. A text is split at every line end in the wide sense before it is taken out of a document, and is
put together again with line feeds. A text has its own lines afterwards exactly if no line of it holds a line end that
a document lets through and that is not a line feed.
-/
set_option autoImplicit false

namespace Statewright.Text

theorem split_inside (mark : Char) (text : Text) : ∀ piece ∈ splitAt mark text, ∀ c ∈ piece, c ∈ text ∧ c ≠ mark := by
  induction text with
  | nil => simp [splitAt]
  | cons d text ih =>
      have further : ∀ piece ∈ splitAt mark text, ∀ c ∈ piece, c ∈ d :: text ∧ c ≠ mark := fun piece member c within =>
        ⟨List.mem_cons_of_mem d (ih piece member c within).1, (ih piece member c within).2⟩
      by_cases same : d = mark
      · rw [splitAt, if_pos same]
        exact List.forall_mem_cons.mpr ⟨List.forall_mem_nil _, further⟩
      · rw [splitAt, if_neg same]
        have own : d ∈ d :: text ∧ d ≠ mark := ⟨List.mem_cons_self, same⟩
        cases split_ : splitAt mark text with
        | nil => simpa using same
        | cons piece others =>
            rw [split_, List.forall_mem_cons] at further
            refine List.forall_mem_cons.mpr ?_
            exact ⟨List.forall_mem_cons.mpr ⟨own, further.1⟩, further.2⟩

theorem push_front_append (c : Char) (all more : List Text) (some_ : all ≠ []) :
    pushFront c (all ++ more) = pushFront c all ++ more := by
  cases all with
  | nil => exact absurd rfl some_
  | cons line rest => rfl

theorem lines_within (text : Text) : ∀ line ∈ lines text, ∀ c ∈ line, c ∈ text := by
  have front : ∀ (c : Char) (all : List Text) (rest : Text), (∀ line ∈ all, ∀ d ∈ line, d ∈ rest) →
      ∀ line ∈ pushFront c all, ∀ d ∈ line, d ∈ c :: rest := by
    intro c all rest inside
    cases all with
    | nil => simp [pushFront]
    | cons line others =>
        simp only [pushFront, List.forall_mem_cons, List.mem_cons_self, true_and] at inside ⊢
        exact ⟨fun d within => List.mem_cons_of_mem c (inside.1 d within),
          fun line member d within => List.mem_cons_of_mem c (inside.2 line member d within)⟩
  fun_induction lines text with
  | case1 => exact List.forall_mem_nil _
  | case2 rest ih =>
      refine List.forall_mem_cons.mpr ⟨List.forall_mem_nil _, fun line member c within => ?_⟩
      exact List.mem_cons_of_mem _ (List.mem_cons_of_mem _ (ih line member c within))
  | case3 c rest _ _ ih =>
      refine List.forall_mem_cons.mpr ⟨List.forall_mem_nil _, fun line member d within => ?_⟩
      exact List.mem_cons_of_mem c (ih line member d within)
  | case4 c rest _ _ ih => exact front c (lines rest) rest ih

/-! Pieces of a line. -/

-- What a line that is followed by a line feed is split into.
def pieces (line : Text) : List Text := lines (line ++ ['\n'])

theorem pieces_nonempty (line : Text) : pieces line ≠ [] := by
  rw [pieces, Ne, lines_nil]
  simp

theorem pieces_cons (c : Char) (line : Text) (returns : c ≠ '\r') :
    pieces (c :: line) = if endsLine c then [] :: pieces line else pushFront c (pieces line) := by
  rw [pieces, List.cons_append, lines.eq_3 c _ fun after same _ => returns same]
  rfl

theorem pieces_whole (line : Text) (inside : ∀ c ∈ line, endsLine c = false) : pieces line = [line] :=
  lines_line line [] inside

theorem pieces_blank (line : Text) (empty : blank line = true) : ∀ piece ∈ pieces line, blank piece = true := by
  refine fun piece member => List.all_eq_true.mpr fun c within => ?_
  have among := lines_within (line ++ ['\n']) piece member c within
  rw [List.mem_append, List.mem_singleton] at among
  rcases among with own | rfl
  · exact List.all_eq_true.mp empty c own
  · decide

theorem pieces_more (line : Text) (returns : '\r' ∉ line) (ends : ∃ c ∈ line, endsLine c = true) :
    1 < (pieces line).length := by
  induction line with
  | nil => simp at ends
  | cons c line ih =>
      rw [List.mem_cons, not_or] at returns
      rw [List.exists_mem_cons_iff] at ends
      rw [pieces_cons c line (Ne.symm returns.1)]
      have some_ := List.length_pos_iff.mpr (pieces_nonempty line)
      by_cases own : endsLine c = true
      · rw [if_pos own, List.length_cons]
        omega
      · rw [if_neg own]
        have further := ih returns.2 (ends.resolve_left own)
        cases split_ : pieces line with
        | nil => exact absurd split_ (pieces_nonempty line)
        | cons piece others =>
            rw [split_] at further
            simpa [pushFront] using further

-- A line feed at the end adds no line but an empty one.
theorem lines_closed (text : Text) (returns : '\r' ∉ text) :
    pieces text = lines text ∨ pieces text = lines text ++ [[]] := by
  induction text with
  | nil => exact .inr rfl
  | cons c text ih =>
      rw [List.mem_cons, not_or] at returns
      rw [pieces_cons c text (Ne.symm returns.1), lines.eq_3 c text fun after same _ => returns.1 same.symm]
      split
      · simpa using ih returns.2
      · by_cases none_ : text = []
        · subst none_
          exact .inl rfl
        · refine (ih returns.2).imp (fun same => by rw [same]) fun more => ?_
          rw [more, push_front_append c _ _ ((lines_nil text).not.mpr none_)]

theorem pieces_split (text : Text) (returns : '\r' ∉ text) : pieces text = (splitAt '\n' text).flatMap pieces := by
  induction text with
  | nil => rfl
  | cons c text ih =>
      rw [List.mem_cons, not_or] at returns
      have further := ih returns.2
      rw [pieces_cons c text (Ne.symm returns.1), further]
      by_cases newline : c = '\n'
      · subst newline
        rw [splitAt, if_pos rfl, List.flatMap_cons, pieces_whole [] (List.forall_mem_nil _)]
        rfl
      · rw [splitAt, if_neg newline]
        cases split_ : splitAt '\n' text with
        | nil => exact absurd split_ (split_nonempty '\n' text)
        | cons line others =>
            rw [List.flatMap_cons, List.flatMap_cons, pieces_cons c line (Ne.symm returns.1)]
            split
            · rfl
            · exact push_front_append c _ _ (pieces_nonempty line)

namespace Block

/-! Lines between line feeds. -/

def newlineLines (text : Text) : List Text := if text.isEmpty then [] else splitAt '\n' text

-- The lines of a text that are left when the blank ones at its ends are dropped.
def core (text : Text) : List Text := dropBlankEnds (newlineLines text)

-- A line as it may be changed: some of its margin is gone, or it is blank and has become empty.
def Reduces (line result : Text) : Prop := Unindents line result ∨ blank line = true ∧ result = []

def KeepsLines (text : Text) : Prop := List.Forall₂ Reduces (core text) (newlineLines (extract text))

-- A line end of code texts that is a character like any other for a document.
def endsWidely (c : Char) : Bool := c.toNat = 0x85 || c.toNat = 0x2028 || c.toNat = 0x2029

theorem core_split (text : Text) : core text = dropBlankEnds (splitAt '\n' text) := by
  cases text <;> rfl

theorem core_inside (text : Text) : ∀ line ∈ core text, ∀ c ∈ line, c ∈ text ∧ c ≠ '\n' := by
  obtain ⟨before, after, whole, _, _⟩ := ends_split (splitAt '\n' text)
  rw [← core_split] at whole
  refine fun line member => split_inside '\n' text line ?_
  rw [whole]
  exact List.mem_append_left _ (List.mem_append_right _ member)

theorem core_trimmed (text : Text) : Trimmed (core text) := trimmed_ends (newlineLines text)

theorem wide_ends (c : Char) (allowed : Markup.isAllowed c = true) (newline : c ≠ '\n') (returns : c ≠ '\r') :
    endsLine c = endsWidely c := by
  have numbers : c.toNat ≠ 10 ∧ c.toNat ≠ 13 := by
    constructor <;> intro same
    · exact newline (Char.toNat_inj.mp same)
    · exact returns (Char.toNat_inj.mp same)
  simp only [Markup.isAllowed, endsLine, endsWidely] at *
  grind

-- The block of a text is that of the pieces of its own lines.
theorem block_pieces (text : Text) (returns : '\r' ∉ text) :
    blockOf text = dropBlankEnds ((core text).flatMap pieces) := by
  have closed : dropBlankEnds (pieces text) = blockOf text := by
    rcases lines_closed text returns with same | more
    · rw [same, blockOf]
    · rw [more, blockOf, ← List.nil_append (lines text),
        ends_between [] _ [[]] (List.forall_mem_nil _) (by simp [blank])]
      rfl
  obtain ⟨before, after, whole, first, last⟩ := ends_split (splitAt '\n' text)
  rw [← core_split] at whole
  have blanks : ∀ ends : List Text, (∀ line ∈ ends, blank line = true) →
      ∀ piece ∈ ends.flatMap pieces, blank piece = true := by
    intro ends empty piece member
    obtain ⟨line, among, own⟩ := List.mem_flatMap.mp member
    exact pieces_blank line (empty line among) piece own
  rw [← closed, pieces_split text returns, whole, List.flatMap_append, List.flatMap_append,
    ends_between _ _ _ (blanks before first) (blanks after last)]

theorem newline_lines_extract (text : Text) : newlineLines (extract text) = dedent (blockOf text) := by
  have inside : ∀ line ∈ dedent (blockOf text), '\n' ∉ line := fun line member within => by
    cases dedent_inside text line member '\n' within
  rw [extract_eq]
  cases block : dedent (blockOf text) with
  | nil => rfl
  | cons line rest =>
      have filled : unlines (line :: rest) ≠ [] := by
        intro empty
        have none_ : lines (extract text) = [] := by rw [extract_eq, block, empty, lines]
        rw [extract_lines, block] at none_
        cases none_
      rw [block] at inside
      rw [newlineLines, if_neg (by simpa using filled)]
      exact split_join '\n' _ (List.cons_ne_nil line rest) inside

theorem flat_map_whole (block : List Text) (inside : ∀ line ∈ block, ∀ c ∈ line, endsLine c = false) :
    block.flatMap pieces = block := by
  induction block with
  | nil => rfl
  | cons line rest ih =>
      rw [List.forall_mem_cons] at inside
      rw [List.flatMap_cons, pieces_whole line inside.1, ih inside.2]
      rfl

theorem flat_map_more (block : List Text) (line : Text) (member : line ∈ block) (returns : '\r' ∉ line)
    (ends : ∃ c ∈ line, endsLine c = true) : block.length < (block.flatMap pieces).length := by
  have each : ∀ some_ : List Text, some_.length ≤ (some_.flatMap pieces).length := by
    intro some_
    induction some_ with
    | nil => exact Nat.le_refl 0
    | cons own rest ih =>
        have one := List.length_pos_iff.mpr (pieces_nonempty own)
        rw [List.flatMap_cons, List.length_append, List.length_cons]
        omega
  obtain ⟨before, after, rfl⟩ := List.append_of_mem member
  have more := pieces_more line returns ends
  have first := each before
  have last := each after
  simp only [List.flatMap_append, List.flatMap_cons, List.length_append, List.length_cons]
  omega

-- Lines at the ends that are split no further, and are not blank, keep all that is between them.
theorem flat_map_trimmed (block : List Text) (trimmed : Trimmed block)
    (whole : ∀ line ∈ block, blank line = false → ∀ c ∈ line, endsLine c = false) : Trimmed (block.flatMap pieces) where
  first := by
    cases block with
    | nil => nofun
    | cons line rest =>
        have shown := trimmed.first line rfl
        rw [List.flatMap_cons, pieces_whole line (whole line List.mem_cons_self shown)]
        rintro own ⟨rfl⟩
        exact shown
  last := by
    rcases List.eq_nil_or_concat block with rfl | ⟨rest, line, rfl⟩
    · nofun
    · have shown := trimmed.last line (by simp)
      rw [List.concat_eq_append, List.flatMap_append, List.flatMap_singleton,
        pieces_whole line (whole line (by simp) shown), List.getLast?_concat]
      rintro own ⟨rfl⟩
      exact shown

theorem reduced_inside (line result : Text) (reduces : Reduces line result) (shown : blank line = false)
    (inside : ∀ c ∈ result, endsLine c = false) : ∀ c ∈ line, endsLine c = false := by
  rcases reduces with ⟨front, only, rfl⟩ | ⟨empty, _⟩
  · intro c within
    rcases List.mem_append.mp within with before | own
    · have margin := List.all_eq_true.mp only c before
      rw [isMargin, Bool.or_eq_true, decide_eq_true_eq, decide_eq_true_eq] at margin
      rcases margin with rfl | rfl <;> rfl
    · exact inside c own
  · rw [empty] at shown
    cases shown

theorem kept_inside (text : Text) (keeps : KeepsLines text) :
    ∀ line ∈ core text, blank line = false → ∀ c ∈ line, endsLine c = false := by
  rw [KeepsLines, newline_lines_extract] at keeps
  intro line member shown
  obtain ⟨i, bound, rfl⟩ := List.mem_iff_getElem.mp member
  exact reduced_inside _ _ (keeps.get bound (keeps.length_eq ▸ bound)) shown (dedent_inside text _ (List.getElem_mem _))

theorem lines_kept (text : Text) (returns : '\r' ∉ text) :
    KeepsLines text ↔ ∀ line ∈ core text, ∀ c ∈ line, endsLine c = false := by
  constructor
  · intro keeps line member c within
    have counted := keeps.length_eq
    rw [newline_lines_extract, dedent_eq, List.length_map, block_pieces text returns,
      trimmed_kept _ (flat_map_trimmed (core text) (core_trimmed text) (kept_inside text keeps))] at counted
    by_contra ends
    have more := flat_map_more (core text) line member (fun among => returns (core_inside text line member _ among).1)
      ⟨c, within, eq_true_of_ne_false ends⟩
    omega
  · intro inside
    have block : blockOf text = core text := by
      rw [block_pieces text returns, flat_map_whole _ inside, trimmed_kept _ (core_trimmed text)]
    rw [KeepsLines, newline_lines_extract, block]
    exact (dedent_unindents (core text)).imp fun _ _ => .inl

/-- A code text from a document keeps its lines, each without some of its margin, exactly if none of them holds a
next-line control or a line or paragraph separator. -/
theorem extract_keeps_lines_iff (text : Text) (allowed : ∀ c ∈ text, Markup.isAllowed c = true)
    (returns : '\r' ∉ text) :
    KeepsLines text ↔ ∀ line ∈ core text, ∀ c ∈ line, endsWidely c = false := by
  rw [lines_kept text returns]
  refine forall₂_congr fun line member => forall₂_congr fun c within => ?_
  obtain ⟨among, newline⟩ := core_inside text line member c within
  rw [wide_ends c (allowed c among) newline fun same => returns (same ▸ among)]

def lineSeparator : Char := Char.ofNat 0x2028

-- A separator on a blank line at the start, and a block below it.
def paragraphText : Text := lineSeparator :: "
	if ready:
	 
	    start()
"

theorem paragraph_lines_kept : (∀ c ∈ paragraphText, Markup.isAllowed c = true) ∧ '\r' ∉ paragraphText ∧
    core paragraphText = ["	if ready:", "	 ", "	    start()"] ∧ extract paragraphText = "if ready:

    start()" ∧ KeepsLines paragraphText := by
  have allowed : ∀ c ∈ paragraphText, Markup.isAllowed c = true := List.all_eq_true.mp (by decide)
  have apart : ∀ line ∈ core paragraphText, ∀ c ∈ line, endsWidely c = false := by
    have none_ : ((core paragraphText).all fun line => line.all fun c => !endsWidely c) = true := by decide
    simpa using none_
  exact ⟨allowed, by decide, by decide, by decide, (extract_keeps_lines_iff paragraphText allowed (by decide)).mpr apart⟩

-- A string of one separator.
def separatorText : Text := Text.fixed "mark = '" ++ lineSeparator :: ['\'']

theorem separator_splits_line : (∀ c ∈ separatorText, Markup.isAllowed c = true) ∧ '\r' ∉ separatorText ∧
    extract separatorText = "mark = '
'" ∧ ¬ KeepsLines separatorText := by
  refine ⟨List.all_eq_true.mp (by decide), by decide, by decide, fun keeps => ?_⟩
  have counted : (core separatorText).length = (newlineLines (extract separatorText)).length := keeps.length_eq
  have apart : (core separatorText).length ≠ (newlineLines (extract separatorText)).length := by decide
  exact apart counted

end Block

end Statewright.Text
