import Statewright.Proofs.ScanLines

/-!
Spellings. A character of an element's content is written as itself, as a line end, or as a reference. The nodes that
content is read into begin with the characters that it spells, up to the first node that is no text.
-/
set_option autoImplicit false

namespace Statewright.Markup

-- The line of what stands behind a text.
def lineAt (front : Text) : Nat := 1 + front.count '\n'

/-! Spelling. -/

-- What stands in a document for a character of its content.
inductive Spells : Text → Char → Prop
  | plain (c : Char) (apart : c ≠ '<' ∧ c ≠ '&' ∧ c ≠ '\r') : Spells [c] c
  | pair : Spells ['\r', '\n'] '\n'
  | alone : Spells ['\r'] '\n'
  | numeric (text after : Text) (c : Char) (read : numericReference (text ++ after) = some (c, after)) :
      Spells ('&' :: '#' :: text) c
  | named (text name after : Text) (c : Char) (read : namedReference (text ++ after) = some (name, after))
      (known : predefined? name = some c) : Spells ('&' :: text) c

abbrev Spelling := List (Text × Char)

namespace Spelling

def sources (spelling : Spelling) : Text := spelling.flatMap (·.1)

def text (spelling : Spelling) : Text := spelling.map (·.2)

def Faithful (spelling : Spelling) : Prop := ∀ entry ∈ spelling, Spells entry.1 entry.2

@[simp] theorem sources_nil : sources [] = [] := rfl

@[simp] theorem text_nil : text [] = [] := rfl

@[simp] theorem sources_cons (entry : Text × Char) (spelling : Spelling) :
    sources (entry :: spelling) = entry.1 ++ sources spelling := rfl

@[simp] theorem sources_append (spelling more : Spelling) :
    sources (spelling ++ more) = sources spelling ++ sources more :=
  List.flatMap_append

@[simp] theorem text_append (spelling more : Spelling) : text (spelling ++ more) = text spelling ++ text more :=
  List.map_append

end Spelling

open Spelling (sources Faithful)

-- From one place of a text to a later one, by what is spelled between them, with no markup in it.
structure Spelled (cursor next : Cursor) (value : Text) (spelling : Spelling) : Prop where
  faithful : Faithful spelling
  whole : cursor.rest = sources spelling ++ next.rest
  same : value = Spelling.text spelling
  counted : next.line = cursor.line + (sources spelling).count '\n'
  unmarked : '<' ∉ sources spelling

theorem spelled_none (cursor : Cursor) : Spelled cursor cursor [] [] := ⟨nofun, rfl, rfl, rfl, nofun⟩

theorem spelled_more (line after : Nat) (source rest value : Text) (c : Char) (next : Cursor) (spelling : Spelling)
    (spells : Spells source c) (counted : after = line + source.count '\n') (unmarked : '<' ∉ source)
    (further : Spelled ⟨after, rest⟩ next value spelling) :
    Spelled ⟨line, source ++ rest⟩ next (c :: value) ((source, c) :: spelling) where
  faithful := List.forall_mem_cons.mpr ⟨spells, further.faithful⟩
  whole := by
    have rest_ : rest = _ := further.whole
    rw [Spelling.sources_cons, List.append_assoc, ← rest_]
  same := congrArg (c :: ·) further.same
  counted := by
    rw [Spelling.sources_cons, List.count_append, further.counted, counted, Nat.add_assoc]
  unmarked := by
    rw [Spelling.sources_cons, List.mem_append, not_or]
    exact ⟨unmarked, further.unmarked⟩

theorem characters_spell (line : Nat) (text value : Text) (next : Cursor)
    (read : characters line text = .ok (value, next)) : ∃ spelling, Spelled ⟨line, text⟩ next value spelling := by
  fun_induction characters line text generalizing value with
  | case1 line =>
      cases read
      exact ⟨[], spelled_none _⟩
  | case2 => cases read
  | case3 line rest ih =>
      obtain ⟨more, goes, rfl⟩ := map_read _ _ _ _ read
      obtain ⟨_, spelled⟩ := ih more goes
      exact ⟨_, spelled_more line _ ['\r', '\n'] rest more '\n' next _ .pair rfl (by decide) spelled⟩
  | case4 line rest _ ih =>
      obtain ⟨more, goes, rfl⟩ := map_read _ _ _ _ read
      obtain ⟨_, spelled⟩ := ih more goes
      exact ⟨_, spelled_more line _ ['\r'] rest more '\n' next _ .alone rfl (by decide) spelled⟩
  | case5 line c rest =>
      cases read
      exact ⟨[], spelled_none _⟩
  | case6 line c rest _ _ returns marked allowed ih =>
      obtain ⟨more, goes, rfl⟩ := map_read _ _ _ _ read
      obtain ⟨_, spelled⟩ := ih more goes
      rw [Bool.or_eq_true, decide_eq_true_eq, decide_eq_true_eq, not_or] at marked
      refine ⟨_, spelled_more line _ [c] rest more c next _ (.plain c ⟨marked.1, marked.2, returns⟩) ?_
        (by simpa using Ne.symm marked.1) spelled⟩
      by_cases newline : c = '\n' <;> simp [newline]
  | case7 => cases read

-- A reference is spelled by itself.
theorem spelled_alone (line : Nat) (source after : Text) (c : Char) (spells : Spells source c)
    (newline : '\n' ∉ source) (unmarked : '<' ∉ source) :
    Spelled ⟨line, source ++ after⟩ ⟨line, after⟩ [c] [(source, c)] := by
  have counted : line = line + source.count '\n' := by rw [List.count_eq_zero_of_not_mem newline, Nat.add_zero]
  exact spelled_more line line source after [] c _ [] spells counted unmarked (spelled_none _)

theorem numeric_spelled (line : Nat) (text after : Text) (c : Char) (read : numericReference text = some (c, after)) :
    ∃ spelling, Spelled ⟨line, '&' :: '#' :: text⟩ ⟨line, after⟩ [c] spelling := by
  obtain ⟨digits, rfl, newline, unmarked⟩ := numeric_reference_source text after c read
  have spells : Spells ('&' :: '#' :: (digits ++ [';'])) c := .numeric _ after c (by rwa [List.append_assoc])
  have spelled := spelled_alone line _ after c spells (by simp [newline]) (by simp [unmarked])
  have whole : '&' :: '#' :: (digits ++ [';']) ++ after = '&' :: '#' :: (digits ++ ';' :: after) := by simp
  exact ⟨_, whole ▸ spelled⟩

theorem named_spelled (line : Nat) (text name after : Text) (c : Char) (read : namedReference text = some (name, after))
    (known : predefined? name = some c) : ∃ spelling, Spelled ⟨line, '&' :: text⟩ ⟨line, after⟩ [c] spelling := by
  obtain ⟨rfl, newline, unmarked⟩ := named_reference_source text name after read
  have spells : Spells ('&' :: (name ++ [';'])) c := .named _ name after c (by rwa [List.append_assoc]) known
  have spelled := spelled_alone line _ after c spells (by simp [newline]) (by simp [unmarked])
  have whole : '&' :: (name ++ [';']) ++ after = '&' :: (name ++ ';' :: after) := by simp
  exact ⟨_, whole ▸ spelled⟩

/-! Content. -/

theorem leading_texts (nodes more : List Node) (only : ∀ node ∈ nodes, node.text? ≠ none) :
    Element.leading (nodes ++ more) = Element.leading nodes ++ Element.leading more := by
  induction nodes with
  | nil => rfl
  | cons node nodes ih =>
      rw [List.forall_mem_cons] at only
      cases node with
      | text value => simp [Element.leading, ih only.2]
      | _ => exact absurd rfl only.1

theorem leading_broken (nodes more : List Node) (broken : ∃ node ∈ nodes, node.text? = none) :
    Element.leading (nodes ++ more) = Element.leading nodes := by
  induction nodes with
  | nil => simp at broken
  | cons node nodes ih =>
      cases node with
      | text value =>
          have further : ∃ node ∈ nodes, node.text? = none := by simpa [Node.text?] using broken
          simp [Element.leading, ih further]
      | _ => rfl

-- The nodes that content has been read into, the last of them first, begin as it is spelled. They hold nothing but
-- text, unless some of the content is spelled no more.
def Spelt (nodes : List Node) (content : Text) : Prop :=
  ∃ spelling rest, Faithful spelling ∧ content = sources spelling ++ rest ∧
    Element.leading nodes.reverse = Spelling.text spelling ∧
    (rest = [] ∧ (∀ node ∈ nodes, node.text? ≠ none) ∨ ∃ node ∈ nodes, node.text? = none)

theorem reverse_text (nodes : List Node) (value : Text) (only : ∀ node ∈ nodes, node.text? ≠ none) :
    Element.leading (Node.text value :: nodes).reverse = Element.leading nodes.reverse ++ value := by
  rw [List.reverse_cons, leading_texts _ _ fun node member => only node (List.mem_reverse.mp member)]
  simp [Element.leading]

theorem reverse_broken (node : Node) (nodes : List Node) (broken : ∃ node ∈ nodes, node.text? = none) :
    Element.leading (node :: nodes).reverse = Element.leading nodes.reverse := by
  obtain ⟨other, member, none_⟩ := broken
  rw [List.reverse_cons, leading_broken _ _ ⟨other, List.mem_reverse.mpr member, none_⟩]

theorem push_text_spelled (frame : Frame) (value : Text) (only : ∀ node ∈ frame.content, node.text? ≠ none) :
    Element.leading (frame.pushText value).content.reverse = Element.leading frame.content.reverse ++ value ∧
      ∀ node ∈ (frame.pushText value).content, node.text? ≠ none := by
  obtain ⟨tag, attributes, line, bindings, content⟩ := frame
  unfold Frame.pushText Frame.push
  split
  · rename_i empty
    rw [List.isEmpty_iff.mp empty, List.append_nil]
    exact ⟨rfl, only⟩
  · split
    · rename_i before more first
      dsimp only at first
      subst first
      rw [List.forall_mem_cons] at only
      refine ⟨?_, List.forall_mem_cons.mpr ⟨nofun, only.2⟩⟩
      rw [reverse_text _ _ only.2, reverse_text _ _ only.2, List.append_assoc]
    · exact ⟨reverse_text _ _ only, List.forall_mem_cons.mpr ⟨nofun, only⟩⟩

theorem push_text_broken (frame : Frame) (value : Text) (broken : ∃ node ∈ frame.content, node.text? = none) :
    Element.leading (frame.pushText value).content.reverse = Element.leading frame.content.reverse ∧
      ∃ node ∈ (frame.pushText value).content, node.text? = none := by
  obtain ⟨tag, attributes, line, bindings, content⟩ := frame
  unfold Frame.pushText Frame.push
  split
  · exact ⟨rfl, broken⟩
  · split
    · rename_i before more first
      dsimp only at first
      subst first
      have further : ∃ node ∈ more, node.text? = none := by simpa [Node.text?] using broken
      refine ⟨?_, further.imp fun node held => ⟨List.mem_cons_of_mem _ held.1, held.2⟩⟩
      exact (reverse_broken _ _ further).trans (reverse_broken _ _ further).symm
    · exact ⟨reverse_broken _ _ broken, broken.imp fun node held => ⟨List.mem_cons_of_mem _ held.1, held.2⟩⟩

theorem spelt_text (frame : Frame) (content value : Text) (more : Spelling) (faithful : Faithful more)
    (same : value = Spelling.text more) (spelt : Spelt frame.content content) :
    Spelt (frame.pushText value).content (content ++ sources more) := by
  obtain ⟨spelling, rest, known, rfl, leads, ⟨rfl, only⟩ | broken⟩ := spelt
  · obtain ⟨longer, still⟩ := push_text_spelled frame value only
    refine ⟨spelling ++ more, [], List.forall_mem_append.mpr ⟨known, faithful⟩, by simp, ?_, .inl ⟨rfl, still⟩⟩
    rw [longer, leads, same, Spelling.text_append]
  · obtain ⟨kept, still⟩ := push_text_broken frame value broken
    exact ⟨spelling, rest ++ sources more, known, by simp, by rw [kept, leads], .inr still⟩

theorem spelt_other (frame : Frame) (content source : Text) (node : Node) (other : node.text? = none)
    (spelt : Spelt frame.content content) : Spelt (frame.push node).content (content ++ source) := by
  obtain ⟨spelling, rest, known, rfl, leads, kept⟩ := spelt
  refine ⟨spelling, rest ++ source, known, by simp, ?_, .inr ⟨node, List.mem_cons_self, other⟩⟩
  rw [← leads]
  rcases kept with ⟨_, only⟩ | broken
  · change Element.leading (node :: frame.content).reverse = _
    rw [List.reverse_cons, leading_texts _ _ fun node member => only node (List.mem_reverse.mp member)]
    cases node with
    | text value => cases other
    | _ => exact List.append_nil _
  · exact reverse_broken _ _ broken

end Statewright.Markup
