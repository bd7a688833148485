import Statewright.Proofs.BodyBlocks
import Statewright.Proofs.BodyLines
import Statewright.Proofs.FollowedTokens
import Statewright.Proofs.Generation
import Statewright.Proofs.LabelledSpecs

/-!
Labels at the top of modules. The name of a specification's file stands in a comment of its module just as it is: a name
that does not leave its line changes that comment alone, and what a name has behind a line end is read as code.
-/
set_option autoImplicit false

namespace Statewright

namespace Text

theorem split_textOf (lines : List Text) (within : ∀ line ∈ lines, '\n' ∉ line) (rest : Text) :
    splitAt '\n' (Emission.textOf lines ++ rest) = lines ++ splitAt '\n' rest := by
  induction lines with
  | nil => rfl
  | cons line lines ih =>
      rw [Emission.text_of_cons, List.append_assoc, List.cons_append, split_at_mark '\n' line _ (within line List.mem_cons_self),
        ih fun line member => within line (List.mem_cons_of_mem _ member)]
      rfl

theorem textOf_split (text : Text) : Emission.textOf (splitAt '\n' text) = text ++ ['\n'] := by
  induction text with
  | nil => rfl
  | cons c text ih =>
      rw [splitAt]
      split
      · rename_i same
        subst same
        exact congrArg ('\n' :: ·) ih
      · cases split_ : splitAt '\n' text with
        | nil => exact absurd split_ (split_nonempty '\n' text)
        | cons piece pieces =>
            rw [split_] at ih
            exact congrArg (c :: ·) ih

end Text

namespace Code

open Emission (textOf)
open Lexer

/-! ## Lines of code -/

-- The last line of a text that ends with a line end is the empty one behind it.
def codeLines (text : Text) : List Text := Text.splitAt '\n' (evenLineEnds text)

-- The lines of a text that a line end follows; a carriage return right before it is a part of it.
def endedLines (text : Text) : List Text := (codeLines (text ++ ['\n'])).dropLast

theorem even_line_end (text rest : Text) :
    evenLineEnds (text ++ '\n' :: rest) = evenLineEnds (text ++ ['\n']) ++ evenLineEnds rest := by
  fun_induction evenLineEnds text with
  | case1 => rfl
  | case2 text ih => exact congrArg ('\n' :: ·) ih
  | case3 text alone ih =>
      cases text with
      | nil => rfl
      | cons c text =>
          have still (more after : Text) : c :: (text ++ more) ≠ '\n' :: after := fun same =>
            alone text (by rw [(List.cons.inj same).1])
          simp only [List.cons_append] at ih ⊢
          rw [even_return _ (still _), even_return _ (still _), ih]
          rfl
  | case4 c text _ other ih =>
      rw [List.cons_append, List.cons_append, even_other c _ other, even_other c _ other, ih]
      rfl

theorem endedLines_kept (text : Text) :
    ∃ kept, evenLineEnds (text ++ ['\n']) = kept ++ ['\n'] ∧ endedLines text = Text.splitAt '\n' kept := by
  have kept : ∃ kept, evenLineEnds (text ++ ['\n']) = kept ++ ['\n'] := by
    fun_induction evenLineEnds text with
    | case1 => exact ⟨[], rfl⟩
    | case2 text ih =>
        obtain ⟨kept, same⟩ := ih
        exact ⟨'\n' :: kept, congrArg ('\n' :: ·) same⟩
    | case3 text alone ih =>
        obtain ⟨kept, same⟩ := ih
        cases text with
        | nil => exact ⟨[], rfl⟩
        | cons c text =>
            refine ⟨'\n' :: kept, ?_⟩
            rw [List.cons_append, even_return _ fun after same => alone text (by rw [(List.cons.inj same).1]), same]
            rfl
    | case4 c text _ other ih =>
        obtain ⟨kept, same⟩ := ih
        refine ⟨c :: kept, ?_⟩
        rw [List.cons_append, even_other c _ other, same]
        rfl
  obtain ⟨kept, same⟩ := kept
  refine ⟨kept, same, ?_⟩
  rw [endedLines, codeLines, same, Text.split_append]
  exact List.dropLast_concat

theorem even_ended (text : Text) : evenLineEnds (text ++ ['\n']) = textOf (endedLines text) := by
  obtain ⟨kept, same, lines⟩ := endedLines_kept text
  rw [same, lines, Text.textOf_split]

theorem endedLines_within (text : Text) : ∀ line ∈ endedLines text, '\n' ∉ line := fun line member inside =>
  (Text.split_inside '\n' _ line (List.dropLast_subset _ member) '\n' inside).2 rfl

theorem endedLines_behind (before text : Text) (plain : '\r' ∉ before) (within : '\n' ∉ before) :
    endedLines (before ++ text) = (before ++ (endedLines text).headD []) :: (endedLines text).tail := by
  obtain ⟨kept, same, lines⟩ := endedLines_kept text
  have whole : evenLineEnds (before ++ text ++ ['\n']) = (before ++ kept) ++ ['\n'] := by
    rw [List.append_assoc, even_after_plain before _ plain, same, List.append_assoc]
  rw [endedLines, codeLines, whole, Text.split_append, lines, ← Text.split_behind '\n' before kept within]
  exact List.dropLast_concat

-- Texts that each end in a line end, and what follows them.
theorem even_lines (texts : List Text) (rest : Text) :
    evenLineEnds (textOf texts ++ rest) = textOf (texts.flatMap endedLines) ++ evenLineEnds rest := by
  induction texts with
  | nil => rfl
  | cons text texts ih =>
      rw [Emission.text_of_cons, List.append_assoc, List.cons_append, even_line_end, even_ended, ih, List.flatMap_cons]
      simp [textOf]

theorem flatMap_within (texts : List Text) : ∀ line ∈ texts.flatMap endedLines, '\n' ∉ line := by
  intro line member
  obtain ⟨text, -, inside⟩ := List.mem_flatMap.mp member
  exact endedLines_within text line inside

theorem codeLines_text (texts : List Text) (rest : Text) :
    codeLines (textOf texts ++ rest) = texts.flatMap endedLines ++ codeLines rest := by
  rw [codeLines, even_lines, Text.split_textOf _ (flatMap_within texts)]
  rfl

-- The lines that begin inside a text.
def innerLines (text : Text) : List Text := (endedLines text).tail

/-! ## Comments -/

def Commented (line : Text) : Prop := line.head? = some '#'

instance (line : Text) : Decidable (Commented line) := inferInstanceAs (Decidable (_ = _))

theorem comment_passes (line : Nat) (text rest : Text) (filled : rest ≠ []) (within : '\n' ∉ text) :
    tokensFrom ⟨true, .start line, '#' :: (text ++ '\n' :: rest)⟩ = tokensFrom ⟨true, .start (line + 1), rest⟩ := by
  have left : ('#' :: (text ++ '\n' :: rest)).dropWhile (· != '\n') = '\n' :: rest := by
    rw [← List.cons_append, List.dropWhile_append_of_pos]
    · rfl
    · intro c member
      have apart : c ≠ '\n' := by
        rintro rfl
        rcases List.mem_cons.mp member with same | inside
        · cases same
        · exact within inside
      simpa using apart
  have stepped : step ⟨true, .start line, '#' :: (text ++ '\n' :: rest)⟩ = (State.start line).nextLine rest [] := by
    change skipLine (.start line) ('#' :: (text ++ '\n' :: rest)) = _
    rw [skipLine, left]
  have next : (State.start line).advance rest = .start (line + 1) := by
    cases rest with
    | nil => exact absurd rfl filled
    | cons c rest => rfl
  rw [tokensFrom_next _ _ _ stepped, next]
  rfl

theorem comments_pass (lines : List Text) (comments : ∀ line ∈ lines, Commented line ∧ '\n' ∉ line) (number : Nat)
    (rest : Text) (filled : rest ≠ []) :
    tokensFrom ⟨true, .start number, textOf lines ++ rest⟩ = tokensFrom ⟨true, .start (number + lines.length), rest⟩ := by
  induction lines generalizing number with
  | nil => rfl
  | cons line lines ih =>
      obtain ⟨comment, within⟩ := comments line List.mem_cons_self
      obtain ⟨text, rfl⟩ := List.head?_eq_some_iff.mp comment
      rw [Emission.text_of_cons, List.append_assoc]
      refine (comment_passes number text (textOf lines ++ rest) (by simp [filled]) fun inside =>
        within (List.mem_cons_of_mem _ inside)).trans ?_
      rw [ih (fun line member => comments line (List.mem_cons_of_mem _ member)) (number + 1), List.length_cons,
        Nat.add_assoc, Nat.add_comm 1]

theorem ended_append (front rest : Text) (filled : rest ≠ []) : ended (front ++ rest) = front ++ ended rest := by
  have some_ : (front ++ rest).isEmpty = false ∧ rest.isEmpty = false := by
    simp [filled]
  unfold ended
  rw [some_.1, some_.2, List.getLast?_append_of_ne_nil _ filled]
  split
  · rfl
  · rw [List.append_assoc]

-- Lines of comments at the top of a text count as lines, and are no tokens.
theorem tokens_below (texts : List Text) (comments : ∀ line ∈ texts.flatMap endedLines, Commented line) (rest : Text) :
    tokensOfLines (textOf texts ++ '\n' :: rest) =
      tokensFrom ⟨true, .start (1 + (texts.flatMap endedLines).length), ended ('\n' :: evenLineEnds rest)⟩ := by
  have below : evenLineEnds ('\n' :: rest) = '\n' :: evenLineEnds rest := even_other '\n' rest (by decide)
  rw [tokens_of_even, scan_text, even_lines, below, ended_append _ _ (List.cons_ne_nil _ _), ended_newline]
  exact comments_pass _ (fun line member => ⟨comments line member, flatMap_within texts line member⟩) 1 _
    (List.cons_ne_nil _ _)

end Code

namespace Emission

open Code (codeLines endedLines innerLines Commented)

/-! ## Headers -/

-- A header is five lines; the label is in the fourth.
theorem header_text (source : Option Text) : header source = textOf (headerLines source) := by
  simp [header, headerLines, Text.unlines, Text.join, textOf]

def Generated (line : Text) : Prop := ("# Generated by machine-factory" : Text) <+: line

theorem generator_lines (label : Text) :
    ∃ line, Generated line ∧ endedLines ("# " ++ generatorLine (some label)) = line :: innerLines label := by
  cases label with
  | nil => exact ⟨"# " ++ generatorLine none, ⟨[], rfl⟩, by decide +kernel⟩
  | cons c label =>
      refine ⟨("# Generated by machine-factory from: " : Text) ++ (endedLines (c :: label)).headD [], ?_, ?_⟩
      · exact ⟨(" from: " : Text) ++ (endedLines (c :: label)).headD [], rfl⟩
      · exact Code.endedLines_behind ("# Generated by machine-factory from: ") (c :: label) (by decide +kernel)
          (by decide +kernel)

theorem header_parts (source : Option Text) :
    headerLines source = (headerLines none).take 3 ++ ("# " ++ generatorLine source) :: (headerLines none).drop 4 := rfl

theorem header_lines (label : Text) :
    ∃ line, Generated line ∧ (headerLines (some label)).flatMap endedLines =
      (headerLines none).take 3 ++ line :: (innerLines label ++ (headerLines none).drop 4) := by
  obtain ⟨line, generated, lines⟩ := generator_lines label
  have before : ((headerLines none).take 3).flatMap endedLines = (headerLines none).take 3 := by decide +kernel
  have after : ((headerLines none).drop 4).flatMap endedLines = (headerLines none).drop 4 := by decide +kernel
  refine ⟨line, generated, ?_⟩
  rw [header_parts, List.flatMap_append, List.flatMap_cons, before, after, lines]
  rfl

theorem generated_commented (line : Text) (generated : Generated line) : Commented line := by
  obtain ⟨rest, rfl⟩ := generated
  rfl

theorem header_commented_iff (label : Text) :
    (∀ line ∈ (headerLines (some label)).flatMap endedLines, Commented line) ↔
      ∀ line ∈ innerLines label, Commented line := by
  obtain ⟨line, generated, lines⟩ := header_lines label
  have fixed_ : ∀ line ∈ headerLines none, Commented line := by decide +kernel
  rw [lines]
  constructor
  · exact fun each line member => each line (by simp [member])
  · intro each other member
    simp only [List.mem_append, List.mem_cons] at member
    rcases member with first | rfl | inner | last
    · exact fixed_ other (List.take_subset _ _ first)
    · exact generated_commented _ generated
    · exact each other inner
    · exact fixed_ other (List.drop_subset _ _ last)

theorem header_null (label : Text) :
    (header (some label)).contains (Char.ofNat 0) = label.contains (Char.ofNat 0) := by
  cases label with
  | nil => decide +kernel
  | cons c label =>
      have written : header (some (c :: label)) = textOf ((headerLines none).take 3) ++
          (("# Generated by machine-factory from: " : Text) ++ ((c :: label) ++
            ('\n' :: textOf ((headerLines none).drop 4)))) := by
        rw [header_text, header_parts]
        simp only [textOf, List.flatMap_append, List.flatMap_cons, List.append_assoc]
        rfl
      have before : (textOf ((headerLines none).take 3)).contains (Char.ofNat 0) = false := by decide +kernel
      have middle : ("# Generated by machine-factory from: " : Text).contains (Char.ofNat 0) = false := by decide +kernel
      have after : ('\n' :: textOf ((headerLines none).drop 4)).contains (Char.ofNat 0) = false := by decide +kernel
      rw [written, List.contains_append, List.contains_append, List.contains_append, before, middle, after]
      simp

end Emission

open Code (Reads readStatements codeLines endedLines innerLines Commented)
open Emission (label? fileName header headerLines textOf Generated)

/-! ## Modules -/

-- What a module says that it is generated from.
def sourceName (source : Option Text) : Text := ((label? source).map fileName).getD []

-- No line begins inside the name, and code that holds it is not refused as a whole.
def StaysOnLine (name : Text) : Prop := innerLines name = [] ∧ name.contains (Char.ofNat 0) = false

instance (name : Text) : Decidable (StaysOnLine name) := inferInstanceAs (Decidable (_ ∧ _))

theorem stays_of_plain (name : Text) (plain : ∀ c ∈ name, c ≠ '\n' ∧ c ≠ '\r' ∧ c ≠ Char.ofNat 0) :
    StaysOnLine name := by
  constructor
  · have alone := Code.endedLines_behind name [] (fun inside => (plain _ inside).2.1 rfl)
      (fun inside => (plain _ inside).1 rfl)
    rw [List.append_nil] at alone
    rw [innerLines, alone]
    rfl
  · rw [← Bool.not_eq_true, List.contains_iff_mem]
    exact fun inside => (plain _ inside).2.2 rfl

theorem header_named (source : Option Text) :
    header ((label? source).map fileName) = header (some (sourceName source)) := by
  unfold sourceName
  cases label? source <;> rfl

theorem module_named (spec : Spec) (source : Option Text) (lines : Emission.Lines) :
    (spec.labelled source).moduleText lines =
      textOf (headerLines (some (sourceName source))) ++ '\n' :: textOf lines := by
  change header ((label? source).map fileName) ++ ['\n'] ++ textOf lines = _
  rw [header_named, Emission.header_text, List.append_assoc]
  rfl

theorem refused_null (text : Text) (null : text.contains (Char.ofNat 0) = true) : readStatements text = .error 0 := by
  unfold readStatements Code.readStatementsIn Code.refuseNull
  rw [if_pos null]
  rfl

-- Below a header whose name stays on its line, code reads as below any other such header.
theorem read_below (name other : Text) (stays : StaysOnLine name) (also : StaysOnLine other) (body : Text) :
    readStatements (textOf (headerLines (some name)) ++ '\n' :: body) =
      readStatements (textOf (headerLines (some other)) ++ '\n' :: body) := by
  have tokens (name : Text) (stays : StaysOnLine name) :
      Code.tokensOfLines (textOf (headerLines (some name)) ++ '\n' :: body) =
        Code.Lexer.tokensFrom ⟨true, .start 6, Code.ended ('\n' :: Code.evenLineEnds body)⟩ := by
    have comments := (Emission.header_commented_iff name).mpr (by simp [stays.1])
    obtain ⟨line, -, lines⟩ := Emission.header_lines name
    rw [Code.tokens_below _ comments, lines, stays.1]
    rfl
  have nulls (name : Text) (stays : StaysOnLine name) :
      (textOf (headerLines (some name)) ++ '\n' :: body).contains (Char.ofNat 0) =
        ('\n' :: body).contains (Char.ofNat 0) := by
    rw [List.contains_append, ← Emission.header_text, Emission.header_null, stays.2]
    rfl
  unfold readStatements Code.readStatementsIn Code.refuseNull
  rw [tokens name stays, tokens other also, nulls name stays, nulls other also]

-- Two modules that differ at most inside the line that says what they are generated from, their fourth.
structure DifferInLabel (one other : Text) : Prop where
  texts : ∃ before first second after, one = before ++ first ++ after ∧ other = before ++ second ++ after ∧
    innerLines first = [] ∧ innerLines second = []
  lines : ∃ before first second after, before.length = 3 ∧ Generated first ∧ Generated second ∧
    codeLines one = before ++ first :: after ∧ codeLines other = before ++ second :: after

theorem lines_below (name body : Text) :
    ∃ line, Generated line ∧ codeLines (textOf (headerLines (some name)) ++ '\n' :: body) =
      (headerLines none).take 3 ++ line :: (innerLines name ++ ((headerLines none).drop 4 ++ codeLines ('\n' :: body))) := by
  obtain ⟨line, generated, lines⟩ := Emission.header_lines name
  refine ⟨line, generated, ?_⟩
  rw [Code.codeLines_text, lines]
  simp only [List.append_assoc, List.cons_append]

-- A text that renders is read, checked and written with every label; only reading the module again can still fail.
theorem renders_labelled (text : Text) (one : Option Text) (code : Text) (rendered : renderText text one = .ok code) :
    ∃ (spec : Spec) (lines : Emission.Lines), ∀ other code', renderText text other = .ok code' ↔
      code' = (spec.labelled other).moduleText lines ∧ Reads (readStatements ((spec.labelled other).moduleText lines)) := by
  obtain ⟨spec, table, read, prepared, written⟩ := rendered_through text one code rendered
  unfold Spec.emit at written
  cases lined : spec.moduleLines table with
  | error line =>
      rw [lined] at written
      cases written
  | ok lines =>
      refine ⟨spec, lines, fun other code' => ?_⟩
      have same : renderText text other =
          (spec.labelled other).checkModule ((spec.labelled other).moduleText lines) := by
        unfold renderText
        rw [read_labelled text one other, read]
        exact render_of_valid _ table lines ((prepare_labelled spec other).trans prepared)
          ((module_lines_labelled spec other table).trans lined)
      rw [same]
      unfold Spec.checkModule Reads
      cases readStatements ((spec.labelled other).moduleText lines) with
      | error line => simp
      | ok statements => simp [eq_comm]

theorem differ_of_stays (name other body : Text) (stays : StaysOnLine name) (also : StaysOnLine other) :
    DifferInLabel (textOf (headerLines (some name)) ++ '\n' :: body)
      (textOf (headerLines (some other)) ++ '\n' :: body) := by
  obtain ⟨first, generated, lines⟩ := lines_below name body
  obtain ⟨second, generated', lines'⟩ := lines_below other body
  constructor
  case texts =>
    have whole (name : Text) : textOf (headerLines (some name)) ++ '\n' :: body =
        textOf ((headerLines none).take 3) ++ ("# " ++ Emission.generatorLine (some name)) ++
          ('\n' :: (textOf ((headerLines none).drop 4) ++ '\n' :: body)) := by
      rw [Emission.header_parts]
      simp only [textOf, List.flatMap_append, List.flatMap_cons, List.append_assoc, List.cons_append, List.nil_append]
    have inside (name : Text) (stays : StaysOnLine name) : innerLines ("# " ++ Emission.generatorLine (some name)) = [] := by
      obtain ⟨line, -, same⟩ := Emission.generator_lines name
      rw [innerLines, same]
      exact stays.1
    exact ⟨_, _, _, _, whole name, whole other, inside name stays, inside other also⟩
  case lines =>
    rw [stays.1] at lines
    rw [also.1] at lines'
    exact ⟨_, first, second, _, rfl, generated, generated', lines, lines'⟩

theorem stays_of_differ (name other body : Text) (stays : StaysOnLine name)
    (differ : DifferInLabel (textOf (headerLines (some name)) ++ '\n' :: body)
      (textOf (headerLines (some other)) ++ '\n' :: body)) : innerLines other = [] := by
  obtain ⟨before, first, second, after, -, -, -, lines, lines'⟩ := differ.lines
  obtain ⟨line, -, written⟩ := lines_below name body
  obtain ⟨line', -, written'⟩ := lines_below other body
  have count := congrArg List.length (lines.symm.trans written)
  have count' := congrArg List.length (lines'.symm.trans written')
  simp only [List.length_append, List.length_cons, stays.1, List.length_nil] at count count'
  exact List.length_eq_zero_iff.mp (by omega)

theorem stays_of_rendered (text : Text) (one other : Option Text) (stays : StaysOnLine (sourceName one)) (code code' : Text)
    (rendered : renderText text one = .ok code) (rendered' : renderText text other = .ok code')
    (differ : DifferInLabel code code') : StaysOnLine (sourceName other) := by
  obtain ⟨spec, lines, renders⟩ := renders_labelled text one code rendered
  obtain ⟨rfl, -⟩ := (renders one code).mp rendered
  obtain ⟨rfl, ⟨statements, reads⟩⟩ := (renders other code').mp rendered'
  rw [module_named] at reads
  rw [module_named, module_named] at differ
  refine ⟨stays_of_differ _ _ _ stays differ, ?_⟩
  cases null : (sourceName other).contains (Char.ofNat 0) with
  | false => rfl
  | true =>
      have found : (textOf (headerLines (some (sourceName other))) ++ '\n' :: textOf lines).contains (Char.ofNat 0) = true := by
        rw [List.contains_append, ← Emission.header_text, Emission.header_null, null]
        rfl
      rw [refused_null _ found] at reads
      cases reads

theorem rendered_of_stays (text : Text) (one other : Option Text) (stays : StaysOnLine (sourceName one))
    (also : StaysOnLine (sourceName other)) (code : Text) (rendered : renderText text one = .ok code) :
    ∃ code', renderText text other = .ok code' ∧ DifferInLabel code code' := by
  obtain ⟨spec, lines, renders⟩ := renders_labelled text one code rendered
  obtain ⟨rfl, reads⟩ := (renders one code).mp rendered
  refine ⟨_, (renders other _).mpr ⟨rfl, ?_⟩, ?_⟩
  · rw [module_named] at reads ⊢
    rw [read_below _ _ also stays]
    exact reads
  · rw [module_named, module_named]
    exact differ_of_stays _ _ _ stays also

/-- Where a text renders with a label whose file name stays on its line, another label makes no difference but in the line
that says what the module is generated from exactly if its file name stays on its line as well: it has no line end but for
a carriage return at its end, and no null character. A header is all comments exactly if what its label has behind line
ends is. -/
theorem label_inert_iff (text : Text) (one : Option Text) (stays : StaysOnLine (sourceName one)) (code : Text)
    (rendered : renderText text one = .ok code) :
    (∀ other, (∃ code', renderText text other = .ok code' ∧ DifferInLabel code code') ↔
      StaysOnLine (sourceName other)) ∧
      ∀ label, (∀ line ∈ (codeLines (header (some label))).dropLast, Commented line) ↔
        ∀ line ∈ innerLines label, Commented line := by
  constructor
  · intro other
    constructor
    · rintro ⟨code', rendered', differ⟩
      exact stays_of_rendered text one other stays code code' rendered rendered' differ
    · exact fun also => rendered_of_stays text one other stays also code rendered
  · intro label
    have whole : codeLines (header (some label)) = (headerLines (some label)).flatMap endedLines ++ [[]] := by
      have lines := Code.codeLines_text (headerLines (some label)) []
      rwa [List.append_nil, ← Emission.header_text] at lines
    rw [whole, List.dropLast_concat]
    exact Emission.header_commented_iff label

def kilnText : Text :=
  Text.fixed "<deterministic_state_machine name=\"Kiln\"><context type=\"int\"/><states><state name=\"Cold\"/></states>" ++
    Text.fixed "</deterministic_state_machine>"

theorem kiln_renders : (renderText kilnText (some "kiln.xml")).isOk = true := by decide +kernel

theorem kiln_rendered : ∃ code, renderText kilnText (some "kiln.xml") = .ok code := by
  have renders := kiln_renders
  cases rendered : renderText kilnText (some "kiln.xml") with
  | error failure =>
      rw [rendered] at renders
      cases renders
  | ok code => exact ⟨code, rfl⟩

theorem kiln_label_inert :
    StaysOnLine (sourceName (some "kiln.xml")) ∧ ∃ code code', renderText kilnText (some "kiln.xml") = .ok code ∧
      renderText kilnText (some "old/kiln #2.xml") = .ok code' ∧ DifferInLabel code code' := by
  have stays : StaysOnLine (sourceName (some "kiln.xml")) := by decide +kernel
  obtain ⟨code, rendered⟩ := kiln_rendered
  obtain ⟨code', rendered', differ⟩ :=
    ((label_inert_iff kilnText (some "kiln.xml") stays code rendered).1 (some "old/kiln #2.xml")).mpr (by decide +kernel)
  exact ⟨stays, code, code', rendered, rendered', differ⟩

-- What stands behind a line end of a label is a line of code.
theorem kiln_label_read :
    (¬ ∀ one other : Text, one ≠ [] → other ≠ [] → ∀ code, renderText kilnText (some one) = .ok code →
      ∃ code', renderText kilnText (some other) = .ok code' ∧ DifferInLabel code code') ∧
      (codeLines (header (some "a\nimport os")))[4]? = some (Text.fixed "import os") ∧
        ¬ ∀ line ∈ (codeLines (header (some "a\nimport os"))).dropLast, Commented line := by
  refine ⟨fun all => ?_, by decide +kernel, by decide +kernel⟩
  obtain ⟨code, rendered⟩ := kiln_rendered
  obtain ⟨code', rendered', differ⟩ := all "kiln.xml" "a\nimport os" (by decide) (by decide) code rendered
  have stays := stays_of_rendered kilnText (some "kiln.xml") (some "a\nimport os") (by decide +kernel) code code' rendered
    rendered' differ
  exact absurd stays (by decide +kernel)

end Statewright
