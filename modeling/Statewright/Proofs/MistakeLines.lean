import Statewright.Proofs.CodeTexts
import Statewright.Proofs.DocumentLines
import Statewright.Proofs.Identifiers
import Statewright.Proofs.Reindentation

/-!
Lines on which mistakes in bodies are reported. A mistake is reported as far below the line of its element as it stands
below the first line of the code text, and so above its own line if blank lines are left out in front of that.
-/
set_option autoImplicit false

namespace Statewright

namespace Text

-- Whole lines that end with line feeds are as many as these.
theorem cut_newlines (pieces : List (Text × Text)) (cut : Cut pieces) (count : Nat) (bound : count < pieces.length)
    (fed : ∀ c ∈ joined (pieces.take count), endsLine c = true → c = '\n') :
    (joined (pieces.take count)).count '\n' = count := by
  have plain : ∀ line : Text, (∀ c ∈ line, endsLine c = false) → line.count '\n' = 0 := fun line inside =>
    List.count_eq_zero_of_not_mem fun member => Bool.false_ne_true (inside '\n' member).symm
  induction cut generalizing count with
  | nil => cases bound
  | last line inside filled =>
      obtain rfl : count = 0 := Nat.lt_one_iff.mp bound
      rfl
  | pair line rest inside further ih =>
      cases count with
      | zero => rfl
      | succ count =>
          rw [List.take_succ_cons, joined_cons] at fed
          exact absurd (fed '\r' (by simp) rfl) (by decide)
  | ends line c rest inside ends alone further ih =>
      cases count with
      | zero => rfl
      | succ count =>
          rw [List.take_succ_cons, joined_cons] at fed ⊢
          obtain rfl := fed c (by simp) ends
          have others := ih count (Nat.lt_of_succ_lt_succ bound) fun c member => fed c (by simp [member])
          rw [List.count_append, List.count_append, plain line inside, others]
          simp [Nat.add_comm]

namespace Block

-- How many blank lines at the start of a text its code text is without.
def leadingBlanks (text : Text) : Nat := ((lines text).takeWhile blank).length

theorem block_line (text : Text) (i : Nat) (line : Text) (found : (blockOf text)[i]? = some line) :
    (lines text)[leadingBlanks text + i]? = some line := by
  obtain ⟨after, whole, _⟩ := ends_parts (lines text)
  rw [whole, List.append_assoc, leadingBlanks, List.getElem?_append_right (Nat.le_add_right _ _),
    Nat.add_sub_cancel_left]
  obtain ⟨bound, _⟩ := List.getElem?_eq_some_iff.mp found
  exact (List.getElem?_append_left bound).trans found

-- A line of a code text is one of the text's own, without some of its margin.
theorem extract_line (text : Text) (i : Nat) (bound : i < (lines (extract text)).length) :
    ∃ own line, (lines text)[leadingBlanks text + i]? = some own ∧ (lines (extract text))[i]? = some line ∧
      Unindents own line := by
  rw [extract_lines] at bound ⊢
  have each := dedent_unindents (blockOf text)
  have also : i < (blockOf text).length := each.length_eq ▸ bound
  exact ⟨_, _, block_line text i _ (List.getElem?_eq_getElem also), List.getElem?_eq_getElem bound, each.get also bound⟩

end Block

theorem line_between (text : Text) (i : Nat) (own : Text) (found : (lines text)[i]? = some own) :
    ∃ rest, text = joined ((endedLines text).take i) ++ own ++ rest := by
  rw [← ended_lines_lines, List.getElem?_map] at found
  obtain ⟨⟨line, end_⟩, stands, rfl⟩ := Option.map_eq_some_iff.mp found
  obtain ⟨bound, same⟩ := List.getElem?_eq_some_iff.mp stands
  refine ⟨end_ ++ joined ((endedLines text).drop (i + 1)), ?_⟩
  have parts := List.take_append_drop i (endedLines text)
  rw [List.drop_eq_getElem_cons bound, same] at parts
  conv_lhs => rw [← ended_lines_joined text, ← parts]
  simp [joined]

end Text

namespace Markup

open Spelling (sources Faithful)

-- Where every line end is a line feed of the document.
def Fed (spelling : Spelling) : Prop := ∀ entry ∈ spelling, Text.endsLine entry.2 = true → '\n' ∈ entry.1

theorem spells_newline (source : Text) (c : Char) (spells : Spells source c) (member : '\n' ∈ source) :
    c = '\n' ∧ source.count '\n' = 1 := by
  have ended (text before after : Text) (inside : '\n' ∉ before) (whole : text ++ after = before ++ ';' :: after) :
      '\n' ∉ text := by
    obtain rfl : text = before ++ [';'] := List.append_cancel_right (whole.trans (by simp))
    simp [inside]
  cases spells with
  | plain _ apart =>
      obtain rfl := List.mem_singleton.mp member
      exact ⟨rfl, rfl⟩
  | pair => exact ⟨rfl, rfl⟩
  | alone => simp at member
  | numeric text after _ read =>
      obtain ⟨digits, whole, inside, _⟩ := numeric_reference_source _ _ _ read
      simp [ended text digits after inside whole] at member
  | named text name after _ read known =>
      obtain ⟨whole, inside, _⟩ := named_reference_source _ _ _ read
      simp [ended text name after inside whole] at member

theorem fed_newlines (spelling : Spelling) (faithful : Faithful spelling) (fed : Fed spelling) :
    (sources spelling).count '\n' = (Spelling.text spelling).count '\n' ∧
      ∀ c ∈ Spelling.text spelling, Text.endsLine c = true → c = '\n' := by
  induction spelling with
  | nil => exact ⟨rfl, nofun⟩
  | cons entry spelling ih =>
      obtain ⟨source, c⟩ := entry
      obtain ⟨spells, others⟩ := List.forall_mem_cons.mp faithful
      obtain ⟨own, further⟩ := List.forall_mem_cons.mp fed
      obtain ⟨counted, newlines⟩ := ih others further
      have one : source.count '\n' = [c].count '\n' := by
        by_cases member : '\n' ∈ source
        · obtain ⟨rfl, once⟩ := spells_newline source c spells member
          rw [once]
          rfl
        · have apart : c ≠ '\n' := fun same => member (own (same ▸ rfl))
          rw [List.count_eq_zero_of_not_mem member, List.count_eq_zero_of_not_mem (by simpa using apart.symm)]
      refine ⟨?_, List.forall_mem_cons.mpr ⟨fun ends => (spells_newline source c spells (own ends)).1, newlines⟩⟩
      change _ = ([c] ++ Spelling.text spelling).count '\n'
      rw [Spelling.sources_cons, List.count_append, List.count_append, counted, one]

end Markup

namespace Reading

open Markup (Element Spelling Opened UpToEnd Located Fed)
open Markup.Spelling (sources Faithful)
open Text (lines endedLines)
open Text.Block (leadingBlanks Unindents)
open Validation (Carries)

/-! Elements with bodies. -/

section

variable {spec : Spec} {root : Element}

-- A body stands in an element of the document.
def Sourced (kind : Kind) (root : Element) (text : Text) (line : Nat) : Prop :=
  ∃ carrier, Coded kind root carrier ∧ text = body carrier ∧ line = carrier.line

theorem impls_sourced (elements : List Element) (impls : List Method) (each : List.Forall₂ (Gives impl) elements impls)
    (coded : ∀ element ∈ elements, Coded spec.kind root element) :
    ∀ one ∈ impls, Sourced spec.kind root one.body one.line := by
  intro one member
  obtain ⟨child, among, read⟩ := gives_source _ _ each one member
  exact ⟨child, coded child among, impl_gives child one read⟩

theorem trait_sourced (start : Spec) (parts : Parts start (fun label => named label root.children) spec)
    (admits : Admits spec.kind .machine root) (side : Side) (one : Trait)
    (declared : spec.declaredTrait side = some one) :
    ∃ element, Stands spec.kind root .trait_ element ∧ trait_ element = .ok one := by
  cases side with
  | state =>
      obtain ⟨element, among, read⟩ := gives_source _ _ parts.stateTrait one (Option.mem_toList.mpr declared)
      exact ⟨element, trait_stands admits _ (.inl rfl) element among, read⟩
  | event =>
      obtain ⟨element, among, read⟩ := gives_source _ _ parts.eventTrait one (Option.mem_toList.mpr declared)
      exact ⟨element, trait_stands admits _ (.inr rfl) element among, read⟩

-- An event that no declaration stands for has no methods.
theorem impl_declared (event : Event) (known : event ∈ spec.declaredEvents ∨ event ∈ spec.events) (one : Method)
    (member : one ∈ event.impls) : event ∈ spec.declaredEvents := by
  rcases known with declared | known
  · exact declared
  · rcases event_origin spec event known with declared | ⟨_, _, none_⟩
    · exact declared
    · rw [none_] at member
      cases member

theorem carries_sourced (start : Spec) (parts : Parts start (fun label => named label root.children) spec)
    (admits : Admits spec.kind .machine root) (name text : Text) (line : Nat) (carries : Carries spec name text line) :
    Sourced spec.kind root text line := by
  cases carries with
  | method side one declared method member =>
      obtain ⟨element, stands, read⟩ := trait_sourced start parts admits side one declared
      obtain ⟨child, among, own⟩ := gives_source _ _ (trait_parts element one read).methods method member
      exact ⟨child, methods_coded admits element stands child among, trait_method_gives child method own⟩
  | impl name fields impls line owns one member =>
      cases owns with
      | state state known =>
          obtain ⟨element, among, read⟩ := gives_source _ _ parts.states state known
          exact impls_sourced _ _ (state_parts spec.kind element state read).impls
            (impls_coded admits .state element (states_stand admits element among) (.inl rfl)) one member
      | event event known =>
          obtain ⟨element, among, read⟩ := gives_source _ _ parts.declaredEvents event
            (impl_declared event known one member)
          exact impls_sourced _ _ (event_parts element event read).impls
            (impls_coded admits .event element (events_stand admits element among) (.inr rfl)) one member
  | transition state known one member =>
      obtain ⟨element, among, read⟩ := gives_source _ _ parts.states state known
      obtain ⟨child, within, own⟩ := gives_source _ _ (state_parts spec.kind element state read).transitions one member
      exact ⟨child, transitions_coded admits element (states_stand admits element among) child within,
        transition_gives spec.kind state.name child one own⟩
  | catchAll one known =>
      obtain ⟨element, among, read⟩ := gives_source _ _ parts.catchAlls one known
      exact ⟨element, catch_alls_coded admits element among, catch_all_gives element one read⟩

end

theorem stands_located (kind : Kind) (root : Element) (place : Place) (element : Element)
    (stands : Stands kind root place element) (document : Text) (located : Located document root) :
    Located document element := by
  induction stands with
  | root => exact located
  | child _ _ outer child _ member _ ih =>
      cases ih with
      | element _ _ _ _ within => exact within child member

/-! Lines of mistakes. -/

-- A line of a code text, with what is spelled in front of it and for it where its element begins.
structure CodeLine (behind : Text) (carrier : Element) (k : Nat) (passed own : Spelling) : Prop where
  faithful : Faithful (passed ++ own)
  begins : sources (passed ++ own) <+: behind
  leads : Spelling.text (passed ++ own) <+: carrier.leadingText
  ahead : Spelling.text passed =
    Text.joined ((endedLines carrier.leadingText).take (leadingBlanks carrier.leadingText + (k - 1)))
  line : ∃ line, (lines (body carrier))[k - 1]? = some line ∧ Unindents (Spelling.text own) line

section

variable {document behind : Text} {carrier : Element} {k : Nat}

theorem code_line_found (content : Text) (plain : UpToEnd behind content)
    (bound : k - 1 < (lines (body carrier)).length)
    (spelled : ∃ spelling rest, Faithful spelling ∧ content = sources spelling ++ rest ∧
      carrier.leadingText = Spelling.text spelling) :
    ∃ passed own, CodeLine behind carrier k passed own := by
  obtain ⟨spelling, rest, faithful, rfl, whole⟩ := spelled
  obtain ⟨_, after, rfl⟩ := plain
  obtain ⟨line, result, found, stored, unindents⟩ := Text.Block.extract_line carrier.leadingText (k - 1) bound
  obtain ⟨others, parts⟩ := Text.line_between _ _ _ found
  obtain ⟨front, more, rfl, before, _⟩ := List.map_eq_append_iff.mp (whole.symm.trans parts)
  obtain ⟨passed, own, rfl, ahead, rfl⟩ := List.map_eq_append_iff.mp before
  refine ⟨passed, own, fun entry member => faithful entry (List.mem_append_left _ member), ?_, ?_, ahead,
    result, stored, unindents⟩
  · exact ⟨sources more ++ (rest ++ '<' :: '/' :: after), by simp⟩
  · exact ⟨Spelling.text more, by rw [whole, Spelling.text_append (passed ++ own)]⟩

theorem code_line_newlines (passed own : Spelling) (code : CodeLine behind carrier k passed own) (fed : Fed passed) :
    (sources passed).count '\n' = leadingBlanks carrier.leadingText + (k - 1) := by
  obtain ⟨counted, newlines⟩ := Markup.fed_newlines passed
    (fun entry member => code.faithful entry (List.mem_append_left _ member)) fed
  obtain ⟨result, stored, _⟩ := code.line
  obtain ⟨stored, _⟩ := List.getElem?_eq_some_iff.mp stored
  obtain ⟨line, _, found, _, _⟩ := Text.Block.extract_line carrier.leadingText (k - 1) stored
  obtain ⟨bound, _⟩ := List.getElem?_eq_some_iff.mp found
  rw [← Text.ended_lines_lines, List.length_map] at bound
  rw [code.ahead] at counted newlines
  exact counted.trans (Text.cut_newlines _ (Text.ended_lines_cut _) _ bound newlines)

end

-- A body that is reported, with its start tag in the document, and the line of the function around it that is broken.
structure Mistake (spec : Spec) (root : Element) (document element : Text) (line : Nat) (carrier : Element)
    (front behind : Text) (at_ : Nat) : Prop where
  holds : Coded spec.kind root carrier
  carries : Carries spec element (body carrier) carrier.line
  opened : Opened document front behind carrier.name carrier.attributes carrier.line
  broken : ∃ isAsync, Code.readBody isAsync (body carrier) = .error at_
  reported : line = carrier.line + (at_ - 2)

end Reading

open Reading
open Markup (Spelling UpToEnd Decodes Fed lineAt)
open Markup.Spelling (sources)
open Text.Block (leadingBlanks)

/-- A mistake in a body is reported as many lines below its element's own as it stands below the first line of the code
text. Where the body is plain, the broken line of code stands on the line that is reported exactly if there are as many
line feeds between the start tag and it as lines of code. Where the lines in front of it end with line feeds, it stands
as far below the line that is reported as the code text is without blank lines at its start. -/
theorem body_mistakes_located (text : Text) (source : Option Text) (spec : Spec)
    (read : Spec.read text source = .ok spec) (element : Text) (line : Nat)
    (refused : spec.validate = .error (.violation ⟨.badBody, element, line⟩)) :
    ∃ root document carrier front behind at_, Markup.read text = .ok root ∧ Decodes text document ∧
      Mistake spec root document element line carrier front behind at_ ∧
      ∀ content k, UpToEnd behind content → at_ = k + 1 → 0 < k → k ≤ (Text.lines (body carrier)).length →
        ∃ passed own, CodeLine behind carrier k passed own ∧
          (line = lineAt (front ++ sources passed) ↔ (sources passed).count '\n' = k - 1) ∧
          (Fed passed → lineAt (front ++ sources passed) = line + leadingBlanks carrier.leadingText) := by
  obtain ⟨root, _, _, parsed, _, _⟩ := read_filled text source spec read
  obtain ⟨_, start, _, parts⟩ := read_parts text source spec read root parsed
  obtain ⟨document, decodes, whole⟩ := Markup.read_located text root parsed
  have admits := (read_admits text source spec read root parsed).2
  obtain ⟨_, same, reported⟩ := Validation.validate_reports (read_enumerated text source spec read) _ refused
  cases same
  cases reported with
  | site _ _ _ apart => exact absurd rfl apart
  | body _ stored own carries filled isAsync at_ broken =>
      obtain ⟨carrier, ⟨place, stands, code⟩, rfl, rfl⟩ := carries_sourced start parts admits element stored own carries
      obtain ⟨_, front, behind, written, _⟩ := stands_located spec.kind root place carrier stands document whole
      refine ⟨root, document, carrier, front, behind, at_, parsed, decodes,
        ⟨⟨place, stands, code⟩, carries, written.opened, ⟨isAsync, broken⟩, rfl⟩, ?_⟩
      rintro content k plain rfl first bound
      have spelled := written.spelled content plain
      obtain ⟨passed, own, found⟩ := code_line_found content plain (by omega : k - 1 < _) spelled
      have place_ : lineAt (front ++ sources passed) = carrier.line + (sources passed).count '\n' := by
        rw [written.opened.counted, lineAt, lineAt, List.count_append, Nat.add_assoc]
      refine ⟨passed, own, found, by omega, fun fed => ?_⟩
      have counted := code_line_newlines passed own found fed
      omega

def drumFront : Text :=
  "<deterministic_state_machine name=\"Drum\"><context type=\"list\"/><states><state name=\"On\"><method name=\"beat\">"

def drumEnd : Text := "</method></state></states></deterministic_state_machine>"

-- A drum with one method, whatever it holds.
def drumText (content : Text) : Text := drumFront ++ (content ++ drumEnd)

def drumBeat (code : Text) : Transition := { source := "On", trigger := "beat", body := code, line := 1 }

def drumOn (code : Text) : State := { name := "On", transitions := [drumBeat code], line := 1 }

def drumSpec (code : Text) : Spec :=
  { kind := .deterministic, name := "Drum", context := "list", states := [drumOn code], line := 1 }

def drumMethod (content : Text) : Markup.Element := .mk "method" [("name", "beat")] 1 [.text content]

def drumState (content : Text) : Markup.Element := .mk "state" [("name", "On")] 1 [.element (drumMethod content)]

def drumStates (content : Text) : Markup.Element := .mk "states" [] 1 [.element (drumState content)]

def drumRoot (content : Text) : Markup.Element :=
  .mk "deterministic_state_machine" [("name", "Drum")] 1
    [.element (.mk "context" [("type", "list")] 1 []), .element (drumStates content)]

-- A mistake on the second line of a body that begins right behind its start tag.
def rollContent : Text := "context.append(1)
return ("

set_option maxRecDepth 2000 in
theorem roll_mistake_located :
    Spec.read (drumText rollContent) none = .ok (drumSpec rollContent) ∧
      (drumSpec rollContent).validate = .error (.violation ⟨.badBody, "On.beat", 2⟩) ∧
      ∃ root document carrier front behind at_, Markup.read (drumText rollContent) = .ok root ∧
        Decodes (drumText rollContent) document ∧
        Mistake (drumSpec rollContent) root document "On.beat" 2 carrier front behind at_ := by
  have parsed : Markup.read (drumText rollContent) = .ok (drumRoot rollContent) := by cbv
  have read : Spec.read (drumText rollContent) none = .ok (drumSpec rollContent) :=
    (read_parsed _ none _ parsed).trans (by decide +kernel)
  have refused : (drumSpec rollContent).validate = .error (.violation ⟨.badBody, "On.beat", 2⟩) := by decide +kernel
  obtain ⟨root, document, carrier, front, behind, at_, own, decodes, mistake, _⟩ :=
    body_mistakes_located _ none _ read _ _ refused
  exact ⟨read, refused, root, document, carrier, front, behind, at_, own, decodes, mistake⟩

-- A mistake on the first line of a body that begins on the line below its start tag.
def beatContent : Text := "
  return (
"

def verbatim (text : Text) : Spelling := text.map fun c => ([c], c)

theorem verbatim_faithful (text : Text) (plain : '<' ∉ text ∧ '&' ∉ text ∧ '\r' ∉ text) :
    Markup.Spelling.Faithful (verbatim text) := by
  refine List.forall_mem_map.mpr fun c member => .plain c ⟨?_, ?_, ?_⟩
  · exact fun same => plain.1 (same ▸ member)
  · exact fun same => plain.2.1 (same ▸ member)
  · exact fun same => plain.2.2 (same ▸ member)

theorem drum_method_stands (content : Text) :
    Stands .deterministic (drumRoot content) .stateMethod (drumMethod content) :=
  .child .state .stateMethod (drumState content) _
    (.child .states .state (drumStates content) _
      (.child .machine .states (drumRoot content) _ .root (.tail _ (.head _)) rfl) (.head _) rfl)
    (.head _) rfl

theorem beat_broken : Code.readBody false "return (" = .error 2 := by
  have line : (match Code.readBody false "return (" with | .error at_ => at_ | .ok _ => 0) = 2 := by decide +kernel
  cases found : Code.readBody false "return (" with
  | ok _ =>
      rw [found] at line
      cases line
  | error at_ =>
      rw [found] at line
      exact congrArg Except.error line

set_option maxRecDepth 2000 in
theorem beat_mistake_misplaced :
    Spec.read (drumText beatContent) none = .ok (drumSpec "return (") ∧
      (drumSpec "return (").validate = .error (.violation ⟨.badBody, "On.beat", 1⟩) ∧
      Mistake (drumSpec "return (") (drumRoot beatContent) (drumText beatContent) "On.beat" 1 (drumMethod beatContent)
        drumFront (beatContent ++ drumEnd) 2 ∧
      UpToEnd (beatContent ++ drumEnd) beatContent ∧
      CodeLine (beatContent ++ drumEnd) (drumMethod beatContent) 1 (verbatim "
") (verbatim "  return (") ∧
      lineAt (drumFront ++ sources (verbatim "
")) = 2 := by
  have parsed : Markup.read (drumText beatContent) = .ok (drumRoot beatContent) := by cbv
  have read : Spec.read (drumText beatContent) none = .ok (drumSpec "return (") :=
    (read_parsed _ none _ parsed).trans (by decide +kernel)
  have refused : (drumSpec "return (").validate = .error (.violation ⟨.badBody, "On.beat", 1⟩) := by decide +kernel
  have stored : body (drumMethod beatContent) = "return (" := by decide
  have stands := drum_method_stands beatContent
  refine ⟨read, refused, ⟨⟨.stateMethod, stands, rfl⟩, ?_, ⟨rfl, by decide, ?_⟩, ⟨false, ?_⟩, rfl⟩,
    ⟨by decide, _, rfl⟩, ⟨verbatim_faithful "
  return (" (by decide), ?_, ?_, ?_, ?_⟩, by decide +kernel⟩
  · rw [stored]
    exact .transition (drumOn "return (") (.head _) (drumBeat "return (") (.head _)
  · refine ⟨Text.fixed "<deterministic_state_machine name=\"Drum\"><context type=\"list\"/><states><state name=\"On\">",
      Text.fixed "method name=\"beat\">", ⟨[], false⟩, [], ⟨⟨none, "method"⟩, [("name", "beat")], 1, [], []⟩, false,
      by decide +kernel, by cbv, rfl, rfl⟩
  · rw [stored, beat_broken]
  · decide
  · decide
  · decide
  · exact ⟨"return (", by decide, "  ", by decide, by decide⟩

end Statewright
