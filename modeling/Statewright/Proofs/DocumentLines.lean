import Statewright.Proofs.Spellings

/-!
Where the elements of a document stand. The line of an element is the one on which its start tag ends. Where its
content is plain, with no markup before the end tag, the character data that it begins with is spelled there character
by character.
-/
set_option autoImplicit false

namespace Statewright.Markup

open Spelling (sources Faithful)

/-! Start tags. -/

-- A reader that ends at a later place with what is known of its result.
def Gives {α : Type} (scan : Scan α) (known : α → Cursor → Prop) : Prop :=
  ∀ cursor value next, scan cursor = .ok (value, next) → Passes cursor next ∧ known value next

section

variable {α β : Type}

theorem gives_bind (first : Scan α) (then_ : α → Scan β) (known : β → Cursor → Prop) (one : Walks first)
    (others : ∀ value, Gives (then_ value) known) : Gives (first >>= then_) known := by
  intro cursor result next read
  obtain ⟨value, middle, before, after⟩ := bind_read first then_ cursor next result read
  obtain ⟨passes, held⟩ := others value middle result next after
  exact ⟨passes_trans _ _ _ (one cursor value middle before) passes, held⟩

theorem gives_stop (known : α → Cursor → Prop) : Gives (Scan.stop : Scan α) known := nofun

theorem gives_unless (condition : Bool) (then_ : α → Scan β) (next : Scan β) (known : β → Cursor → Prop)
    (held : Gives next known) : Gives (if condition = true then Scan.stop >>= then_ else next) known := by
  split
  · exact nofun
  · exact held

end

theorem walks_rest_text : Walks Scan.rest := by
  intro cursor value next read
  cases read
  exact passes_none cursor

-- A start tag is read up to its end, where its line is counted.
theorem start_tag_gives (declared : Declared) (outer : List (Text × Text)) :
    Gives (startTag declared outer) fun begun next => begun.1.line = next.line ∧ begun.1.content = [] := by
  refine gives_bind _ _ _ Scan.walks_name fun key => ?_
  cases Qualified.ofText? key with
  | none => exact gives_stop _
  | some tag =>
      refine gives_bind _ _ _ Scan.walks_spaces fun spaced => gives_bind _ _ _ walks_rest_text fun text => ?_
      refine gives_unless _ _ _ _ (gives_bind _ _ _ (walks_attributes _ _) fun written => ?_)
      intro cursor result next read
      change (if _ then Scan.stop >>= _ else _) cursor = _ at read
      split at read
      · cases read
      generalize (List.mapM _ _ : Option (List (Text × Text))) = resolved at read
      cases resolved with
      | none => cases read
      | some attributes =>
          dsimp only at read
          split at read
          · cases read
          split at read
          · cases read
          obtain ⟨empty, middle, ends, read⟩ := bind_read _ _ _ _ _ read
          rcases Scan.accept_read _ _ _ _ ends with ⟨rfl, whole, line⟩ | ⟨rfl, rfl⟩
          · cases read
            exact ⟨⟨"/>", whole, line⟩, line.symm, rfl⟩
          · obtain ⟨_, last, closes, read⟩ := bind_read _ _ _ _ _ read
            cases read
            obtain ⟨whole, line⟩ := Scan.need_read _ _ _ closes
            exact ⟨⟨">", whole, line⟩, line.symm, rfl⟩

/-! Places of elements. -/

-- A place in a document, on its line.
def At (document : Text) (cursor : Cursor) : Prop :=
  ∃ front, document = front ++ cursor.rest ∧ cursor.line = lineAt front

theorem at_passes (document : Text) (cursor next : Cursor) (place : At document cursor) (passes : Passes cursor next) :
    At document next := by
  obtain ⟨front, whole, line⟩ := place
  obtain ⟨passed, rest, counted⟩ := passes
  refine ⟨front ++ passed, by rw [whole, rest, List.append_assoc], ?_⟩
  rw [counted, line, lineAt, lineAt, List.count_append, Nat.add_assoc]

-- A start tag of the document, and what stands in front of and behind its end.
structure Opened (document front behind name : Text) (attributes : List (Text × Text)) (line : Nat) : Prop where
  whole : document = front ++ behind
  counted : line = lineAt front
  tagged : ∃ start tag declared outer frame empty, front = start ++ '<' :: tag ∧
    startTag declared outer ⟨lineAt start, tag ++ behind⟩ = .ok ((frame, empty), ⟨line, behind⟩) ∧
    frame.tag.own = name ∧ frame.attributes = attributes

-- Up to the first mark of markup, where that begins an end tag.
def UpToEnd (behind content : Text) : Prop := '<' ∉ content ∧ ∃ after, behind = content ++ '<' :: '/' :: after

-- Where the content of an element is plain, what it begins with is spelled there.
structure Written (document : Text) (element : Element) (front behind : Text) : Prop where
  opened : Opened document front behind element.name element.attributes element.line
  spelled : ∀ content, UpToEnd behind content → ∃ spelling rest, Faithful spelling ∧
    content = sources spelling ++ rest ∧ element.leadingText = Spelling.text spelling

-- The element and everything below it is written in the document.
inductive Located (document : Text) : Element → Prop
  | element (element : Element) (front behind : Text) (written : Written document element front behind)
      (within : ∀ child ∈ element.children, Located document child) : Located document element

theorem first_mark (one other rest more : Text) (inside : '<' ∉ one) (also : '<' ∉ other)
    (same : one ++ '<' :: rest = other ++ '<' :: more) : one = other ∧ rest = more := by
  induction one generalizing other with
  | nil =>
      cases other with
      | nil => simpa using same
      | cons e other =>
          rw [List.nil_append, List.cons_append, List.cons.injEq] at same
          exact absurd (same.1 ▸ List.mem_cons_self) also
  | cons e one ih =>
      cases other with
      | nil =>
          rw [List.nil_append, List.cons_append, List.cons.injEq] at same
          exact absurd (same.1 ▸ List.mem_cons_self) inside
      | cons f other =>
          rw [List.cons_append, List.cons_append, List.cons.injEq] at same
          rw [List.mem_cons, not_or] at inside also
          obtain ⟨rfl, others⟩ := ih other inside.2 also.2 same.2
          exact ⟨same.1 ▸ rfl, others⟩

/-! Frames. -/

-- A frame whose start tag stands in the document, with the elements that have been read into it.
structure Held (document : Text) (frame : Frame) (front behind : Text) : Prop where
  opened : Opened document front behind frame.tag.own frame.attributes frame.line
  within : ∀ child, Node.element child ∈ frame.content → Located document child

-- Markup other than an end tag has been met, so that the content is not plain.
def Waiting (document : Text) (frame : Frame) : Prop :=
  ∃ front behind, Held document frame front behind ∧ ∀ content, ¬ UpToEnd behind content

-- The content has been plain so far.
def Plain (document : Text) (frame : Frame) (rest : Text) : Prop :=
  ∃ front content, Held document frame front (content ++ rest) ∧ '<' ∉ content ∧ Spelt frame.content content

section

variable {document : Text} {frame : Frame}

theorem held_push (front behind : Text) (node : Node) (held : Held document frame front behind)
    (located : ∀ child, node = .element child → Located document child) :
    Held document (frame.push node) front behind where
  opened := held.opened
  within := fun child member => (List.mem_cons.mp member).elim (fun same => located child same.symm) (held.within child)

theorem held_push_text (front behind value : Text) (held : Held document frame front behind) :
    Held document (frame.pushText value) front behind := by
  obtain ⟨tag, attributes, line, bindings, content⟩ := frame
  unfold Frame.pushText
  split
  · exact held
  · split
    · rename_i before more first
      dsimp only at first
      subst first
      refine ⟨held.opened, fun child member => held.within child (List.mem_cons_of_mem _ ?_)⟩
      simpa using member
    · exact held_push front behind _ held nofun

theorem waiting_push (node : Node) (waiting : Waiting document frame)
    (located : ∀ child, node = .element child → Located document child) : Waiting document (frame.push node) := by
  obtain ⟨front, behind, held, marked⟩ := waiting
  exact ⟨front, behind, held_push front behind node held located, marked⟩

theorem waiting_push_text (value : Text) (waiting : Waiting document frame) :
    Waiting document (frame.pushText value) := by
  obtain ⟨front, behind, held, marked⟩ := waiting
  exact ⟨front, behind, held_push_text front behind value held, marked⟩

theorem waiting_at_mark (rest : Text) (other : ∀ more, rest ≠ '/' :: more)
    (inner : Waiting document frame ∨ Plain document frame ('<' :: rest)) : Waiting document frame := by
  rcases inner with waiting | ⟨front, content, held, unmarked, _⟩
  · exact waiting
  · refine ⟨front, _, held, ?_⟩
    rintro also ⟨inside, after, same⟩
    exact other after (first_mark content also rest _ unmarked inside same).2

theorem frame_located (rest : Text) (inner : Waiting document frame ∨ Plain document frame ('<' :: '/' :: rest)) :
    Located document frame.element := by
  have within (front behind : Text) (held : Held document frame front behind) :
      ∀ child ∈ frame.element.children, Located document child := by
    intro child member
    obtain ⟨node, among, own⟩ := List.mem_filterMap.mp member
    cases node with
    | element value =>
        cases own
        exact held.within _ (List.mem_reverse.mp among)
    | _ => cases own
  rcases inner with ⟨front, behind, held, marked⟩ | ⟨front, content, held, unmarked, spelt⟩
  · exact .element _ front behind ⟨held.opened, fun content ends => absurd ends (marked content)⟩
      (within front behind held)
  · refine .element _ front _ ⟨held.opened, ?_⟩ (within front _ held)
    rintro also ⟨inside, after, same⟩
    obtain ⟨rfl, _⟩ := first_mark content also _ _ unmarked inside same
    obtain ⟨spelling, more, faithful, whole, leads, _⟩ := spelt
    exact ⟨spelling, more, faithful, whole, leads⟩

theorem empty_located (rest : Text) (none_ : frame.content = []) (plain : Plain document frame rest) :
    Located document frame.element := by
  obtain ⟨front, content, held, _, _⟩ := plain
  have empty : frame.element.content = [] := by simp [Frame.element, Element.content, none_]
  refine .element _ front _ ⟨held.opened, fun content _ => ⟨[], content, nofun, rfl, ?_⟩⟩ ?_
  · rw [Element.leadingText, empty]
    rfl
  · rw [Element.children, empty]
    nofun

end

-- A start tag that is read behind its mark opens a frame, or an element of its own.
theorem start_tag_held (document : Text) (declared : Declared) (outer : List (Text × Text)) (line : Nat) (rest : Text)
    (frame : Frame) (empty : Bool) (next : Cursor) (place : At document ⟨line, '<' :: rest⟩)
    (read : startTag declared outer ⟨line, rest⟩ = .ok ((frame, empty), next)) :
    At document next ∧ Plain document frame next.rest ∧ frame.content = [] := by
  obtain ⟨⟨tag, whole, counted⟩, same, none_⟩ := start_tag_gives declared outer _ _ _ read
  obtain ⟨start, own, begun⟩ := place
  dsimp only at whole counted same none_ own begun
  have line_ : next.line = lineAt (start ++ '<' :: tag) := by
    rw [counted, begun, lineAt, lineAt, List.count_append, List.count_cons_of_ne (by decide), Nat.add_assoc]
  have document_ : document = start ++ '<' :: tag ++ next.rest := by simp [own, whole]
  refine ⟨⟨_, document_, line_⟩, ?_, none_⟩
  have opened : Opened document (start ++ '<' :: tag) next.rest frame.tag.own frame.attributes frame.line := by
    refine ⟨document_, same.trans line_, start, tag, declared, outer, frame, empty, rfl, ?_, rfl, rfl⟩
    rw [← begun, ← whole, read, same]
  refine ⟨start ++ '<' :: tag, [], ⟨opened, ?_⟩, nofun, ?_⟩
  · rw [none_]
    nofun
  · rw [none_]
    exact ⟨[], [], nofun, rfl, rfl, .inl ⟨rfl, nofun⟩⟩

theorem end_tag_pass (line : Nat) (tail : Text) :
    Passes ⟨line, '<' :: '/' :: tail⟩ ⟨line, tail.drop (tail.takeWhile continuesName).length⟩ := by
  have inside : '\n' ∉ '<' :: '/' :: tail.takeWhile continuesName := by
    rw [List.mem_cons, List.mem_cons, not_or, not_or]
    refine ⟨by decide, by decide, fun member => ?_⟩
    have continues := List.mem_takeWhile_imp member
    revert continues
    decide
  refine ⟨'<' :: '/' :: tail.takeWhile continuesName, ?_, by simp [List.count_eq_zero_of_not_mem inside]⟩
  have parts := List.prefix_iff_eq_append.mp (List.takeWhile_prefix (l := tail) continuesName)
  exact congrArg (fun rest => '<' :: '/' :: rest) parts.symm

/-! Turns. -/

-- What is known where content is read: of the place, the frame that it belongs to, and the frames around that.
structure Going (document : Text) (frame : Frame) (outer : List Frame) (cursor : Cursor) : Prop where
  place : At document cursor
  inner : Waiting document frame ∨ Plain document frame cursor.rest
  others : ∀ parent ∈ outer, Waiting document parent

section

variable {document : Text} {frame : Frame} {outer : List Frame} {cursor after : Cursor}

theorem going_waiting (next : Frame) (going : Going document frame outer cursor) (waiting : Waiting document next)
    (passes : Passes cursor after) : Going document next outer after :=
  ⟨at_passes document cursor after going.place passes, .inl waiting, going.others⟩

theorem going_spelled (value : Text) (spelling : Spelling) (going : Going document frame outer cursor)
    (spelled : Spelled cursor after value spelling) : Going document (frame.pushText value) outer after where
  place := at_passes document cursor after going.place ⟨sources spelling, spelled.whole, spelled.counted⟩
  inner := by
    refine going.inner.imp (waiting_push_text value) ?_
    rintro ⟨front, content, held, inside, spelt⟩
    rw [spelled.whole, ← List.append_assoc] at held
    refine ⟨front, content ++ sources spelling, held_push_text _ _ value held, ?_,
      spelt_text frame content value spelling spelled.faithful spelled.same spelt⟩
    rw [List.mem_append, not_or]
    exact ⟨inside, spelled.unmarked⟩
  others := going.others

theorem going_referred (line : Nat) (text name rest : Text) (going : Going document frame outer ⟨line, '&' :: text⟩)
    (read : namedReference text = some (name, rest)) :
    Going document (frame.push (.reference name)) outer ⟨line, rest⟩ where
  place := at_passes document _ _ going.place (named_pass line text name rest _ read (passes_none _))
  inner := by
    obtain ⟨rfl, _, unmarked⟩ := named_reference_source text name rest read
    refine going.inner.imp (fun waiting => waiting_push _ waiting nofun) ?_
    rintro ⟨front, content, held, inside, spelt⟩
    have source : content ++ '&' :: (name ++ ';' :: rest) = content ++ ('&' :: name ++ [';']) ++ rest := by simp
    rw [source] at held
    refine ⟨front, _, held_push _ _ (.reference name) held nofun, ?_, spelt_other frame content _ _ rfl spelt⟩
    simp [inside, unmarked]
  others := going.others

end

-- The frame is complete, or more of it or of another is read.
def Turned (document : Text) (declared : Declared) (fuel : Nat) (element : Element) (next : Cursor) : Prop :=
  (At document next ∧ Located document element) ∨ ∃ frame outer cursor, Going document frame outer cursor ∧
    content declared fuel frame outer cursor = .ok (element, next)

theorem content_turn (document : Text) (declared : Declared) (fuel : Nat) (frame : Frame) (outer : List Frame)
    (cursor next : Cursor) (element : Element) (going : Going document frame outer cursor)
    (read : content declared (fuel + 1) frame outer cursor = .ok (element, next)) :
    Turned document declared fuel element next := by
  obtain ⟨line, text⟩ := cursor
  unfold content at read
  obtain ⟨_, _, got, goes⟩ := bind_read _ _ _ _ _ read
  cases got
  clear read
  dsimp only at goes
  have inner := going.inner
  dsimp only at inner
  split at goes
  · cases goes
  · rename_i tail
    -- An end tag: the frame is an element, the last one or one of the frame around it.
    have located := frame_located tail inner
    obtain ⟨_, _, got, goes⟩ := bind_read _ _ _ _ _ goes
    cases got
    obtain ⟨_, _, got, goes⟩ := bind_read _ _ _ _ _ goes
    cases got
    obtain ⟨_, _, got, goes⟩ := bind_read _ _ _ _ _ goes
    cases got
    obtain ⟨_, blank, blanks, goes⟩ := bind_read _ _ _ _ _ goes
    obtain ⟨_, closed, closes, goes⟩ := bind_read _ _ _ _ _ goes
    have passes : Passes _ closed := passes_trans _ _ _ (end_tag_pass line tail)
      (passes_trans _ _ _ (Scan.walks_spaces _ _ _ blanks) (Scan.walks_need _ (by decide) _ _ _ closes))
    have behind := at_passes document _ _ going.place passes
    split at goes
    · cases goes
    · cases outer with
      | nil =>
          cases goes
          exact .inl ⟨behind, located⟩
      | cons parent outer =>
          obtain ⟨parent_, others⟩ := List.forall_mem_cons.mp going.others
          refine .inr ⟨_, _, closed, ⟨behind, .inl (waiting_push _ parent_ ?_), others⟩, goes⟩
          rintro child ⟨rfl⟩
          exact located
  · have waiting := waiting_at_mark _ (by simp) inner
    obtain ⟨_, after, commented, goes⟩ := bind_read _ _ _ _ _ goes
    exact .inr ⟨_, _, after, going_waiting _ going waiting (Scan.walks_comment _ _ _ commented), goes⟩
  · have waiting := waiting_at_mark _ (by simp) inner
    obtain ⟨_, opened, opens, goes⟩ := bind_read _ _ _ _ _ goes
    obtain ⟨value, after, taken, goes⟩ := bind_read _ _ _ _ _ goes
    have passes := passes_trans _ _ _ (Scan.walks_need _ (by decide) _ _ _ opens)
      (Scan.walks_lift_text _ section_text_pass _ _ _ taken)
    exact .inr ⟨_, _, after, going_waiting _ going (waiting_push_text value waiting) passes, goes⟩
  · have waiting := waiting_at_mark _ (by simp) inner
    obtain ⟨_, after, instructed, goes⟩ := bind_read _ _ _ _ _ goes
    have passes := Scan.walks_instruction _ _ _ instructed
    exact .inr ⟨_, _, after, going_waiting _ going (waiting_push .instruction waiting (by simp)) passes, goes⟩
  · rename_i tail notEnd _ _ _
    -- A start tag: an element that ends there, or a frame inside this one.
    have waiting := waiting_at_mark _ (fun more same => notEnd more same) inner
    obtain ⟨_, _, got, goes⟩ := bind_read _ _ _ _ _ goes
    cases got
    obtain ⟨⟨child, empty⟩, after, begins, goes⟩ := bind_read _ _ _ _ _ goes
    obtain ⟨behind, plain, none_⟩ := start_tag_held document declared _ line tail child empty after going.place begins
    dsimp only at goes
    split at goes
    · refine .inr ⟨_, _, after, ⟨behind, .inl (waiting_push _ waiting ?_), going.others⟩, goes⟩
      rintro _ ⟨rfl⟩
      exact empty_located after.rest none_ plain
    · exact .inr ⟨_, _, after, ⟨behind, .inr plain, List.forall_mem_cons.mpr ⟨waiting, going.others⟩⟩, goes⟩
  · rename_i more
    cases found : numericReference more with
    | none =>
        rw [found] at goes
        cases goes
    | some entry =>
        obtain ⟨c, after⟩ := entry
        rw [found] at goes
        obtain ⟨spelling, spelled⟩ := numeric_spelled line more after c found
        exact .inr ⟨_, _, ⟨line, after⟩, going_spelled [c] spelling going spelled, goes⟩
  · rename_i more _
    cases found : namedReference more with
    | none =>
        rw [found] at goes
        cases goes
    | some entry =>
        obtain ⟨name, after⟩ := entry
        rw [found] at goes
        dsimp only at goes
        cases known : predefined? name with
        | some c =>
            rw [known] at goes
            obtain ⟨spelling, spelled⟩ := named_spelled line more name after c found known
            exact .inr ⟨_, _, ⟨line, after⟩, going_spelled [c] spelling going spelled, goes⟩
        | none =>
            rw [known] at goes
            dsimp only at goes
            split at goes
            · exact .inr ⟨_, _, ⟨line, after⟩, going_referred line more name after going found, goes⟩
            · cases goes
  · obtain ⟨value, after, taken, goes⟩ := bind_read _ _ _ _ _ goes
    obtain ⟨spelling, spelled⟩ := characters_spell line text value after taken
    exact .inr ⟨_, _, after, going_spelled value spelling going spelled, goes⟩

theorem content_located (document : Text) (declared : Declared) (fuel : Nat) (frame : Frame) (outer : List Frame)
    (cursor next : Cursor) (element : Element) (going : Going document frame outer cursor)
    (read : content declared fuel frame outer cursor = .ok (element, next)) :
    At document next ∧ Located document element := by
  induction fuel generalizing frame outer cursor with
  | zero => cases read
  | succ fuel ih =>
      rcases content_turn document declared fuel frame outer cursor next element going read with
        ended | ⟨frame, outer, cursor, further, goes⟩
      · exact ended
      · exact ih frame outer cursor further goes

/-! Documents. -/

-- The document that a text is, which may be read in an encoding of its own from some place on.
def Decodes (text document : Text) : Prop :=
  ∃ ahead encoding behind, text = ahead ++ behind ∧ document = ahead ++ Encoding.reread encoding behind

theorem decodes_at (text : Text) (cursor next : Cursor) (place : At text cursor) (declares : Declares cursor next) :
    ∃ document, Decodes text document ∧ At document next := by
  obtain ⟨middle, encoding, before, after⟩ := declares
  obtain ⟨front, whole, line⟩ := at_passes text cursor middle place before
  refine ⟨front ++ encoding.reread middle.rest, ⟨front, encoding, middle.rest, whole, rfl⟩, ?_⟩
  exact at_passes _ ⟨middle.line, encoding.reread middle.rest⟩ next ⟨front, rfl, line⟩ after

-- What is read of a document: its declaration, what stands around the root, and the root from its mark on.
structure Rooted (text : Text) (root : Element) (start behind opened : Cursor) : Prop where
  begins : At text start
  declared : Declares start behind
  marked : Passes behind ⟨opened.line, '<' :: opened.rest⟩
  whole : ∃ declared frame empty after, startTag declared [] opened = .ok ((frame, empty), after) ∧
    (root = frame.element ∨ ∃ fuel last, content declared fuel frame [] after = .ok (root, last))

theorem document_rooted (text : Text) (root : Element) (last : Cursor) (done : document ⟨1, text⟩ = .ok (root, last)) :
    ∃ start behind opened, Rooted text root start behind opened := by
  obtain ⟨_, _, got, goes⟩ := bind_read _ _ _ _ _ done
  cases got
  clear done
  extract_lets -underBinder marked declared at goes
  have begun (start : Cursor) (place : At text start) (read : declared () start = .ok (root, last)) :
      ∃ start behind opened, Rooted text root start behind opened := by
    obtain ⟨_, behind, declares, read⟩ := bind_read _ _ _ _ _ read
    obtain ⟨_, before, around_, read⟩ := bind_read _ _ _ _ _ read
    obtain ⟨entities, typed, type, read⟩ := bind_read _ _ _ _ _ read
    obtain ⟨_, ahead, further, read⟩ := bind_read _ _ _ _ _ read
    obtain ⟨_, opened, opens, read⟩ := bind_read _ _ _ _ _ read
    obtain ⟨⟨frame, empty⟩, after, begins, read⟩ := bind_read _ _ _ _ _ read
    obtain ⟨whole, line⟩ := Scan.need_read _ _ _ opens
    have mark : ahead = ⟨opened.line, '<' :: opened.rest⟩ := by
      rw [line, show '<' :: opened.rest = ahead.rest from whole.symm]
    have marked : Passes behind ahead := passes_trans _ _ _ (Scan.walks_around _ _ _ _ around_)
      (passes_trans _ _ _ (walks_document_type _ _ _ type) (Scan.walks_around _ _ _ _ further))
    refine ⟨start, behind, opened, place, declaration_declares _ _ _ declares, mark ▸ marked, entities, frame, empty,
      after, begins, ?_⟩
    dsimp -zeta only at read
    extract_lets -underBinder closed at read
    have ended (element : Element) (cursor : Cursor) (read : closed element cursor = .ok (root, last)) :
        root = element := by
      obtain ⟨_, _, _, read⟩ := bind_read _ _ _ _ _ read
      obtain ⟨rest, _, _, read⟩ := bind_read _ _ _ _ _ read
      dsimp only at read
      split at read
      · cases read
      · cases read
        rfl
    split at read
    · obtain ⟨_, _, same, read⟩ := bind_read _ _ _ _ _ read
      cases same
      exact .inl (ended _ _ read)
    · obtain ⟨element, _, holds, read⟩ := bind_read _ _ _ _ _ read
      exact .inr ⟨_, _, ended _ _ read ▸ holds⟩
  split at goes
  · rename_i starts
    obtain ⟨_, _, skipped, goes⟩ := bind_read _ _ _ _ _ goes
    cases skipped
    refine begun ⟨1, text.drop 1⟩ ⟨[byteOrderMark], ?_, rfl⟩ goes
    cases text with
    | nil => cases starts
    | cons c rest =>
        cases starts
        rfl
  · exact begun ⟨1, text⟩ ⟨[], rfl, rfl⟩ goes

/-- Every element of a document that is read stands in it on its line, and begins, where its content is plain, with
what is spelled behind its start tag. -/
theorem read_located (text : Text) (root : Element) (parsed : read text = .ok root) :
    ∃ document, Decodes text document ∧ Located document root := by
  cases done : document ⟨1, text⟩ with
  | error line => simp [read, done] at parsed
  | ok pair =>
      obtain ⟨element, last⟩ := pair
      obtain rfl : element = root := by simpa [read, done] using parsed
      obtain ⟨start, behind, opened, begins, declared, marked, entities, frame, empty, after, opens, whole⟩ :=
        document_rooted text element last done
      obtain ⟨document, decodes, place⟩ := decodes_at text start behind begins declared
      obtain ⟨inside, plain, none_⟩ := start_tag_held document entities [] opened.line opened.rest frame empty after
        (at_passes document _ _ place marked) opens
      refine ⟨document, decodes, ?_⟩
      rcases whole with rfl | ⟨fuel, closed, holds⟩
      · exact empty_located after.rest none_ plain
      · exact (content_located document entities fuel frame [] after closed element ⟨inside, .inr plain, nofun⟩ holds).2

end Statewright.Markup
