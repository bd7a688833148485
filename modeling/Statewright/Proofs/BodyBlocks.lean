import Statewright.Emission.Classes
import Statewright.Proofs.DeeperLines
import Statewright.Proofs.Headings

/-!
Bodies as blocks. A body is written line by line into the block of its function. The block has the tokens of the body
between those of its own, except that a string over several lines takes in the margins that its lines are given.
-/
set_option autoImplicit false

namespace Statewright

/-! Lines of a body. -/

namespace Text

theorem split_nonempty (mark : Char) (text : Text) : splitAt mark text ≠ [] := by
  fun_cases splitAt mark text <;> simp [*]

theorem split_append (mark : Char) (text rest : Text) :
    splitAt mark (text ++ mark :: rest) = splitAt mark text ++ splitAt mark rest := by
  induction text with
  | nil => simp [splitAt]
  | cons c text ih =>
      rw [List.cons_append, splitAt, splitAt, ih]
      split
      · rfl
      · cases split_ : splitAt mark text with
        | nil => exact absurd split_ (split_nonempty mark text)
        | cons piece pieces => rfl

theorem split_behind (mark : Char) (before text : Text) (outside : mark ∉ before) :
    splitAt mark (before ++ text) = (before ++ (splitAt mark text).headD []) :: (splitAt mark text).tail := by
  induction before with
  | nil =>
      cases split_ : splitAt mark text with
      | nil => exact absurd split_ (split_nonempty mark text)
      | cons piece pieces =>
          rw [List.nil_append, split_]
          rfl
  | cons c before ih =>
      rw [List.mem_cons, not_or] at outside
      rw [List.cons_append, splitAt, if_neg (Ne.symm outside.1), ih outside.2]
      rfl

theorem split_line (mark : Char) (line : Text) (inside : mark ∉ line) : splitAt mark line = [line] := by
  have alone := split_behind mark line [] inside
  rw [List.append_nil] at alone
  rw [alone]
  exact congrArg (· :: []) (List.append_nil line)

theorem split_at_mark (mark : Char) (line rest : Text) (inside : mark ∉ line) :
    splitAt mark (line ++ mark :: rest) = line :: splitAt mark rest := by
  rw [split_append, split_line mark line inside]
  rfl

theorem split_join (mark : Char) (pieces : List Text) (filled : pieces ≠ []) (inside : ∀ piece ∈ pieces, mark ∉ piece) :
    splitAt mark (join [mark] pieces) = pieces := by
  induction pieces with
  | nil => exact absurd rfl filled
  | cons piece rest ih =>
      have own : mark ∉ piece := inside piece List.mem_cons_self
      cases rest with
      | nil => exact split_line mark piece own
      | cons next rest =>
          have further := ih (List.cons_ne_nil next rest) fun piece member => inside piece (List.mem_cons_of_mem _ member)
          rw [join, List.append_assoc, List.singleton_append, split_at_mark mark piece _ own, further]
          exact List.cons_ne_nil next rest

theorem front_inside (c : Char) (plain : endsLine c = false) (all : List Text)
    (inside : ∀ line ∈ all, ∀ d ∈ line, endsLine d = false) :
    ∀ line ∈ pushFront c all, ∀ d ∈ line, endsLine d = false := by
  cases all with
  | nil => simpa [pushFront] using plain
  | cons line rest =>
      rw [List.forall_mem_cons] at inside
      rw [pushFront, List.forall_mem_cons, List.forall_mem_cons]
      exact ⟨⟨plain, inside.1⟩, inside.2⟩

theorem lines_inside (text : Text) : ∀ line ∈ lines text, ∀ c ∈ line, endsLine c = false := by
  fun_induction lines text with
  | case1 => nofun
  | case2 rest ih => exact List.forall_mem_cons.mpr ⟨nofun, ih⟩
  | case3 c rest _ ends ih => exact List.forall_mem_cons.mpr ⟨nofun, ih⟩
  | case4 c rest _ plain ih => exact front_inside c (by simpa using plain) (lines rest) ih

theorem lines_nil (text : Text) : lines text = [] ↔ text = [] := by
  fun_cases lines text with
  | case1 => simp
  | case2 rest => simp
  | case3 c rest => simp
  | case4 c rest => cases lines rest <;> simp [pushFront]

end Text

namespace Emission

open Text (endsLine)

-- The line that a line of a body becomes.
def placed (width : Nat) (line : Text) : Text := if Text.blank line then [] else Text.spaces width ++ line

theorem placed_inside (width : Nat) (c : Char) (apart : c ≠ ' ') (line : Text) (inside : c ∉ line) :
    c ∉ placed width line := by
  unfold placed
  split
  · exact List.not_mem_nil
  · rw [List.mem_append, not_or]
    exact ⟨fun member => apart (List.eq_of_mem_replicate member), inside⟩

theorem line_inside (body : Text) (c : Char) (ends : endsLine c = true) : ∀ line ∈ Text.lines body, c ∉ line := by
  intro line member within
  rw [Text.lines_inside body line member c within] at ends
  cases ends

theorem margined_lines (width : Nat) (body : Text) (filled : Text.blank body = false) :
    margined width body = (Text.lines body).map (placed width) := by
  have some_ : (Text.lines body).map (placed width) ≠ [] := by
    rw [Ne, List.map_eq_nil_iff, Text.lines_nil]
    rintro rfl
    cases filled
  have inside : ∀ line ∈ (Text.lines body).map (placed width), '\n' ∉ line := by
    rw [List.forall_mem_map]
    exact fun line member => placed_inside width '\n' (by decide) line (line_inside body '\n' rfl line member)
  rw [margined, Text.Block.indent, filled]
  exact Text.split_join '\n' _ some_ inside

theorem text_of_cons (line : Text) (rest : Lines) : textOf (line :: rest) = line ++ '\n' :: textOf rest := by
  simp [textOf]

theorem text_of_front (c : Char) (all : Lines) :
    textOf (Text.pushFront c all) = if all = [] then [c, '\n'] else c :: textOf all := by
  cases all with
  | nil => rfl
  | cons line rest => simp [Text.pushFront, text_of_cons]

theorem text_of_ended (all : Lines) : (textOf all).isEmpty = true ∨ (textOf all).getLast? = some '\n' := by
  induction all with
  | nil => exact .inl rfl
  | cons line rest ih =>
      right
      rw [text_of_cons, List.getLast?_append]
      rcases ih with empty | ends
      · rw [List.isEmpty_iff.mp empty]
        rfl
      · rw [List.getLast?_cons, ends]
        rfl

theorem text_of_inside (c : Char) (apart : c ≠ '\n') (all : Lines) (inside : ∀ line ∈ all, c ∉ line) :
    c ∉ textOf all := by
  intro member
  obtain ⟨line, among, within⟩ := List.mem_flatMap.mp member
  rw [List.mem_append, List.mem_singleton] at within
  exact within.elim (inside line among) apart

end Emission

namespace Code

open Emission (textOf placed)
open Text.Block (isMargin)

/-! Texts whose last line ends. -/

def ended (text : Text) : Text := if text.isEmpty || text.getLast? = some '\n' then text else text ++ ['\n']

theorem ended_newline (text : Text) : ended ('\n' :: text) = '\n' :: ended text := by
  cases text with
  | nil => rfl
  | cons c text =>
      unfold ended
      rw [List.getLast?_cons_cons]
      by_cases ends : (c :: text).getLast? = some '\n' <;> simp [ends]

theorem ended_front (c : Char) (plain : c ≠ '\n') (text : Text) :
    ended (c :: text) = if text = [] then [c, '\n'] else c :: ended text := by
  cases text with
  | nil => simp [ended, plain]
  | cons d text =>
      unfold ended
      rw [List.getLast?_cons_cons]
      by_cases ends : (d :: text).getLast? = some '\n' <;> simp [ends]

theorem even_nil (text : Text) : evenLineEnds text = [] ↔ text = [] := by
  fun_cases evenLineEnds text <;> simp

-- No line ends that a body can be split at and that are none in code.
def EndsPlainly (body : Text) : Prop := ∀ c ∈ body, Text.endsLine c = true → c = '\n' ∨ c = '\r'

theorem lines_even (body : Text) (ends : EndsPlainly body) : textOf (Text.lines body) = ended (evenLineEnds body) := by
  fun_induction Text.lines body with
  | case1 => rfl
  | case2 rest ih =>
      have further : EndsPlainly rest := fun c member => ends c (by simp [member])
      rw [Emission.text_of_cons, ih further, evenLineEnds, ended_newline]
      rfl
  | case3 c rest paired feeds ih =>
      have further : EndsPlainly rest := fun c member => ends c (List.mem_cons_of_mem _ member)
      have even : evenLineEnds (c :: rest) = '\n' :: evenLineEnds rest := by
        rcases ends c List.mem_cons_self feeds with rfl | rfl
        · exact even_other _ _ (by decide)
        · exact even_return rest fun after same => paired after rfl same
      rw [Emission.text_of_cons, ih further, even, ended_newline]
      rfl
  | case4 c rest paired plain ih =>
      have further : EndsPlainly rest := fun c member => ends c (List.mem_cons_of_mem _ member)
      have apart : c ≠ '\r' ∧ c ≠ '\n' := by
        constructor <;>
          rintro rfl <;> exact plain rfl
      rw [Emission.text_of_front, ih further, even_other _ _ apart.1, ended_front c apart.2]
      simp only [Text.lines_nil, even_nil]

theorem tokens_of_even (text : Text) : tokensOfLines text =
    Lexer.scan (2 * (ended (evenLineEnds text)).length + 2) ⟨true, .start 1, ended (evenLineEnds text)⟩ := rfl

theorem tokens_of_text (all : Emission.Lines) (plain : ∀ line ∈ all, '\r' ∉ line) :
    tokensOfLines (textOf all) = Lexer.scan (2 * (textOf all).length + 2) ⟨true, .start 1, textOf all⟩ := by
  have even : evenLineEnds (textOf all) = textOf all := by
    have alone := even_after_plain (textOf all) [] (Emission.text_of_inside '\r' (by decide) all plain)
    simpa only [List.append_nil, evenLineEnds] using alone
  have last : ended (textOf all) = textOf all := by
    unfold ended
    rcases Emission.text_of_ended all with empty | ends
    · rw [empty]
      rfl
    · simp [ends]
  rw [tokens_of_even, even, last]

/-! Lines of a block. -/

-- A line of a body that keeps its place among the others when all of them are moved.
def keepsPlace (width : Nat) (line : Text) : Bool :=
  match line.dropWhile isMargin with
  | [] => true
  | c :: _ => solid c && steady width (line.takeWhile isMargin)

theorem line_deeper (width : Nat) (line : Text) (inside : '\n' ∉ line) (text other : Text)
    (further : Deeper width true text other) : Deeper width false (line ++ '\n' :: text) (line ++ '\n' :: other) := by
  induction line with
  | nil => exact .ends text other further
  | cons c line ih =>
      refine .char c _ _ ?_ (ih fun later => inside (List.mem_cons_of_mem _ later))
      rintro rfl
      exact inside List.mem_cons_self

theorem placed_deeper (width : Nat) (line : Text) (inside : '\n' ∉ line) (keeps : keepsPlace width line = true)
    (text other : Text) (further : Deeper width true text other) :
    Deeper width true (line ++ '\n' :: text) (placed width line ++ '\n' :: other) := by
  have parts := List.takeWhile_append_dropWhile (p := isMargin) (l := line)
  have only : (line.takeWhile isMargin).all isMargin = true :=
    List.all_eq_true.mpr fun c member => List.mem_takeWhile_imp member
  unfold keepsPlace at keeps
  generalize line.takeWhile isMargin = margin at parts only keeps
  cases after : line.dropWhile isMargin with
  | nil =>
      rw [after, List.append_nil] at parts
      subst parts
      rw [placed, if_pos (margin_blank margin only)]
      exact .empty margin text other only further
  | cons c rest =>
      rw [after] at parts keeps
      subst parts
      rw [Bool.and_eq_true] at keeps
      have shown : Text.blank (margin ++ c :: rest) = false := by simp [Text.blank, solid_visible c keeps.1]
      have below : '\n' ∉ c :: rest := fun member => inside (List.mem_append_right _ member)
      rw [placed, shown, if_neg Bool.false_ne_true, List.append_assoc, List.append_assoc, List.append_assoc]
      exact .line margin c _ _ only keeps.2 keeps.1 (line_deeper width (c :: rest) below text other further)

theorem lines_deeper (width : Nat) (all : Emission.Lines) (inside : ∀ line ∈ all, '\n' ∉ line)
    (keeps : ∀ line ∈ all, keepsPlace width line = true) :
    Deeper width true (textOf all) (textOf (all.map (placed width))) := by
  induction all with
  | nil => exact .done
  | cons line rest ih =>
      rw [List.forall_mem_cons] at inside keeps
      rw [List.map_cons, Emission.text_of_cons, Emission.text_of_cons]
      exact placed_deeper width line inside.1 keeps.1 _ _ (ih inside.2 keeps.2)

/-! Tokens of a block. -/

-- A body that can be read on its own, and each line of which keeps its place when they are moved.
structure Movable (width : Nat) (body : Text) : Prop where
  ends : EndsPlainly body
  keeps : ∀ line ∈ Text.lines body, keepsPlace width line = true
  unbroken : ∀ token ∈ tokensOfLines body, token.isBroken = false
  room : shallow 0 (tokensOfLines body) = true
  opens : Lexer.Opens (tokensOfLines body)

instance (width : Nat) (body : Text) : Decidable (Movable width body) :=
  have : Decidable (EndsPlainly body) := List.decidableBAll _ _
  have : Decidable (Lexer.Opens (tokensOfLines body)) := inferInstanceAs (Decidable (∀ token ∈ (tokensOfLines body).head?, _))
  decidable_of_iff
    (EndsPlainly body ∧ (∀ line ∈ Text.lines body, keepsPlace width line = true) ∧
      (∀ token ∈ tokensOfLines body, token.isBroken = false) ∧ shallow 0 (tokensOfLines body) = true ∧
      Lexer.Opens (tokensOfLines body))
    ⟨fun ⟨ends, keeps, unbroken, room, opens⟩ => ⟨ends, keeps, unbroken, room, opens⟩,
      fun movable => ⟨movable.ends, movable.keeps, movable.unbroken, movable.room, movable.opens⟩⟩

def blockTokens (width : Nat) (body : Text) : List Token := tokensOfLines (textOf (Emission.margined width body))

-- A block around tokens up to the end of a text.
def blockAround (first last : Nat) (shared : List Token) : List Token :=
  ⟨.indent, first, 0⟩ :: shared ++ [⟨.dedent, last, 0⟩, ⟨.finish, last, 0⟩]

-- A string that goes on in a further line.
def Token.goesOn (token : Token) : Bool :=
  match token.lexeme with
  | .string literal => literal.body.contains '\n'
  | _ => false

theorem carried_token_iff (width : Nat) (indents : 0 < width) (token : Token) :
    token.carried width = token ↔ token.goesOn = false := by
  obtain ⟨lexeme, line, depth⟩ := token
  cases lexeme with
  | string literal =>
      have same := carried_eq_iff width indents literal.body
      obtain ⟨raw, bytes, formatted, unicode, start, body⟩ := literal
      simpa [Token.carried, Token.goesOn] using same
  | _ => simp [Token.carried, Token.goesOn]

theorem carried_tokens_iff (width : Nat) (indents : 0 < width) (tokens : List Token) :
    tokens.map (Token.carried width) = tokens ↔ ∀ token ∈ tokens, token.goesOn = false := by
  have same : tokens.map (Token.carried width) = tokens ↔ tokens.map (Token.carried width) = tokens.map id := by
    rw [List.map_id]
  rw [same, List.map_inj_left]
  exact forall₂_congr fun token _ => carried_token_iff width indents token

theorem block_carried (width : Nat) (indents : 0 < width) (body : Text) (filled : Text.blank body = false)
    (movable : Movable width body) :
    ∃ shared first last, tokensOfLines body = shared ++ [⟨.finish, last, 0⟩] ∧
      blockTokens width body = blockAround first last (shared.map (Token.carried width)) := by
  have inside := Emission.line_inside body
  generalize text_ : textOf (Text.lines body) = text
  generalize other_ : textOf ((Text.lines body).map (placed width)) = other
  have deeper : Deeper width true text other :=
    text_ ▸ other_ ▸ lines_deeper width (Text.lines body) (inside '\n' rfl) movable.keeps
  have own : tokensOfLines body = Lexer.scan (2 * text.length + 2) ⟨true, .start 1, text⟩ := by
    rw [tokens_of_even, ← lines_even body movable.ends, text_]
  have block : blockTokens width body = Lexer.scan (2 * other.length + 2) ⟨true, .start 1, other⟩ := by
    rw [blockTokens, Emission.margined_lines width body filled, tokens_of_text, other_]
    exact List.forall_mem_map.mpr fun line member =>
      Emission.placed_inside width '\r' (by decide) line (inside '\r' rfl line member)
  have enough : Lexer.work ⟨true, .start 1, text⟩ = 2 * text.length + 1 := rfl
  have also : Lexer.work ⟨true, .start 1, other⟩ = 2 * other.length + 1 := rfl
  -- Both texts are read within the same number of steps.
  let fuel := 2 * text.length + 2 * other.length + 2
  rw [Lexer.scan_enough _ _ fuel (by omega) (by omega)] at own block
  have unbroken := movable.unbroken
  have room := movable.room
  have opens := movable.opens
  rw [own] at unbroken room opens
  obtain ⟨first, others, scanned, shared, last, tokens, enclosed⟩ :=
    Lexer.scan_opening width indents fuel 1 text other deeper (by omega) (by omega) unbroken room opens
  refine ⟨shared, first, last, own.trans tokens, ?_⟩
  rw [block, scanned, enclosed]
  rfl

-- The tokens of a block are those of the body in it, the block's own apart.
def SameTokens (body block : List Token) : Prop :=
  ∃ shared first last, body = shared ++ [⟨.finish, last, 0⟩] ∧ block = blockAround first last shared

theorem same_tokens_iff (width : Nat) (indents : 0 < width) (body : Text) (filled : Text.blank body = false)
    (movable : Movable width body) :
    SameTokens (tokensOfLines body) (blockTokens width body) ↔ ∀ token ∈ tokensOfLines body, token.goesOn = false := by
  obtain ⟨shared, first, last, tokens, block⟩ := block_carried width indents body filled movable
  have within : (∀ token ∈ tokensOfLines body, token.goesOn = false) ↔ ∀ token ∈ shared, token.goesOn = false := by
    rw [tokens, List.forall_mem_append, List.forall_mem_singleton]
    exact and_iff_left rfl
  rw [within, ← carried_tokens_iff width indents, block, tokens]
  constructor
  · rintro ⟨other, first', last', ends, around⟩
    obtain ⟨rfl, _⟩ := List.append_inj' ends rfl
    have inner := (List.cons.inj around).2
    exact (List.append_inj' inner rfl).1
  · intro same
    exact ⟨shared, first, last, rfl, by rw [same]⟩

end Code

end Statewright
