import Mathlib.Data.List.Forall2
import Statewright.Proofs.Beginnings

/-!
Two runs of a reader, on tokens that are the same up to a place where the first run can go no further. Where both end
well they agree: what they give is the same, and they leave the same tokens in front of that place.
-/
set_option autoImplicit false

namespace Statewright.Code

-- Lexemes that differ in the line of a string at most.
inductive Lexeme.Alike : Lexeme → Lexeme → Prop
  | same (lexeme : Lexeme) : Alike lexeme lexeme
  | string (raw bytes formatted unicode : Bool) (line other : Nat) (body : Text) :
      Alike (.string ⟨raw, bytes, formatted, unicode, line, body⟩) (.string ⟨raw, bytes, formatted, unicode, other, body⟩)

namespace Lexeme

-- What no expression goes on with.
def ends : Lexeme → Bool
  | newline => true
  | indent => true
  | dedent => true
  | finish => true
  | broken _ => true
  | _ => false

-- What may stand behind an expression that ends there: an equals sign or the end of a call as well.
def follows : Lexeme → Bool
  | mark .equals => true
  | mark (.closing .round) => true
  | lexeme => lexeme.ends

theorem ends_all {holds : Lexeme → Prop} (newline : holds newline) (indent : holds indent) (dedent : holds dedent)
    (finish : holds finish) (broken : ∀ stop, holds (broken stop)) (lexeme : Lexeme) (ended : lexeme.ends = true) :
    holds lexeme := by
  cases lexeme with
  | newline => exact newline
  | indent => exact indent
  | dedent => exact dedent
  | finish => exact finish
  | broken stop => exact broken stop
  | _ => cases ended

theorem follows_all {holds : Lexeme → Prop} (equals : holds (mark .equals)) (close : holds (mark (.closing .round)))
    (others : ∀ lexeme, lexeme.ends = true → holds lexeme) (lexeme : Lexeme) (follow : lexeme.follows = true) :
    holds lexeme := by
  unfold follows at follow
  split at follow
  · exact equals
  · exact close
  · exact others _ follow

end Lexeme

namespace Reader

-- Tokens that are alike up to a stop.
inductive Beside (stop other : List Token) : List Token → List Token → Prop
  | stop : Beside stop other stop other
  | cons (one two : Token) (rest more : List Token) (inner : one.lexeme.ends = false)
      (alike : one.lexeme.Alike two.lexeme) (further : Beside stop other rest more) :
      Beside stop other (one :: rest) (two :: more)

def Agree {α β : Type} (stop other : List Token) (same : α → β → Prop) (reader : Reader α) (twin : Reader β) : Prop :=
  ∀ turns turns' tokens tokens' value rest value' rest', Beside stop other tokens tokens' →
    reader turns tokens = .ok (value, rest) → twin turns' tokens' = .ok (value', rest') →
    same value value' ∧ Beside stop other rest rest' ∧ rest <:+ tokens

def Starts : List Lexeme → List Token → Prop
  | [], _ => True
  | _ :: _, [] => False
  | lexeme :: more, token :: rest => token.lexeme = lexeme ∧ Starts more rest

-- The same for tokens that begin with known lexemes.
def AgreeOn {α β : Type} (stop other : List Token) (ones twos : List Lexeme) (same : α → β → Prop) (reader : Reader α)
    (twin : Reader β) : Prop :=
  ∀ turns turns' tokens tokens' value rest value' rest', Beside stop other tokens tokens' →
    Starts ones tokens → Starts twos tokens' →
    reader turns tokens = .ok (value, rest) → twin turns' tokens' = .ok (value', rest') →
    same value value' ∧ Beside stop other rest rest' ∧ rest <:+ tokens

-- Where two runs can part.
structure Parting (stop other : List Token) : Prop where
  ends : ∃ lexeme, HeadIs stop lexeme ∧ lexeme.ends = true
  follows : ∃ lexeme, HeadIs other lexeme ∧ lexeme.follows = true

-- The lexemes that the runs meet at the same time.
inductive Meets : Lexeme → Lexeme → Prop
  | alike (one two : Lexeme) (alike : one.Alike two) : Meets one two
  | parted (one two : Lexeme) (ends : one.ends = true) (follows : two.follows = true) : Meets one two

theorem alike_plain (one two : Lexeme) (alike : one.Alike two) (plain : ∀ literal, one ≠ .string literal) : one = two := by
  cases alike with
  | same => rfl
  | string => exact absurd rfl (plain _)

section
variable {α β γ δ : Type} {stop other : List Token}

theorem meets_heads (parting : Parting stop other) (tokens tokens' : List Token) (beside : Beside stop other tokens tokens') :
    ∃ one two, HeadIs tokens one ∧ HeadIs tokens' two ∧ Meets one two := by
  cases beside with
  | stop =>
      obtain ⟨one, first, ends⟩ := parting.ends
      obtain ⟨two, second, follows⟩ := parting.follows
      exact ⟨one, two, first, second, .parted one two ends follows⟩
  | cons one two rest more _ alike further => exact ⟨_, _, ⟨one, rest, rfl, rfl⟩, ⟨two, more, rfl, rfl⟩, .alike _ _ alike⟩

-- A lexeme that ends nothing stands in front of the stop.
theorem beside_inner (parting : Parting stop other) (tokens tokens' : List Token) (lexeme : Lexeme)
    (beside : Beside stop other tokens tokens') (head : HeadIs tokens lexeme) (inner : lexeme.ends = false) :
    ∃ one two rest more, tokens = one :: rest ∧ tokens' = two :: more ∧ one.lexeme = lexeme ∧
      one.lexeme.Alike two.lexeme ∧ Beside stop other rest more := by
  cases beside with
  | stop =>
      obtain ⟨found, stands, ends⟩ := parting.ends
      rw [head_unique stop lexeme found head stands, ends] at inner
      cases inner
  | cons one two rest more _ alike further =>
      obtain ⟨token, left, same, rfl⟩ := head
      cases same
      exact ⟨one, two, rest, more, rfl, rfl, rfl, alike, further⟩

theorem beside_ended (tokens tokens' : List Token) (lexeme : Lexeme) (beside : Beside stop other tokens tokens')
    (head : HeadIs tokens lexeme) (ends : lexeme.ends = true) : tokens = stop ∧ tokens' = other := by
  cases beside with
  | stop => exact ⟨rfl, rfl⟩
  | cons one two rest more inner alike further =>
      rw [head_unique _ _ _ ⟨one, rest, rfl, rfl⟩ head, ends] at inner
      cases inner

theorem beside_length (tokens tokens' : List Token) (beside : Beside stop other tokens tokens') :
    stop.length ≤ tokens.length := by
  induction beside with
  | stop => exact Nat.le_refl _
  | cons _ _ _ _ _ _ _ ih => exact Nat.le_succ_of_le ih

/-! ## Laws -/

theorem starts_head (tokens : List Token) (lexeme : Lexeme) : Starts [lexeme] tokens ↔ HeadIs tokens lexeme := by
  cases tokens with
  | nil => exact ⟨False.elim, fun ⟨_, _, same, _⟩ => absurd same (List.cons_ne_nil _ _).symm⟩
  | cons token rest =>
      constructor
      · exact fun ⟨same, _⟩ => ⟨token, rest, rfl, same⟩
      · rintro ⟨_, _, same, head⟩
        cases same
        exact ⟨head, trivial⟩

theorem agree_on {same : α → β → Prop} {reader : Reader α} {twin : Reader β} {ones twos : List Lexeme}
    (agree : Agree stop other same reader twin) : AgreeOn stop other ones twos same reader twin :=
  fun turns turns' tokens tokens' value rest value' rest' beside _ _ first second =>
    agree turns turns' tokens tokens' value rest value' rest' beside first second

theorem agree_pure {same : α → β → Prop} (value : α) (twin : β) (held : same value twin) :
    Agree stop other same (pure value) (pure twin) := by
  intro turns turns' tokens tokens' value rest value' rest' beside first second
  cases first
  cases second
  exact ⟨held, beside, List.suffix_rfl⟩

theorem agree_fail {same : α → β → Prop} (twin : Reader β) : Agree stop other same fail twin :=
  fun turns _ tokens _ _ _ _ _ _ first _ => absurd first (fail_ne_ok turns tokens _)

theorem agree_failAt {same : α → β → Prop} (line : Nat) (twin : Reader β) : Agree stop other same (failAt line) twin :=
  fun turns _ tokens _ _ _ _ _ _ first _ => absurd first (failAt_ne_ok line turns tokens _)

theorem agree_fail_twin {same : α → β → Prop} (reader : Reader α) : Agree stop other same reader fail :=
  fun _ turns' _ tokens' _ _ _ _ _ _ second => absurd second (fail_ne_ok turns' tokens' _)

theorem agree_bind {R : α → β → Prop} {same : γ → δ → Prop} {first : Reader α} {twin : Reader β}
    {next : α → Reader γ} {after : β → Reader δ} (begin_ : Agree stop other R first twin)
    (goOn : ∀ value other_, R value other_ → Agree stop other same (next value) (after other_)) :
    Agree stop other same (first >>= next) (twin >>= after) := by
  intro turns turns' tokens tokens' value rest value' rest' beside one two
  obtain ⟨middle, left, began, one⟩ := (bind_read_ok _ _ _ _ _).mp one
  obtain ⟨middle', left', began', two⟩ := (bind_read_ok _ _ _ _ _).mp two
  obtain ⟨held, further, used⟩ := begin_ turns turns' tokens tokens' _ _ _ _ beside began began'
  obtain ⟨last, ended, more⟩ := goOn middle middle' held turns turns' left left' _ _ _ _ further one two
  exact ⟨last, ended, more.trans used⟩

theorem agree_looks {reader : Reader α} {twin : Reader β} (first : Looks reader) (second : Looks twin) :
    Agree stop other (fun _ _ => True) reader twin := by
  intro turns turns' tokens tokens' value rest value' rest' beside one two
  obtain rfl := first turns tokens value rest one
  obtain rfl := second turns' tokens' value' rest' two
  exact ⟨trivial, beside, List.suffix_rfl⟩

theorem agree_line : Agree stop other (fun _ _ => True) line line := agree_looks looks_line looks_line

theorem agree_peekSecond : Agree stop other (fun _ _ => True) peekSecond peekSecond :=
  agree_looks looks_peekSecond looks_peekSecond

theorem agree_peek (parting : Parting stop other) {same : α → β → Prop} {next : Lexeme → Reader α}
    {after : Lexeme → Reader β}
    (met : ∀ one two, Meets one two → AgreeOn stop other [one] [two] same (next one) (after two)) :
    Agree stop other same (peek >>= next) (peek >>= after) := by
  intro turns turns' tokens tokens' value rest value' rest' beside first second
  obtain ⟨one, two, head, head', meets⟩ := meets_heads parting tokens tokens' beside
  rw [peek_bind tokens one head] at first
  rw [peek_bind tokens' two head'] at second
  exact met one two meets turns turns' tokens tokens' value rest value' rest' beside
    ((starts_head _ _).mpr head) ((starts_head _ _).mpr head') first second

-- A choice by the next lexeme that treats all those alike at which the runs can part.
theorem agree_choice (parting : Parting stop other) {same : α → β → Prop} {next : Lexeme → Reader α}
    {after : Lexeme → Reader β} {otherwise_ : Reader α} {otherwise' : Reader β}
    (alike : ∀ one two, one.Alike two → AgreeOn stop other [one] [two] same (next one) (after two))
    (default : Agree stop other same otherwise_ otherwise')
    (ends : ∀ lexeme, lexeme.ends = true → next lexeme = otherwise_)
    (follows : ∀ lexeme, lexeme.follows = true → after lexeme = otherwise') :
    Agree stop other same (peek >>= next) (peek >>= after) := by
  refine agree_peek parting fun one two meets => ?_
  cases meets with
  | alike same => exact alike one two same
  | parted ended followed =>
      rw [ends one ended, follows two followed]
      exact agree_on default

theorem beside_started (parting : Parting stop other) (tokens tokens' : List Token) (one two : Lexeme)
    (ones twos : List Lexeme) (beside : Beside stop other tokens tokens') (inner : one.ends = false)
    (starts : Starts (one :: ones) tokens) (starts' : Starts (two :: twos) tokens') :
    ∃ token token' rest rest', tokens = token :: rest ∧ tokens' = token' :: rest' ∧ Beside stop other rest rest' ∧
      Starts ones rest ∧ Starts twos rest' := by
  cases tokens with
  | nil => exact starts.elim
  | cons token rest =>
      cases tokens' with
      | nil => exact starts'.elim
      | cons token' rest' =>
          obtain ⟨_, _, _, _, same, same', _, _, further⟩ :=
            beside_inner parting _ _ one beside ⟨token, rest, rfl, starts.1⟩ inner
          cases same
          cases same'
          exact ⟨token, token', rest, rest', rfl, rfl, further, starts.2, starts'.2⟩

theorem on_skip_on (parting : Parting stop other) {same : α → β → Prop} {next : Reader α} {after : Reader β}
    {one two : Lexeme} {ones twos : List Lexeme} (inner : one.ends = false)
    (agree : AgreeOn stop other ones twos same next after) :
    AgreeOn stop other (one :: ones) (two :: twos) same (skip >>= fun _ => next) (skip >>= fun _ => after) := by
  intro turns turns' tokens tokens' value rest value' rest' beside starts starts' first second
  obtain ⟨token, token', left, left', rfl, rfl, further, begun, begun'⟩ :=
    beside_started parting tokens tokens' one two ones twos beside inner starts starts'
  obtain ⟨held, ended, used⟩ := agree turns turns' left left' value rest value' rest' further begun begun' first second
  exact ⟨held, ended, used.trans (List.suffix_cons token left)⟩

theorem on_skip (parting : Parting stop other) {same : α → β → Prop} {next : Reader α} {after : Reader β}
    {one two : Lexeme} {ones twos : List Lexeme} (inner : one.ends = false) (agree : Agree stop other same next after) :
    AgreeOn stop other (one :: ones) (two :: twos) same (skip >>= fun _ => next) (skip >>= fun _ => after) :=
  on_skip_on parting inner (agree_on agree)

theorem on_second (parting : Parting stop other) {same : α → β → Prop} {next : Option Lexeme → Reader α}
    {after : Option Lexeme → Reader β} {one two : Lexeme} (inner : one.ends = false)
    (met : ∀ second second', Meets second second' →
      AgreeOn stop other [one, second] [two, second'] same (next (some second)) (after (some second'))) :
    AgreeOn stop other [one] [two] same (peekSecond >>= next) (peekSecond >>= after) := by
  intro turns turns' tokens tokens' value rest value' rest' beside starts starts' first second
  obtain ⟨token, token', left, left', rfl, rfl, further, -, -⟩ :=
    beside_started parting tokens tokens' one two [] [] beside inner starts starts'
  obtain ⟨low, low', stands, stands', meets⟩ := meets_heads parting left left' further
  obtain ⟨low, more, rfl, rfl⟩ := stands
  obtain ⟨low', more', rfl, rfl⟩ := stands'
  exact met _ _ meets turns turns' _ _ value rest value' rest' beside ⟨starts.1, rfl, trivial⟩ ⟨starts'.1, rfl, trivial⟩
    first second

theorem on_second_choice (parting : Parting stop other) {same : α → β → Prop} {next : Option Lexeme → Reader α}
    {after : Option Lexeme → Reader β} {otherwise_ : Reader α} {otherwise' : Reader β} {one two : Lexeme}
    (inner : one.ends = false)
    (alike : ∀ second second', second.Alike second' →
      AgreeOn stop other [one, second] [two, second'] same (next (some second)) (after (some second')))
    (default : Agree stop other same otherwise_ otherwise')
    (ends : ∀ lexeme, lexeme.ends = true → next (some lexeme) = otherwise_)
    (follows : ∀ lexeme, lexeme.follows = true → after (some lexeme) = otherwise') :
    AgreeOn stop other [one] [two] same (peekSecond >>= next) (peekSecond >>= after) := by
  refine on_second parting inner fun second second' meets => ?_
  cases meets with
  | alike same => exact alike second second' same
  | parted ended followed =>
      rw [ends second ended, follows second' followed]
      exact agree_on default

/-! ## Single tokens -/

theorem follows_of_ends (lexeme : Lexeme) (ends : lexeme.ends = true) : lexeme.follows = true := by
  unfold Lexeme.follows
  split
  · rfl
  · rfl
  · exact ends

theorem parting_self (parting : Parting stop other) : Parting stop stop :=
  ⟨parting.ends, parting.ends.imp fun lexeme ended => ⟨ended.1, follows_of_ends lexeme ended.2⟩⟩

theorem same_lexeme (lexeme one two : Lexeme) (plain : ∀ literal, lexeme ≠ .string literal) (alike : one.Alike two) :
    one = lexeme ↔ two = lexeme := by
  cases alike with
  | same => exact Iff.rfl
  | string => exact ⟨fun same => absurd same.symm (plain _), fun same => absurd same.symm (plain _)⟩

theorem meets_same (lexeme one two : Lexeme) (plain : ∀ literal, lexeme ≠ .string literal)
    (apart : lexeme.follows = false) (meets : Meets one two) : one = lexeme ↔ two = lexeme := by
  cases meets with
  | alike alike => exact same_lexeme lexeme one two plain alike
  | parted ends follows =>
      constructor
      · rintro rfl
        rw [follows_of_ends one ends] at apart
        cases apart
      · rintro rfl
        rw [follows] at apart
        cases apart

theorem agree_accept (parting : Parting stop other) (lexeme : Lexeme) (plain : ∀ literal, lexeme ≠ .string literal)
    (apart : lexeme.follows = false) : Agree stop other Eq (accept lexeme) (accept lexeme) := by
  intro turns turns' tokens tokens' value rest value' rest' beside first second
  obtain ⟨one, two, head, head', meets⟩ := meets_heads parting tokens tokens' beside
  rw [accept_read lexeme one tokens head] at first
  rw [accept_read lexeme two tokens' head'] at second
  have both := meets_same lexeme one two plain apart meets
  by_cases stands : one = lexeme
  · rw [if_pos stands] at first
    rw [if_pos (both.mp stands)] at second
    cases first
    cases second
    have inner : one.ends = false := by
      cases ends : one.ends with
      | false => rfl
      | true => rw [← stands, follows_of_ends one ends] at apart; cases apart
    obtain ⟨token, token', left, left', rfl, rfl, -, -, further⟩ := beside_inner parting tokens tokens' one beside head inner
    exact ⟨rfl, further, List.suffix_cons token left⟩
  · rw [if_neg stands] at first
    rw [if_neg (fun same => stands (both.mpr same))] at second
    cases first
    cases second
    exact ⟨rfl, beside, List.suffix_rfl⟩

theorem agree_acceptMark (parting : Parting stop other) (mark : Mark) (apart : (Lexeme.mark mark).follows = false) :
    Agree stop other Eq (acceptMark mark) (acceptMark mark) :=
  agree_accept parting _ (fun _ => Lexeme.noConfusion) apart

theorem agree_acceptWord (parting : Parting stop other) (word : Keyword) :
    Agree stop other Eq (acceptWord word) (acceptWord word) :=
  agree_accept parting _ (fun _ => Lexeme.noConfusion) rfl

theorem agree_need (parting : Parting stop other) (lexeme : Lexeme) (inner : lexeme.ends = false) :
    Agree stop other Eq (need lexeme) (need lexeme) := by
  intro turns turns' tokens tokens' value rest value' rest' beside first second
  obtain ⟨head, rfl⟩ := need_read lexeme turns tokens rest first
  obtain ⟨-, rfl⟩ := need_read lexeme turns' tokens' rest' second
  obtain ⟨token, token', left, left', rfl, rfl, -, -, further⟩ := beside_inner parting tokens tokens' _ beside head inner
  exact ⟨rfl, further, List.suffix_cons token left⟩

theorem agree_isMark (parting : Parting stop other) (mark : Mark) (apart : (Lexeme.mark mark).follows = false) :
    Agree stop other Eq (isMark mark) (isMark mark) := by
  intro turns turns' tokens tokens' value rest value' rest' beside first second
  obtain ⟨one, two, head, head', meets⟩ := meets_heads parting tokens tokens' beside
  rw [isMark_head mark one tokens head] at first
  rw [isMark_head mark two tokens' head'] at second
  cases first
  cases second
  exact ⟨decide_eq_decide.mpr (meets_same _ one two (fun _ => Lexeme.noConfusion) apart meets), beside, List.suffix_rfl⟩

theorem agree_isWord (parting : Parting stop other) (word : Keyword) :
    Agree stop other Eq (isWord word) (isWord word) := by
  intro turns turns' tokens tokens' value rest value' rest' beside first second
  obtain ⟨one, two, head, head', meets⟩ := meets_heads parting tokens tokens' beside
  rw [isWord_head word one tokens head] at first
  rw [isWord_head word two tokens' head'] at second
  cases first
  cases second
  exact ⟨decide_eq_decide.mpr (meets_same _ one two (fun _ => Lexeme.noConfusion) rfl meets), beside, List.suffix_rfl⟩

-- A mark that may also stand behind the stop: the run that ends there must not go on without it.
def Stuck (reader : Reader α) : Prop := ∀ lexeme, lexeme.ends = true → Refuses lexeme reader

theorem agree_accept_or (parting : Parting stop other) (mark : Mark) {same : α → β → Prop} {yes no : Reader α}
    {yes' no' : Reader β} (taken : Agree stop other same yes yes') (left : Agree stop other same no no')
    (stuck : Stuck no) :
    Agree stop other same (acceptMark mark >>= fun found => if found = true then yes else no)
      (acceptMark mark >>= fun found => if found = true then yes' else no') := by
  intro turns turns' tokens tokens' value rest value' rest' beside first second
  rw [bind_read, acceptMark] at first second
  cases beside with
  | stop =>
      obtain ⟨lexeme, head, ends⟩ := parting.ends
      have differs : lexeme ≠ .mark mark := by
        rintro rfl
        cases ends
      rw [accept_read _ lexeme stop head, if_neg differs] at first
      exact absurd first (stuck lexeme ends turns stop (value, rest) head)
  | cons one two more more' inner alike further =>
      rw [accept_read _ one.lexeme _ ⟨one, more, rfl, rfl⟩] at first
      rw [accept_read _ two.lexeme _ ⟨two, more', rfl, rfl⟩] at second
      have both := same_lexeme (.mark mark) _ _ (fun _ => Lexeme.noConfusion) alike
      by_cases stands : one.lexeme = .mark mark
      · rw [if_pos stands] at first
        rw [if_pos (both.mp stands)] at second
        obtain ⟨held, ended, used⟩ := taken turns turns' more more' _ _ _ _ further first second
        exact ⟨held, ended, used.trans (List.suffix_cons one more)⟩
      · rw [if_neg stands] at first
        rw [if_neg (fun same => stands (both.mpr same))] at second
        exact left turns turns' _ _ _ _ _ _ (.cons one two more more' inner alike further) first second

theorem agree_isMark_or (parting : Parting stop other) (mark : Mark) {same : α → β → Prop} {yes no : Reader α}
    {yes' no' : Reader β} (taken : AgreeOn stop other [.mark mark] [.mark mark] same yes yes')
    (left : Agree stop other same no no') (stuck : Stuck no) :
    Agree stop other same (isMark mark >>= fun found => if found = true then yes else no)
      (isMark mark >>= fun found => if found = true then yes' else no') := by
  intro turns turns' tokens tokens' value rest value' rest' beside first second
  rw [bind_read] at first second
  cases beside with
  | stop =>
      obtain ⟨lexeme, head, ends⟩ := parting.ends
      have differs : lexeme ≠ .mark mark := by
        rintro rfl
        cases ends
      rw [isMark_head _ lexeme stop head, decide_eq_false differs] at first
      exact absurd first (stuck lexeme ends turns stop (value, rest) head)
  | cons one two more more' inner alike further =>
      rw [isMark_head _ one.lexeme _ ⟨one, more, rfl, rfl⟩] at first
      rw [isMark_head _ two.lexeme _ ⟨two, more', rfl, rfl⟩] at second
      have both := same_lexeme (.mark mark) _ _ (fun _ => Lexeme.noConfusion) alike
      have goesOn := Beside.cons one two more more' inner alike further
      by_cases stands : one.lexeme = .mark mark
      · rw [decide_eq_true stands] at first
        rw [decide_eq_true (both.mp stands)] at second
        exact taken turns turns' _ _ _ _ _ _ goesOn ⟨stands, trivial⟩ ⟨both.mp stands, trivial⟩ first second
      · rw [decide_eq_false stands] at first
        rw [decide_eq_false (fun same => stands (both.mpr same))] at second
        exact left turns turns' _ _ _ _ _ _ goesOn first second

theorem agree_identifier (parting : Parting stop other) : Agree stop other Eq identifier identifier := by
  refine agree_peek parting fun one two meets => ?_
  cases meets with
  | alike alike =>
      cases alike with
      | same =>
          cases one with
          | name id => exact on_skip parting rfl (agree_pure id id rfl)
          | _ => exact agree_on (agree_fail _)
      | string => exact agree_on (agree_fail _)
  | parted ends follows =>
      cases one with
      | name id => cases ends
      | _ => exact agree_on (agree_fail _)

/-! ## Repetitions -/

theorem agree_iterate {state : α → γ → Prop} {same : β → δ → Prop} {step : α → Reader (α ⊕ β)}
    {twin : γ → Reader (γ ⊕ δ)}
    (each : ∀ value other_, state value other_ → Agree stop other (Sum.LiftRel state same) (step value) (twin other_))
    (fuel fuel' : Nat) (value : α) (other_ : γ) (held : state value other_) :
    Agree stop other same (iterate step fuel value) (iterate twin fuel' other_) := by
  induction fuel generalizing fuel' value other_ with
  | zero => exact agree_fail _
  | succ fuel ih =>
      cases fuel' with
      | zero => exact agree_fail_twin _
      | succ fuel' =>
          refine agree_bind (each value other_ held) fun one two lifted => ?_
          cases lifted with
          | inl next => exact ih fuel' _ _ next
          | inr result => exact agree_pure _ _ result

theorem agree_loop (state : α → γ → Prop) {same : β → δ → Prop} {start : α} {start' : γ} {step : α → Reader (α ⊕ β)}
    {twin : γ → Reader (γ ⊕ δ)} (held : state start start')
    (each : ∀ value other_, state value other_ → Agree stop other (Sum.LiftRel state same) (step value) (twin other_)) :
    Agree stop other same (loop start step) (loop start' twin) :=
  fun turns turns' => agree_iterate each turns turns' start start' held turns turns'

/-! ## Readers that cannot end well -/

def Never (reader : Reader α) : Prop := ∀ turns tokens result, reader turns tokens ≠ .ok result

theorem never_fail : Never (fail : Reader α) := fun turns tokens result => fail_ne_ok turns tokens result

theorem never_failAt (line : Nat) : Never (failAt line : Reader α) :=
  fun turns tokens result => failAt_ne_ok line turns tokens result

theorem never_bind {first : Reader α} {next : α → Reader β} (never : Never first) : Never (first >>= next) := by
  intro turns tokens result ran
  obtain ⟨_, _, one, _⟩ := (bind_read_ok _ _ _ _ _).mp ran
  exact never turns tokens _ one

theorem never_after {first : Reader α} {next : α → Reader β} (never : ∀ value, Never (next value)) :
    Never (first >>= next) := by
  intro turns tokens result ran
  obtain ⟨value, rest, _, two⟩ := (bind_read_ok _ _ _ _ _).mp ran
  exact never value turns rest result two

theorem refuses_never {reader : Reader α} (lexeme : Lexeme) (never : Never reader) : Refuses lexeme reader :=
  fun turns tokens result _ => never turns tokens result

theorem looks_never {reader : Reader α} (never : Never reader) : Looks reader :=
  fun turns tokens _ _ ran => absurd ran (never turns tokens _)

theorem agree_never {same : α → β → Prop} {reader : Reader α} {twin : Reader β} (never : Never reader) :
    Agree stop other same reader twin :=
  fun turns _ tokens _ _ _ _ _ _ first _ => absurd first (never turns tokens _)

-- A mark that must not follow: both runs have gone on without it.
theorem agree_isMark_not (mark : Mark) {same : α → β → Prop} {yes no : Reader α} {yes' no' : Reader β}
    (never : Never yes) (never' : Never yes') (left : Agree stop other same no no') :
    Agree stop other same (isMark mark >>= fun found => if found = true then yes else no)
      (isMark mark >>= fun found => if found = true then yes' else no') := by
  intro turns turns' tokens tokens' value rest value' rest' beside first second
  obtain ⟨found, after, looked, first⟩ := (bind_read_ok _ _ _ _ _).mp first
  obtain ⟨found', after', looked', second⟩ := (bind_read_ok _ _ _ _ _).mp second
  obtain rfl := looks_isMark mark turns tokens found after looked
  obtain rfl := looks_isMark mark turns' tokens' found' after' looked'
  cases found with
  | true => exact absurd first (never turns _ _)
  | false =>
      cases found' with
      | true => exact absurd second (never' turns' _ _)
      | false => exact left turns turns' _ _ _ _ _ _ beside first second

/-! ## Readers that are told by what follows -/

-- The runs agree where what the first one leaves begins as wanted.
def AgreeIf (stop other : List Token) (ones twos : List Lexeme) (wanted : Lexeme → Prop) (same : α → β → Prop)
    (reader : Reader α) (twin : Reader β) : Prop :=
  ∀ turns turns' tokens tokens' value rest value' rest', Beside stop other tokens tokens' →
    Starts ones tokens → Starts twos tokens' → reader turns tokens = .ok (value, rest) →
    twin turns' tokens' = .ok (value', rest') → (∃ lexeme, HeadIs rest lexeme ∧ wanted lexeme) →
    same value value' ∧ Beside stop other rest rest' ∧ rest <:+ tokens

section
variable {wanted : Lexeme → Prop}

theorem agreeIf_on {same : α → β → Prop} {reader : Reader α} {twin : Reader β} {ones twos : List Lexeme}
    (agree : AgreeOn stop other ones twos same reader twin) : AgreeIf stop other ones twos wanted same reader twin :=
  fun turns turns' tokens tokens' value rest value' rest' beside starts starts' first second _ =>
    agree turns turns' tokens tokens' value rest value' rest' beside starts starts' first second

theorem agreeIf_more {same : α → β → Prop} {reader : Reader α} {twin : Reader β} {ones twos : List Lexeme}
    (agree : AgreeIf stop other [] [] wanted same reader twin) : AgreeIf stop other ones twos wanted same reader twin :=
  fun turns turns' tokens tokens' value rest value' rest' beside _ _ first second follows =>
    agree turns turns' tokens tokens' value rest value' rest' beside trivial trivial first second follows

theorem agreeIf_bind {between : α → β → Prop} {same : γ → δ → Prop} {first : Reader α} {twin : Reader β}
    {next : α → Reader γ} {after : β → Reader δ} (begin_ : Agree stop other between first twin)
    (goOn : ∀ value other_, between value other_ → AgreeIf stop other [] [] wanted same (next value) (after other_)) :
    AgreeIf stop other [] [] wanted same (first >>= next) (twin >>= after) := by
  intro turns turns' tokens tokens' value rest value' rest' beside _ _ one two follows
  obtain ⟨middle, left, began, one⟩ := (bind_read_ok _ _ _ _ _).mp one
  obtain ⟨middle', left', began', two⟩ := (bind_read_ok _ _ _ _ _).mp two
  obtain ⟨held, further, used⟩ := begin_ turns turns' tokens tokens' _ _ _ _ beside began began'
  obtain ⟨last, ended, more⟩ :=
    goOn middle middle' held turns turns' left left' _ _ _ _ further trivial trivial one two follows
  exact ⟨last, ended, more.trans used⟩

-- What follows refuses all other beginnings.
theorem agree_then {between : α → β → Prop} {same : γ → δ → Prop} {first : Reader α} {twin : Reader β}
    {next : α → Reader γ} {after : β → Reader δ} (begin_ : AgreeIf stop other [] [] wanted between first twin)
    (goOn : ∀ value other_, between value other_ → Agree stop other same (next value) (after other_))
    (refused : ∀ value lexeme, ¬ wanted lexeme → Refuses lexeme (next value)) (full : ∀ value turns, ∀ result,
      next value turns [] ≠ .ok result) :
    Agree stop other same (first >>= next) (twin >>= after) := by
  intro turns turns' tokens tokens' value rest value' rest' beside one two
  obtain ⟨middle, left, began, one⟩ := (bind_read_ok _ _ _ _ _).mp one
  obtain ⟨middle', left', began', two⟩ := (bind_read_ok _ _ _ _ _).mp two
  have follows : ∃ lexeme, HeadIs left lexeme ∧ wanted lexeme := by
    cases left with
    | nil => exact absurd one (full middle turns _)
    | cons token more =>
        refine ⟨token.lexeme, ⟨token, more, rfl, rfl⟩, ?_⟩
        by_contra unwanted
        exact refused middle _ unwanted turns _ _ ⟨token, more, rfl, rfl⟩ one
  obtain ⟨held, further, used⟩ := begin_ turns turns' tokens tokens' _ _ _ _ beside trivial trivial began began' follows
  obtain ⟨last, ended, more⟩ := goOn middle middle' held turns turns' left left' _ _ _ _ further one two
  exact ⟨last, ended, more.trans used⟩

theorem agreeIf_peek (parting : Parting stop other) {same : α → β → Prop} {next : Lexeme → Reader α}
    {after : Lexeme → Reader β}
    (met : ∀ one two, Meets one two → AgreeIf stop other [one] [two] wanted same (next one) (after two)) :
    AgreeIf stop other [] [] wanted same (peek >>= next) (peek >>= after) := by
  intro turns turns' tokens tokens' value rest value' rest' beside _ _ first second follows
  obtain ⟨one, two, head, head', meets⟩ := meets_heads parting tokens tokens' beside
  rw [peek_bind tokens one head] at first
  rw [peek_bind tokens' two head'] at second
  exact met one two meets turns turns' tokens tokens' value rest value' rest' beside
    ((starts_head _ _).mpr head) ((starts_head _ _).mpr head') first second follows

theorem agreeIf_choice (parting : Parting stop other) {same : α → β → Prop} {next : Lexeme → Reader α}
    {after : Lexeme → Reader β} {otherwise_ : Reader α} {otherwise' : Reader β}
    (alike : ∀ one two, one.Alike two → AgreeIf stop other [one] [two] wanted same (next one) (after two))
    (default : AgreeIf stop other [] [] wanted same otherwise_ otherwise')
    (ends : ∀ lexeme, lexeme.ends = true → next lexeme = otherwise_)
    (follows : ∀ lexeme, lexeme.follows = true → after lexeme = otherwise') :
    AgreeIf stop other [] [] wanted same (peek >>= next) (peek >>= after) := by
  refine agreeIf_peek parting fun one two meets => ?_
  cases meets with
  | alike same => exact alike one two same
  | parted ended followed =>
      rw [ends one ended, follows two followed]
      exact agreeIf_more default

theorem agreeIf_second (parting : Parting stop other) {same : α → β → Prop} {next : Option Lexeme → Reader α}
    {after : Option Lexeme → Reader β} {one two : Lexeme} (inner : one.ends = false)
    (met : ∀ second second', Meets second second' →
      AgreeIf stop other [one, second] [two, second'] wanted same (next (some second)) (after (some second'))) :
    AgreeIf stop other [one] [two] wanted same (peekSecond >>= next) (peekSecond >>= after) := by
  intro turns turns' tokens tokens' value rest value' rest' beside starts starts' first second follows
  obtain ⟨token, token', left, left', rfl, rfl, further, -, -⟩ :=
    beside_started parting tokens tokens' one two [] [] beside inner starts starts'
  obtain ⟨low, low', stands, stands', meets⟩ := meets_heads parting left left' further
  obtain ⟨low, more, rfl, rfl⟩ := stands
  obtain ⟨low', more', rfl, rfl⟩ := stands'
  exact met _ _ meets turns turns' _ _ value rest value' rest' beside ⟨starts.1, rfl, trivial⟩ ⟨starts'.1, rfl, trivial⟩
    first second follows

-- What follows takes nothing.
theorem agreeIf_looking {between : α → β → Prop} {same : γ → δ → Prop} {first : Reader α} {twin : Reader β}
    {next : α → Reader γ} {after : β → Reader δ} (begin_ : AgreeIf stop other [] [] wanted between first twin)
    (looks : ∀ value, Looks (next value))
    (goOn : ∀ value other_, between value other_ → Agree stop other same (next value) (after other_)) :
    AgreeIf stop other [] [] wanted same (first >>= next) (twin >>= after) := by
  intro turns turns' tokens tokens' value rest value' rest' beside _ _ one two follows
  obtain ⟨middle, left, began, one⟩ := (bind_read_ok _ _ _ _ _).mp one
  obtain ⟨middle', left', began', two⟩ := (bind_read_ok _ _ _ _ _).mp two
  have untouched := looks middle turns left value rest one
  rw [untouched] at follows
  obtain ⟨held, further, used⟩ := begin_ turns turns' tokens tokens' _ _ _ _ beside trivial trivial began began' follows
  obtain ⟨last, ended, more⟩ := goOn middle middle' held turns turns' left left' _ _ _ _ further one two
  exact ⟨last, ended, more.trans used⟩

-- A mark that may be left out, and is if the run ends here.
theorem agreeIf_accept (parting : Parting stop other) (unwanted : ∀ lexeme : Lexeme, lexeme.ends = true → ¬ wanted lexeme)
    (mark : Mark) {same : α → β → Prop} {yes : Reader α} {yes' : Reader β} (taken : Agree stop other same yes yes')
    (value : α) (value' : β) (held : same value value') :
    AgreeIf stop other [] [] wanted same (acceptMark mark >>= fun found => if found = true then yes else pure value)
      (acceptMark mark >>= fun found => if found = true then yes' else pure value') := by
  intro turns turns' tokens tokens' result rest result' rest' beside _ _ first second follows
  rw [bind_read, acceptMark] at first second
  cases beside with
  | stop =>
      obtain ⟨lexeme, head, ends⟩ := parting.ends
      have differs : lexeme ≠ .mark mark := by
        rintro rfl
        cases ends
      rw [accept_read _ lexeme stop head, if_neg differs] at first
      cases first
      obtain ⟨last, stands, wanted⟩ := follows
      rw [head_unique stop last lexeme stands head] at wanted
      exact absurd wanted (unwanted lexeme ends)
  | cons one two more more' inner alike further =>
      rw [accept_read _ one.lexeme _ ⟨one, more, rfl, rfl⟩] at first
      rw [accept_read _ two.lexeme _ ⟨two, more', rfl, rfl⟩] at second
      have both := same_lexeme (.mark mark) _ _ (fun _ => Lexeme.noConfusion) alike
      by_cases stands : one.lexeme = .mark mark
      · rw [if_pos stands] at first
        rw [if_pos (both.mp stands)] at second
        obtain ⟨also, ended, used⟩ := taken turns turns' more more' _ _ _ _ further first second
        exact ⟨also, ended, used.trans (List.suffix_cons one more)⟩
      · rw [if_neg stands] at first
        rw [if_neg (fun same => stands (both.mpr same))] at second
        cases first
        cases second
        exact ⟨held, .cons one two more more' inner alike further, List.suffix_rfl⟩

end

end

end Reader

end Statewright.Code
