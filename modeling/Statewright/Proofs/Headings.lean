import Statewright.Code.Fragment
import Statewright.Proofs.Tokens

/-!
The tokens of the heading of a function. Those of its parameters begin after the bracket, or after the object and a
comma, and are the same there and here.
-/
set_option autoImplicit false

namespace Statewright.Code

open Lexer

theorem even_other (c : Char) (text : Text) (other : c ≠ '\r') : evenLineEnds (c :: text) = c :: evenLineEnds text := by
  rw [evenLineEnds]
  · exact fun _ same => absurd same other
  · exact other

theorem even_return (text : Text) (alone : ∀ rest, text ≠ '\n' :: rest) :
    evenLineEnds ('\r' :: text) = '\n' :: evenLineEnds text := by
  rw [evenLineEnds]
  exact alone

theorem even_after_plain (start text : Text) (plain : '\r' ∉ start) :
    evenLineEnds (start ++ text) = start ++ evenLineEnds text := by
  induction start with
  | nil => rfl
  | cons c start ih =>
      rw [List.mem_cons, not_or] at plain
      rw [List.cons_append, even_other c _ (Ne.symm plain.1), ih plain.2, List.cons_append]

theorem even_before (c : Char) (text rest : Text) (inside : c ≠ '\n') :
    evenLineEnds (text ++ c :: rest) = evenLineEnds text ++ evenLineEnds (c :: rest) := by
  fun_induction evenLineEnds text with
  | case1 => rfl
  | case2 text ih => exact congrArg ('\n' :: ·) ih
  | case3 text alone ih =>
      have still : ∀ after, text ++ c :: rest ≠ '\n' :: after := by
        intro after same
        cases text with
        | nil => exact inside (List.cons.inj same).1
        | cons d text => exact alone text (by rw [(List.cons.inj same).1])
      rw [List.cons_append, even_return _ still, ih, List.cons_append]
  | case4 d text _ other ih => rw [List.cons_append, even_other d _ other, ih, List.cons_append]

-- What stands between the bracket that opens a list of parameters and the end of the line.
def listText (params : Text) : Text := evenLineEnds params ++ "): pass\n"

def inBracket : Lexer.State := ⟨1, [], [(.round, 1)]⟩

def listTokens (params : Text) : List Token :=
  scan (2 * (listText params).length + 2) ⟨false, inBracket, listText params⟩

def headTokens : List Token := [⟨.keyword .def_, 1, 0⟩, ⟨.name "_f", 1, 0⟩, ⟨.mark (.opening .round), 1, 0⟩]

def objectTokens : List Token := [⟨.name "self", 1, 1⟩, ⟨.mark .comma, 1, 1⟩]

theorem scan_step (fuel : Nat) (position next : Position) (tokens : List Token)
    (stepped : step position = (tokens, some next)) : scan (fuel + 1) position = tokens ++ scan fuel next := by
  rw [scan, stepped]

theorem head_scanned (fuel : Nat) (rest : Text) :
    scan (fuel + 4) ⟨true, ⟨1, [], []⟩, Text.fixed "def _f(" ++ rest⟩ =
      headTokens ++ scan fuel ⟨false, inBracket, rest⟩ := by
  rw [scan_step _ _ ⟨false, ⟨1, [], []⟩, Text.fixed "def _f(" ++ rest⟩ [] rfl,
    scan_step _ _ ⟨false, ⟨1, [], []⟩, Text.fixed " _f(" ++ rest⟩ [⟨.keyword .def_, 1, 0⟩] rfl,
    scan_step _ _ ⟨false, ⟨1, [], []⟩, Text.fixed "(" ++ rest⟩ [⟨.name "_f", 1, 0⟩] rfl,
    scan_step _ _ ⟨false, inBracket, rest⟩ [⟨.mark (.opening .round), 1, 0⟩] rfl]
  rfl

theorem object_scanned (fuel : Nat) (rest : Text) :
    scan (fuel + 2) ⟨false, inBracket, Text.fixed "self, " ++ rest⟩ =
      objectTokens ++ scan fuel ⟨false, inBracket, Text.fixed " " ++ rest⟩ := by
  rw [scan_step _ _ ⟨false, inBracket, Text.fixed ", " ++ rest⟩ [⟨.name "self", 1, 1⟩] rfl,
    scan_step _ _ ⟨false, inBracket, Text.fixed " " ++ rest⟩ [⟨.mark .comma, 1, 1⟩] rfl]
  rfl

theorem heading_tokens (before params : Text) (plain : '\r' ∉ Text.fixed "def _f(" ++ before) :
    tokensOfLines (heading before params) =
      scan (2 * (before.length + (listText params).length) + 16)
        ⟨true, ⟨1, [], []⟩, Text.fixed "def _f(" ++ (before ++ listText params)⟩ := by
  have even : evenLineEnds (heading before params) =
      Text.fixed "def _f(" ++ (before ++ (evenLineEnds params ++ Text.fixed "): pass")) := by
    rw [heading, List.append_assoc (_ ++ before), even_after_plain _ _ plain, List.append_assoc]
    congr 2
    exact even_before ')' params ": pass" (by decide)
  have ended : (evenLineEnds (heading before params)).getLast? = some 's' := by
    rw [even, ← List.append_assoc, ← List.append_assoc, List.getLast?_append]
    rfl
  have filled : (evenLineEnds (heading before params)).isEmpty = false := by
    rw [even]
    rfl
  have whole : Text.fixed "def _f(" ++ (before ++ (evenLineEnds params ++ Text.fixed "): pass")) ++ ['\n'] =
      Text.fixed "def _f(" ++ (before ++ listText params) := by
    rw [listText, List.append_assoc, List.append_assoc, List.append_assoc]
    rfl
  have long : (Text.fixed "def _f(").length = 7 := rfl
  unfold tokensOfLines
  simp only [ended, filled, Bool.false_or, Option.some.injEq, show ¬ 's' = '\n' by decide, decide_false,
    Bool.false_eq_true, if_false]
  rw [even, whole, List.length_append, List.length_append, long]
  congr 1
  omega

-- The object and its comma stand before the same tokens; the blank after the comma makes none.
theorem tokens_alone (params : Text) : tokensOfLines (heading [] params) = headTokens ++ listTokens params := by
  rw [heading_tokens [] params (by decide), head_scanned, List.nil_append]
  refine congrArg (headTokens ++ ·) (scan_enough _ _ _ ?_ ?_)
  · simp only [work, Bool.false_eq_true, if_false]
    omega
  · simp only [work, Bool.false_eq_true, if_false]
    omega

theorem tokens_after_object (params : Text) :
    tokensOfLines (heading "self, " params) = headTokens ++ (objectTokens ++ listTokens params) := by
  rw [heading_tokens "self, " params (by decide), head_scanned, object_scanned]
  have blank : ∀ fuel, scan (fuel + 1) ⟨false, inBracket, Text.fixed " " ++ listText params⟩ =
      scan (fuel + 1) ⟨false, inBracket, listText params⟩ := fun fuel => rfl
  rw [blank]
  refine congrArg (fun tokens => headTokens ++ (objectTokens ++ tokens)) (scan_enough _ _ _ ?_ ?_)
  · simp only [work, Bool.false_eq_true, if_false]
    omega
  · simp only [work, Bool.false_eq_true, if_false]
    omega

end Statewright.Code
