import Statewright.Proofs.TwinReadings

/-!
Expressions in front of different stops. An expression that ends where nothing goes on is the same expression where an
equals sign or the end of a call follows.
-/
set_option autoImplicit false

namespace Statewright.Code

open Reader

structure RulesAgree (stop other : List Token) (rules twin : Rules) : Prop where
  factor : Agree stop other Eq rules.factor twin.factor
  operand : Agree stop other Eq rules.operand twin.operand
  negation : Agree stop other Eq rules.negation twin.negation
  disjunction : Agree stop other Eq rules.disjunction twin.disjunction
  expression : Agree stop other Eq rules.expression twin.expression
  operandRefuses : ∀ lexeme, Expression.startsOperand lexeme = false → Refuses lexeme rules.operand
  expressionRefuses : ∀ lexeme, Expression.startsExpression lexeme = false → Refuses lexeme rules.expression

namespace Expression

theorem ends_starts_nothing : ∀ lexeme : Lexeme, lexeme.ends = true → startsExpression lexeme = false :=
  Lexeme.ends_all rfl rfl rfl rfl fun _ => rfl

section
variable {stop other : List Token} (parting : Parting stop other)
include parting

theorem agree_chain {operand twin : Reader Expr} (agree : Agree stop other Eq operand twin) (marks : List Mark)
    (equals : marks.contains .equals = false) (close : marks.contains (.closing .round) = false) :
    Agree stop other Eq (chain operand marks) (chain twin marks) := by
  refine agree_bind agree fun first _ same => agree_loop Eq same fun left _ same => ?_
  obtain rfl := same
  have default : Agree stop other (Sum.LiftRel Eq Eq) (pure (.inr left) : Reader (Expr ⊕ Expr)) (pure (.inr left)) :=
    agree_pure _ _ (.inr rfl)
  refine agree_choice parting (fun one two alike => ?_) default ?_ ?_
  · cases alike with
    | string => exact agree_on default
    | same =>
        cases one with
        | mark mark =>
            dsimp only
            by_cases listed : marks.contains mark = true
            · rw [if_pos listed, if_pos listed]
              exact on_skip parting rfl (agree_bind agree fun _ _ _ => agree_pure _ _ (.inl rfl))
            · rw [if_neg listed, if_neg listed]
              exact agree_on default
        | _ => exact agree_on default
  · exact Lexeme.ends_all rfl rfl rfl rfl fun _ => rfl
  · refine Lexeme.follows_all ?_ ?_ (Lexeme.ends_all rfl rfl rfl rfl fun _ => rfl)
    · simp only [equals, Bool.false_eq_true, if_false]
    · simp only [close, Bool.false_eq_true, if_false]

theorem agree_starredOperand {operand twin : Reader Expr} (agree : Agree stop other Eq operand twin) :
    Agree stop other Eq (starredOperand operand) (starredOperand twin) := by
  refine agree_bind (agree_need parting _ rfl) fun _ _ _ => agree_bind agree fun value _ same => ?_
  exact agree_pure _ _ (congrArg Expr.starred same)

/-! ## Operators -/

section
variable {rules twin : Rules} (agree : RulesAgree stop other rules twin)
include agree

theorem agree_power {primary primary' : Reader Expr} (owner : Agree stop other Eq primary primary') :
    Agree stop other Eq (power rules primary) (power twin primary') := by
  refine agree_bind owner fun base _ same => agree_bind (agree_acceptMark parting _ rfl) fun raised _ found => ?_
  obtain rfl := found
  cases raised with
  | true => exact agree_bind agree.factor fun _ _ _ => agree_pure _ _ rfl
  | false => exact agree_pure _ _ same

theorem agree_factor {primary primary' : Reader Expr} (owner : Agree stop other Eq primary primary') :
    Agree stop other Eq (factor rules primary) (factor twin primary') := by
  have default := agree_power parting agree owner
  refine agree_choice parting (fun one two alike => ?_) default ?_ ?_
  · cases alike with
    | string => exact agree_on default
    | same =>
        cases one with
        | mark mark =>
            cases mark with
            | plus => exact on_skip parting rfl (agree_bind agree.factor fun _ _ _ => agree_pure _ _ rfl)
            | minus =>
                exact on_skip parting rfl
                  (agree_bind agree.factor fun _ _ same => agree_pure _ _ (congrArg Expr.negative same))
            | tilde => exact on_skip parting rfl (agree_bind agree.factor fun _ _ _ => agree_pure _ _ rfl)
            | _ => exact agree_on default
        | _ => exact agree_on default
  · exact Lexeme.ends_all rfl rfl rfl rfl fun _ => rfl
  · exact Lexeme.follows_all rfl rfl (Lexeme.ends_all rfl rfl rfl rfl fun _ => rfl)

theorem agree_operand {primary primary' : Reader Expr} (owner : Agree stop other Eq primary primary') :
    Agree stop other Eq (operand rules primary) (operand twin primary') := by
  have product := agree_chain parting (agree_factor parting agree owner) [.star, .slash, .doubleSlash, .percent, .at_] rfl rfl
  have sum := agree_chain parting product [.plus, .minus] rfl rfl
  have shift := agree_chain parting sum [.shiftLeft, .shiftRight] rfl rfl
  have meet := agree_chain parting shift [.ampersand] rfl rfl
  have difference := agree_chain parting meet [.caret] rfl rfl
  exact agree_chain parting difference [.bar] rfl rfl

omit agree in
theorem agree_relation : Agree stop other Eq relation? relation? := by
  have default : Agree stop other Eq (pure none : Reader (Option Relation)) (pure none) := agree_pure _ _ rfl
  refine agree_choice parting (fun one two alike => ?_) default ?_ ?_
  · cases alike with
    | string => exact agree_on default
    | same =>
        have taken (relation : Relation) : Agree stop other Eq (pure (some relation)) (pure (some relation)) :=
          agree_pure _ _ rfl
        cases one with
        | mark mark =>
            cases mark with
            | equal | notEqual | less | lessEqual | greater | greaterEqual => exact on_skip parting rfl (taken _)
            | _ => exact agree_on default
        | keyword word =>
            cases word with
            | in_ => exact on_skip parting rfl (taken _)
            | is_ =>
                refine on_skip parting rfl (agree_bind (agree_acceptWord parting _) fun inverse _ found => ?_)
                obtain rfl := found
                cases inverse <;> exact taken _
            | not_ =>
                refine on_second parting rfl fun low low' meets => ?_
                have both := meets_same (.keyword .in_) low low' (fun _ => Lexeme.noConfusion) rfl meets
                by_cases among : low = .keyword .in_
                · rw [if_pos (congrArg some among), if_pos (congrArg some (both.mp among))]
                  exact on_skip_on parting rfl (among ▸ on_skip parting rfl (taken .notAmong))
                · rw [if_neg (fun same => among (Option.some.inj same)),
                    if_neg (fun same => among (both.mpr (Option.some.inj same)))]
                  exact agree_on default
            | _ => exact agree_on default
        | _ => exact agree_on default
  · exact Lexeme.ends_all rfl rfl rfl rfl fun _ => rfl
  · exact Lexeme.follows_all rfl rfl (Lexeme.ends_all rfl rfl rfl rfl fun _ => rfl)

omit agree in
theorem agree_comparison {operand operand' : Reader Expr} (part : Agree stop other Eq operand operand') :
    Agree stop other Eq (comparison operand) (comparison operand') := by
  refine agree_bind part fun first _ same => agree_loop Eq (by rw [same]) fun state _ same => ?_
  obtain rfl := same
  obtain ⟨left, single⟩ := state
  refine agree_bind (agree_relation parting) fun relation _ same => ?_
  obtain rfl := same
  cases relation with
  | none => exact agree_pure _ _ (.inr rfl)
  | some relation =>
      refine agree_bind part fun right _ same => ?_
      obtain rfl := same
      exact agree_pure _ _ (.inl rfl)

omit agree in
theorem agree_joined {part part' : Reader Expr} (one : Agree stop other Eq part part') (word : Keyword) :
    Agree stop other Eq (joined part word) (joined part' word) := by
  refine agree_bind one fun first _ same => agree_loop Eq same fun left _ same => ?_
  refine agree_bind (agree_acceptWord parting word) fun found _ accepted => ?_
  obtain rfl := accepted
  cases found with
  | true => exact agree_bind one fun _ _ _ => agree_pure _ _ (.inl rfl)
  | false => exact agree_pure _ _ (.inr same)

theorem agree_negation {operand operand' : Reader Expr} (part : Agree stop other Eq operand operand') :
    Agree stop other Eq (negation rules operand) (negation twin operand') := by
  refine agree_bind (agree_acceptWord parting _) fun found _ accepted => ?_
  obtain rfl := accepted
  cases found with
  | true => exact agree_bind agree.negation fun _ _ same => agree_pure _ _ (congrArg Expr.inverse same)
  | false => exact agree_comparison parting part

theorem agree_disjunction {operand operand' : Reader Expr} (part : Agree stop other Eq operand operand') :
    Agree stop other Eq (disjunction rules operand) (disjunction twin operand') :=
  agree_joined parting (agree_joined parting (agree_negation parting agree part) _) _

end

/-! ## Strings -/

def AlikeLiteral (one two : Literal) : Prop :=
  one.raw = two.raw ∧ one.bytes = two.bytes ∧ one.formatted = two.formatted ∧ one.unicode = two.unicode ∧ one.body = two.body

omit parting in
theorem alike_textOf (one two : Literal) (alike : AlikeLiteral one two) :
    StringValue.textOf one = StringValue.textOf two := by
  obtain ⟨raw, bytes, _, _, body⟩ := alike
  simp only [StringValue.textOf, raw, bytes, body]

theorem agree_literals : Agree stop other (List.Forall₂ AlikeLiteral) literals literals := by
  refine agree_loop (List.Forall₂ AlikeLiteral) .nil fun read read' held => ?_
  have default : Agree stop other (Sum.LiftRel (List.Forall₂ AlikeLiteral) (List.Forall₂ AlikeLiteral))
      (pure (.inr read.reverse)) (pure (.inr read'.reverse)) :=
    agree_pure _ _ (.inr (List.forall₂_reverse_iff.mpr held))
  refine agree_choice parting (fun one two alike => ?_) default ?_ ?_
  · cases alike with
    | same =>
        cases one with
        | string literal => exact on_skip parting rfl (agree_pure _ _ (.inl (.cons ⟨rfl, rfl, rfl, rfl, rfl⟩ held)))
        | _ => exact agree_on default
    | string => exact on_skip parting rfl (agree_pure _ _ (.inl (.cons ⟨rfl, rfl, rfl, rfl, rfl⟩ held)))
  · exact Lexeme.ends_all rfl rfl rfl rfl fun _ => rfl
  · exact Lexeme.follows_all rfl rfl (Lexeme.ends_all rfl rfl rfl rfl fun _ => rfl)

omit parting in
-- What a literal is read as does not come from the tokens that follow it.
theorem checkLiteral_gives (expression : Reader Expr) (bytes : Bool) (literal : Literal) (turns : Nat)
    (tokens rest : List Token) (value : Option Text)
    (ran : checkLiteral expression bytes literal turns tokens = .ok (value, rest)) :
    value = (if literal.formatted then none else StringValue.textOf literal) ∧ rest = tokens := by
  unfold checkLiteral at ran
  split at ran
  · exact absurd ran (failAt_ne_ok _ _ _ _)
  split at ran
  · exact absurd ran (never_after (fun _ => never_failAt _) turns tokens _)
  split at ran
  · rename_i formatted
    cases found : StringValue.fields literal with
    | none =>
        rw [found] at ran
        exact absurd ran (never_after (fun _ => never_failAt _) turns tokens _)
    | some all =>
        rw [found] at ran
        obtain ⟨_, _, looked, ran⟩ := (bind_read_ok _ _ _ _ _).mp ran
        cases looked
        cases checked : checkFields (expression turns) literal.line all with
        | error fault =>
            rw [checked] at ran
            cases ran
        | ok =>
            rw [checked] at ran
            cases ran
            exact ⟨by rw [if_pos formatted], rfl⟩
  · rename_i plain
    cases read : StringValue.textOf literal with
    | none =>
        rw [read] at ran
        exact absurd ran (never_after (fun _ => never_failAt _) turns tokens _)
    | some text =>
        rw [read] at ran
        cases ran
        exact ⟨by rw [if_neg plain], rfl⟩

omit parting in
theorem agree_checkLiteral (expression expression' : Reader Expr) (bytes : Bool) (one two : Literal)
    (alike : AlikeLiteral one two) :
    Agree stop other Eq (checkLiteral expression bytes one) (checkLiteral expression' bytes two) := by
  intro turns turns' tokens tokens' value rest value' rest' beside first second
  obtain ⟨rfl, rfl⟩ := checkLiteral_gives expression bytes one turns tokens rest value first
  obtain ⟨rfl, rfl⟩ := checkLiteral_gives expression' bytes two turns' tokens' rest' value' second
  rw [alike_textOf one two alike, alike.2.2.1]
  exact ⟨rfl, beside, List.suffix_rfl⟩

omit parting in
theorem agree_checkLiterals (expression expression' : Reader Expr) (bytes : Bool) (all all' : List Literal)
    (alike : List.Forall₂ AlikeLiteral all all') :
    Agree stop other Eq (checkLiterals expression bytes all) (checkLiterals expression' bytes all') := by
  induction alike with
  | nil => exact agree_pure _ _ rfl
  | cons one _ ih =>
      refine agree_bind (agree_checkLiteral _ _ _ _ _ one) fun first _ same => ?_
      obtain rfl := same
      refine agree_bind ih fun more _ same => ?_
      obtain rfl := same
      exact agree_pure _ _ rfl

theorem agree_string (expression expression' : Reader Expr) :
    Agree stop other Eq (string expression) (string expression') := by
  refine agree_bind (agree_literals parting) fun all all' alike => ?_
  cases alike with
  | nil => exact agree_fail _
  | cons one more =>
      have both : AlikeLiteral _ _ := one
      obtain ⟨_, bytes, _, unicode, _⟩ := both
      dsimp only
      rw [bytes]
      refine agree_bind (agree_checkLiterals _ _ _ _ _ (.cons one more)) fun value _ same => ?_
      obtain rfl := same
      cases value with
      | none => exact agree_pure _ _ rfl
      | some text => exact agree_pure _ _ (by rw [unicode])

/-! ## Items -/

theorem agree_restOfItems {item twin : Reader Expr} (agree : Agree stop other Eq item twin) (stuck : Stuck item)
    (close : Mark) (first : Expr) :
    Agree stop other Eq (restOfItems item close first) (restOfItems twin close first) := by
  refine agree_loop Eq rfl fun read _ same => ?_
  obtain rfl := same
  have closed : Agree stop other (Sum.LiftRel Eq Eq) (pure (.inr read.reverse) : Reader (List Expr ⊕ List Expr))
      (pure (.inr read.reverse)) := agree_pure _ _ (.inr rfl)
  refine agree_accept_or parting close closed (agree_bind (agree_need parting _ rfl) fun _ _ _ => ?_) fun lexeme ends =>
    refuses_bind _ _ (refuses_need (by rintro rfl; cases ends))
  refine agree_accept_or parting close closed (agree_bind agree fun one _ same => ?_) fun lexeme ends =>
    refuses_bind _ _ (stuck lexeme ends)
  obtain rfl := same
  exact agree_pure _ _ (.inl rfl)

theorem agree_named {expression twin : Reader Expr} (agree : Agree stop other Eq expression twin) :
    Agree stop other Eq (named expression) (named twin) := by
  have default : Agree stop other Eq
      (do
        let line ← line
        let value ← expression
        if ← isMark .walrus then failAt line
        return value)
      (do
        let line ← line
        let value ← twin
        if ← isMark .walrus then failAt line
        return value) := by
    refine agree_bind agree_line fun _ _ _ => agree_bind agree fun value _ same => ?_
    obtain rfl := same
    exact agree_isMark_not _ (never_bind (never_failAt _)) (never_bind (never_failAt _)) (agree_pure _ _ rfl)
  have otherwise_ := agree_bind agree_peekSecond
    fun _ _ _ => default
  refine agree_choice parting (fun one two alike => ?_) otherwise_ ?_ ?_
  · cases alike with
    | string => exact agree_on otherwise_
    | same =>
        cases one with
        | name id =>
            refine on_second_choice parting rfl (fun second second' alike => ?_) default ?_ ?_
            · cases alike with
              | string => exact agree_on default
              | same =>
                  cases second with
                  | mark mark =>
                      cases mark with
                      | walrus =>
                          exact on_skip_on parting rfl (on_skip parting rfl
                            (agree_bind agree fun _ _ _ => agree_pure _ _ rfl))
                      | _ => exact agree_on default
                  | _ => exact agree_on default
            · exact Lexeme.ends_all rfl rfl rfl rfl fun _ => rfl
            · exact Lexeme.follows_all rfl rfl (Lexeme.ends_all rfl rfl rfl rfl fun _ => rfl)
        | _ => exact agree_on otherwise_
  · exact Lexeme.ends_all rfl rfl rfl rfl fun _ => rfl
  · exact Lexeme.follows_all rfl rfl (Lexeme.ends_all rfl rfl rfl rfl fun _ => rfl)

theorem agree_item {operand operand' expression expression' : Reader Expr} (part : Agree stop other Eq operand operand')
    (whole : Agree stop other Eq expression expression') :
    Agree stop other Eq (item operand expression) (item operand' expression') := by
  refine agree_bind (agree_isMark parting _ rfl) fun starred _ same => ?_
  obtain rfl := same
  cases starred with
  | true => exact agree_starredOperand parting part
  | false => exact agree_named parting whole

theorem agree_starOrExpression {operand operand' expression expression' : Reader Expr}
    (part : Agree stop other Eq operand operand') (whole : Agree stop other Eq expression expression') :
    Agree stop other Eq (starOrExpression operand expression) (starOrExpression operand' expression') := by
  refine agree_bind (agree_isMark parting _ rfl) fun starred _ same => ?_
  obtain rfl := same
  cases starred with
  | true => exact agree_starredOperand parting part
  | false => exact whole

-- An expression that may not begin with a star is read where one that may is asked for.
theorem agree_plain_starOrExpression {expression expression' : Reader Expr} (operand' : Reader Expr)
    (whole : Agree stop other Eq expression expression') (plain : Refuses (.mark .star) expression) :
    Agree stop other Eq expression (starOrExpression operand' expression') := by
  intro turns turns' tokens tokens' value rest value' rest' beside first second
  obtain ⟨one, two, head, head', meets⟩ := meets_heads parting tokens tokens' beside
  have differs : two ≠ .mark .star := by
    rintro rfl
    obtain rfl := (meets_same (.mark .star) one (.mark .star) (fun _ => Lexeme.noConfusion) rfl meets).mpr rfl
    exact plain turns tokens _ head first
  unfold starOrExpression at second
  rw [bind_read, isMark_head _ two tokens' head', decide_eq_false differs] at second
  exact whole turns turns' tokens tokens' value rest value' rest' beside first second

theorem agree_itemFollows : Agree stop other Eq itemFollows itemFollows := by
  have default : Agree stop other Eq (pure false : Reader Bool) (pure false) := agree_pure _ _ rfl
  refine agree_choice parting (fun one two alike => ?_) default ?_ ?_
  · cases alike with
    | same => exact agree_on (agree_pure _ _ rfl)
    | string => exact agree_on (agree_pure _ _ rfl)
  · exact Lexeme.ends_all rfl rfl rfl rfl fun _ => rfl
  · exact Lexeme.follows_all rfl rfl (Lexeme.ends_all rfl rfl rfl rfl fun _ => rfl)

theorem agree_list {one twin : Reader Expr} (agree : Agree stop other Eq one twin) :
    Agree stop other Eq (list one) (list twin) := by
  refine agree_bind agree fun first _ same => agree_bind (agree_isMark parting _ rfl) fun more _ found => ?_
  obtain rfl := same
  obtain rfl := found
  cases more with
  | false => exact agree_pure _ _ rfl
  | true =>
      refine agree_bind (R := Eq) (agree_loop Eq rfl fun read _ same => ?_) fun items _ same => ?_
      · obtain rfl := same
        have ended : Agree stop other (Sum.LiftRel Eq Eq) (pure (.inr read.reverse) : Reader (List Expr ⊕ List Expr))
            (pure (.inr read.reverse)) := agree_pure _ _ (.inr rfl)
        refine agree_bind (agree_acceptMark parting _ rfl) fun comma _ same => ?_
        obtain rfl := same
        cases comma with
        | false => exact ended
        | true =>
            refine agree_bind (agree_itemFollows parting) fun further _ same => ?_
            obtain rfl := same
            cases further with
            | false => exact ended
            | true =>
                refine agree_bind agree fun one _ same => ?_
                obtain rfl := same
                exact agree_pure _ _ (.inl rfl)
      · obtain rfl := same
        exact agree_pure _ _ rfl

theorem agree_yielded {operand operand' expression expression' : Reader Expr}
    (part : Agree stop other Eq operand operand') (whole : Agree stop other Eq expression expression') :
    Agree stop other Eq (yielded operand expression) (yielded operand' expression') := by
  refine agree_bind (agree_need parting _ rfl) fun _ _ _ => ?_
  refine agree_bind (agree_acceptWord parting _) fun delegates _ same => ?_
  obtain rfl := same
  cases delegates with
  | true => exact agree_bind whole fun _ _ _ => agree_pure _ _ rfl
  | false =>
      refine agree_bind (agree_itemFollows parting) fun more _ same => ?_
      obtain rfl := same
      cases more with
      | false => exact agree_pure _ _ rfl
      | true =>
          exact agree_bind (agree_list parting (agree_starOrExpression parting part whole)) fun _ _ _ => agree_pure _ _ rfl

theorem agree_targets {operand operand' : Reader Expr} (part : Agree stop other Eq operand operand') :
    Agree stop other (fun _ _ => True) (targets operand) (targets operand') := by
  refine agree_bind agree_line fun start start' _ => ?_
  refine agree_bind (R := Eq) (agree_list parting ?_) fun all _ same => ?_
  · refine agree_bind (agree_isMark parting _ rfl) fun starred _ same => ?_
    obtain rfl := same
    cases starred with
    | true => exact agree_starredOperand parting part
    | false => exact part
  · obtain rfl := same
    cases isTarget all with
    | true => exact agree_pure _ _ trivial
    | false =>
        refine agree_never (never_after fun head => ?_)
        cases comparesBy head with
        | true => exact never_fail
        | false => exact never_failAt _

/-! ## Clauses -/

theorem agree_clausesFollow : Agree stop other Eq clausesFollow clausesFollow := by
  have no : Agree stop other Eq (pure false : Reader Bool) (pure false) := agree_pure _ _ rfl
  have default := agree_bind agree_peekSecond
    fun _ _ _ => no
  refine agree_choice parting (fun one two alike => ?_) default ?_ ?_
  · cases alike with
    | string => exact agree_on default
    | same =>
        cases one with
        | keyword word =>
            cases word with
            | for_ => exact agree_on (agree_bind agree_peekSecond fun _ _ _ => agree_pure _ _ rfl)
            | async_ =>
                refine on_second_choice parting rfl (fun second second' alike => ?_) no ?_ ?_
                · cases alike with
                  | string => exact agree_on no
                  | same =>
                      cases second with
                      | keyword word =>
                          cases word with
                          | for_ => exact agree_on (agree_pure _ _ rfl)
                          | _ => exact agree_on no
                      | _ => exact agree_on no
                · exact Lexeme.ends_all rfl rfl rfl rfl fun _ => rfl
                · exact Lexeme.follows_all rfl rfl (Lexeme.ends_all rfl rfl rfl rfl fun _ => rfl)
            | _ => exact agree_on default
        | _ => exact agree_on default
  · exact Lexeme.ends_all rfl rfl rfl rfl fun _ => rfl
  · exact Lexeme.follows_all rfl rfl (Lexeme.ends_all rfl rfl rfl rfl fun _ => rfl)

omit parting in
theorem failBeforeClauses_never {α : Type} (rules : Rules) (start : Nat) :
    Never (failBeforeClauses rules start : Reader α) := never_after fun _ => never_failAt _

section
variable {rules twin : Rules} (agree : RulesAgree stop other rules twin)
include agree

theorem agree_clauses : Agree stop other (fun _ _ => True) (clauses rules) (clauses twin) := by
  refine agree_loop Eq rfl fun some_ _ same => ?_
  obtain rfl := same
  refine agree_bind (agree_clausesFollow parting) fun more _ same => ?_
  obtain rfl := same
  cases more with
  | false =>
      cases some_ with
      | true => exact agree_pure _ _ (.inr trivial)
      | false => exact agree_never (never_bind never_fail)
  | true =>
      refine agree_bind (agree_acceptWord parting _) fun _ _ _ => agree_bind (agree_need parting _ rfl) fun _ _ _ => ?_
      refine agree_bind (agree_targets parting agree.operand) fun _ _ _ => ?_
      refine agree_bind (agree_need parting _ rfl) fun _ _ _ => agree_bind agree.disjunction fun _ _ _ => ?_
      refine agree_bind (R := fun _ _ => True) (agree_loop (fun _ _ => True) trivial fun _ _ _ => ?_)
        fun _ _ _ => agree_pure _ _ (.inl rfl)
      refine agree_bind (agree_acceptWord parting _) fun conditional _ same => ?_
      obtain rfl := same
      cases conditional with
      | true => exact agree_bind agree.disjunction fun _ _ _ => agree_pure _ _ (.inl trivial)
      | false => exact agree_pure _ _ (.inr trivial)

omit parting agree in
theorem named_stuck (expression : Reader Expr) (stuck : Stuck expression) : Stuck (named expression) := by
  refine Lexeme.ends_all ?_ ?_ ?_ ?_ fun _ => ?_
  all_goals
    exact refuses_peek (refuses_looking looks_peekSecond fun _ => refuses_looking looks_line fun _ =>
      refuses_bind _ _ (stuck _ rfl))

omit parting in
theorem expression_stuck : Stuck rules.expression :=
  fun lexeme ends => agree.expressionRefuses lexeme (ends_starts_nothing lexeme ends)

omit parting in
theorem item_stuck : Stuck (item rules.operand rules.expression) := by
  intro lexeme ends
  refine refuses_isMark ?_ (named_stuck rules.expression (expression_stuck agree) lexeme ends)
  rintro rfl
  cases ends

/-! ## Brackets -/

-- What follows the first item where a comprehension does.
theorem agree_comprehension (start start' : Nat) (starred : Bool) (close : Mark) :
    Agree stop other Eq
      (do
        if starred then failBeforeClauses rules start
        clauses rules
        needMark close
        return Expr.other)
      (do
        if starred then failBeforeClauses twin start'
        clauses twin
        needMark close
        return Expr.other) := by
  cases starred with
  | true => exact agree_never (never_bind (failBeforeClauses_never rules start))
  | false =>
      refine agree_bind (agree_clauses parting agree) fun _ _ _ => agree_bind (agree_need parting _ rfl) fun _ _ _ => ?_
      exact agree_pure _ _ rfl

-- An item behind another one, which no comprehension follows.
theorem agree_laterItem (start start' : Nat) :
    Agree stop other Eq
      (do
        let next ← item rules.operand rules.expression
        if ← clausesFollow then failBeforeClauses rules start
        return next)
      (do
        let next ← item twin.operand twin.expression
        if ← clausesFollow then failBeforeClauses twin start'
        return next) := by
  refine agree_bind (agree_item parting agree.operand agree.expression) fun next _ same => ?_
  obtain rfl := same
  refine agree_bind (agree_clausesFollow parting) fun more _ same => ?_
  obtain rfl := same
  cases more with
  | true => exact agree_never (never_bind (failBeforeClauses_never rules start))
  | false => exact agree_pure _ _ rfl

theorem agree_round : Agree stop other Eq (round rules) (round twin) := by
  have one := agree_item parting agree.operand agree.expression
  have stuck := item_stuck agree
  refine agree_accept_or parting _ (agree_pure _ _ rfl) ?_ fun lexeme ends =>
    refuses_isWord (by rintro rfl; cases ends) (refuses_looking looks_line fun _ => refuses_bind _ _ (stuck lexeme ends))
  refine agree_bind (agree_isWord parting _) fun yields _ same => ?_
  obtain rfl := same
  cases yields with
  | true =>
      refine agree_bind (agree_yielded parting agree.operand agree.expression) fun value _ same => ?_
      obtain rfl := same
      exact agree_bind (agree_need parting _ rfl) fun _ _ _ => agree_pure _ _ rfl
  | false =>
      refine agree_bind agree_line fun start start' _ => agree_bind one fun first _ same => ?_
      obtain rfl := same
      refine agree_bind (agree_clausesFollow parting) fun more _ same => ?_
      obtain rfl := same
      cases more with
      | true => exact agree_comprehension parting agree start start' (isStarred first) _
      | false =>
          refine agree_isMark_or parting _ ?_ ?_ fun lexeme ends => ?_
          · cases isStarred first with
            | true => exact agree_on (agree_never (never_bind (never_failAt _)))
            | false => exact on_skip parting rfl (agree_pure _ _ rfl)
          · refine agree_bind (agree_isMark parting _ rfl) fun comma _ same => ?_
            obtain rfl := same
            cases comma with
            | false => exact agree_never (never_bind never_fail)
            | true =>
                refine agree_bind (agree_restOfItems parting one stuck _ _) fun items _ same => ?_
                obtain rfl := same
                exact agree_pure _ _ rfl
          · exact refuses_isMark (by rintro rfl; cases ends) (refuses_bind _ _ (refuses_fail _))

theorem agree_square : Agree stop other Eq (square rules) (square twin) := by
  have one := agree_item parting agree.operand agree.expression
  have stuck := item_stuck agree
  refine agree_bind (agree_acceptMark parting _ rfl) fun closed _ same => ?_
  obtain rfl := same
  cases closed with
  | true => exact agree_pure _ _ rfl
  | false =>
      refine agree_bind agree_line fun start start' _ => agree_bind one fun first _ same => ?_
      obtain rfl := same
      refine agree_bind (agree_clausesFollow parting) fun more _ same => ?_
      obtain rfl := same
      cases more with
      | true => exact agree_comprehension parting agree start start' (isStarred first) _
      | false =>
          refine agree_bind (agree_restOfItems parting ?_ (fun lexeme ends => refuses_bind _ _ (stuck lexeme ends)) _ _)
            fun items _ same => ?_
          · exact agree_laterItem parting agree start start'
          · obtain rfl := same
            exact agree_pure _ _ rfl

theorem agree_entryValue : Agree stop other (fun _ _ => True) (entryValue rules) (entryValue twin) := by
  have default : Agree stop other (fun _ _ => True) (do let _ ← rules.expression; return ()) (do let _ ← twin.expression; return ()) :=
    agree_bind agree.expression fun _ _ _ => agree_pure _ _ trivial
  refine agree_bind agree_line fun colon _ _ => agree_bind (agree_need parting _ rfl) fun _ _ _ => ?_
  refine agree_choice parting (fun one two alike => ?_) default ?_ ?_
  · cases alike with
    | string => exact agree_on default
    | same =>
        cases one with
        | mark mark =>
            cases mark with
            | comma => exact agree_on (agree_failAt _ _)
            | star => exact agree_on (agree_never (never_after fun _ => never_after fun _ => never_after fun _ => never_failAt _))
            | closing bracket =>
                cases bracket with
                | curly => exact agree_on (agree_failAt _ _)
                | _ => exact agree_on default
            | _ => exact agree_on default
        | _ => exact agree_on default
  · exact Lexeme.ends_all rfl rfl rfl rfl fun _ => rfl
  · exact Lexeme.follows_all rfl rfl (Lexeme.ends_all rfl rfl rfl rfl fun _ => rfl)

theorem agree_entry : Agree stop other (fun _ _ => True) (entry rules) (entry twin) := by
  refine agree_bind (agree_acceptMark parting _ rfl) fun mapped _ same => ?_
  obtain rfl := same
  cases mapped with
  | true => exact agree_bind agree.operand fun _ _ _ => agree_pure _ _ trivial
  | false =>
      refine agree_bind agree_line fun start start' _ => agree_bind agree.expression fun _ _ _ => ?_
      refine agree_bind (agree_isMark parting _ rfl) fun colon _ same => ?_
      obtain rfl := same
      cases colon with
      | false => exact agree_never (never_bind (never_failAt _))
      | true => exact agree_entryValue parting agree

theorem agree_restOfEntries : Agree stop other (fun _ _ => True) (restOfEntries rules) (restOfEntries twin) := by
  have closed : Agree stop other (Sum.LiftRel (fun _ _ => True) fun _ _ => True)
      (pure (.inr ()) : Reader (Unit ⊕ Unit)) (pure (.inr ()) : Reader (Unit ⊕ Unit)) := agree_pure _ _ (.inr trivial)
  refine agree_loop (fun _ _ => True) trivial fun _ _ _ => ?_
  refine agree_bind (agree_acceptMark parting _ rfl) fun last _ same => ?_
  obtain rfl := same
  cases last with
  | true => exact closed
  | false =>
      refine agree_bind (agree_need parting _ rfl) fun _ _ _ => agree_bind (agree_acceptMark parting _ rfl) fun ended _ same => ?_
      obtain rfl := same
      cases ended with
      | true => exact closed
      | false => exact agree_bind (agree_entry parting agree) fun _ _ _ => agree_pure _ _ (.inl trivial)

theorem agree_curly : Agree stop other Eq (curly rules) (curly twin) := by
  have one := agree_item parting agree.operand agree.expression
  have stuck := item_stuck agree
  have other_ : Agree stop other Eq (pure Expr.other) (pure Expr.other) := agree_pure _ _ rfl
  refine agree_bind (agree_acceptMark parting _ rfl) fun closed _ same => ?_
  obtain rfl := same
  cases closed with
  | true => exact other_
  | false =>
      refine agree_bind agree_line fun start start' _ => agree_bind (agree_acceptMark parting _ rfl) fun mapped _ same => ?_
      obtain rfl := same
      cases mapped with
      | true =>
          refine agree_bind agree.operand fun _ _ _ => agree_bind (agree_clausesFollow parting) fun more _ same => ?_
          obtain rfl := same
          cases more with
          | true => exact agree_never (never_bind (failBeforeClauses_never rules start))
          | false => exact agree_bind (agree_restOfEntries parting agree) fun _ _ _ => other_
      | false =>
          refine agree_bind one fun first _ same => agree_bind (agree_isMark parting _ rfl) fun colon _ found => ?_
          obtain rfl := same
          obtain rfl := found
          cases colon with
          | true =>
              cases isStarred first with
              | true => exact agree_never (never_bind never_fail)
              | false =>
                  refine agree_bind (agree_entryValue parting agree) fun _ _ _ =>
                    agree_bind (agree_clausesFollow parting) fun more _ same => ?_
                  obtain rfl := same
                  cases more with
                  | true => exact agree_comprehension parting agree start start' false _
                  | false => exact agree_bind (agree_restOfEntries parting agree) fun _ _ _ => other_
          | false =>
              refine agree_bind (agree_clausesFollow parting) fun more _ same => ?_
              obtain rfl := same
              cases more with
              | true => exact agree_comprehension parting agree start start' (isStarred first) _
              | false =>
                  refine agree_bind (agree_restOfItems parting (agree_laterItem parting agree start start')
                    (fun lexeme ends => refuses_bind _ _ (stuck lexeme ends)) _ _) fun _ _ _ => other_

/-! ## Arguments -/

-- What may stand behind an argument.
def argumentEnd (lexeme : Lexeme) : Prop := lexeme = .mark .comma ∨ lexeme = .mark (.closing .round)

omit parting agree in
theorem ends_no_argument (lexeme : Lexeme) (ends : lexeme.ends = true) : ¬ argumentEnd lexeme := by
  rintro (rfl | rfl) <;> cases ends

-- An argument that has no name.
def unnamed (rules : Rules) (read : ArgumentsRead) : Reader ArgumentsRead := do
  let here ← line
  let value ← named rules.expression
  if ← isMark .equals then failAt here
  if ← clausesFollow then
    clauses rules
    if !read.arguments.isEmpty || (← isMark .comma) then failAt here
    return { read with arguments := [.positional .other] }
  return { read with arguments := read.arguments ++ [.positional value],
                     misplaced := read.misplaced || read.named || read.mapped }

theorem agree_unnamed (read : ArgumentsRead) :
    Agree stop other Eq (unnamed rules read) (unnamed twin read) := by
  refine agree_bind agree_line fun here here' _ => agree_bind (agree_named parting agree.expression) fun value _ same => ?_
  obtain rfl := same
  refine agree_isMark_not _ (never_bind (never_failAt _)) (never_bind (never_failAt _)) ?_
  refine agree_bind (agree_clausesFollow parting) fun more _ same => ?_
  obtain rfl := same
  cases more with
  | false => exact agree_pure _ _ rfl
  | true =>
      refine agree_bind (agree_clauses parting agree) fun _ _ _ => ?_
      refine agree_bind (agree_isMark parting _ rfl) fun comma _ same => ?_
      obtain rfl := same
      cases read.arguments.isEmpty with
      | false => exact agree_never (never_bind (never_failAt _))
      | true =>
          cases comma with
          | true => exact agree_never (never_bind (never_failAt _))
          | false => exact agree_pure _ _ rfl

-- A name in front of the stop is no named argument, and what is left of it begins with no end of an argument.
theorem lone_name (self : RulesAgree stop stop rules rules) (read : ArgumentsRead) (turns : Nat) (token : Token)
    (id : Text) (named : token.lexeme = .name id) (value : ArgumentsRead) (rest : List Token)
    (ran : unnamed rules read turns (token :: stop) = .ok (value, rest)) :
    ¬ ∃ lexeme, HeadIs rest lexeme ∧ argumentEnd lexeme := by
  have alone := parting_self parting
  have inner : token.lexeme.ends = false := by rw [named]; rfl
  obtain ⟨-, beside, used⟩ := agree_unnamed alone self read turns turns _ _ _ _ _ _
    (.cons token token stop stop inner (.same _) .stop) ran ran
  rintro ⟨lexeme, head, ended⟩
  rcases List.suffix_cons_iff.mp used with whole | shorter
  · rw [whole] at head
    obtain ⟨_, _, same, rfl⟩ := head
    cases same
    rw [named] at ended
    rcases ended with same | same <;> cases same
  · obtain rfl := shorter.eq_of_length (Nat.le_antisymm shorter.length_le (beside_length _ _ beside))
    obtain ⟨last, stands, ends⟩ := parting.ends
    rw [head_unique rest lexeme last head stands] at ended
    exact ends_no_argument last ends ended

-- Where only the twin is followed by an equals sign, its argument has a name. Then the other one has not ended.
theorem agree_lone_name (self : RulesAgree stop stop rules rules) (read : ArgumentsRead) (id : Text) (second : Lexeme)
    (ends : second.ends = true) (twos : List Lexeme) (reader : Reader ArgumentsRead) :
    AgreeIf stop other [.name id, second] (.name id :: twos) argumentEnd Eq (unnamed rules read) reader := by
  intro turns turns' tokens tokens' value rest value' rest' beside starts starts' first second' follows
  obtain ⟨token, _, left, _, rfl, rfl, further, below, _⟩ :=
    beside_started parting tokens tokens' (.name id) (.name id) [second] twos beside rfl starts starts'
  obtain ⟨rfl, -⟩ := beside_ended left _ second further ((starts_head _ _).mp below) ends
  exact absurd follows (lone_name parting agree self read turns token id starts.1 value rest first)

theorem agree_argument (self : RulesAgree stop stop rules rules) (read : ArgumentsRead) (start start' : Nat) :
    AgreeIf stop other [] [] argumentEnd Eq (argument rules read start) (argument twin read start') := by
  have default := agree_unnamed parting agree read
  have otherwise_ := agree_bind agree_peekSecond
    fun _ _ _ => default
  refine agreeIf_choice parting (fun one two alike => ?_) (agreeIf_on (agree_on otherwise_)) ?_ ?_
  · cases alike with
    | string => exact agreeIf_on (agree_on otherwise_)
    | same =>
        cases one with
        | mark mark =>
            cases mark with
            | star =>
                refine agreeIf_on (on_second parting rfl fun _ _ _ => on_skip parting rfl ?_)
                refine agree_bind agree.expression fun value _ same => ?_
                obtain rfl := same
                cases read.mapped with
                | true => exact agree_never (never_bind (never_failAt _))
                | false => exact agree_pure _ _ rfl
            | doubleStar =>
                refine agreeIf_on (on_second parting rfl fun _ _ _ => on_skip parting rfl ?_)
                refine agree_bind agree.expression fun value _ same => ?_
                obtain rfl := same
                exact agree_pure _ _ rfl
            | _ => exact agreeIf_on (agree_on otherwise_)
        | name id =>
            refine agreeIf_second parting rfl fun second second' meets => ?_
            have plain (ones twos : List Lexeme) :
                AgreeIf stop other ones twos argumentEnd Eq (unnamed rules read) (unnamed twin read) :=
              agreeIf_on (agree_on default)
            cases meets with
            | alike alike =>
                cases alike with
                | string => exact plain _ _
                | same =>
                    cases second with
                    | mark mark =>
                        cases mark with
                        | equals =>
                            refine agreeIf_on (on_skip_on parting rfl (on_skip parting rfl ?_))
                            refine agree_bind agree_line fun here _ _ => agree_bind agree.expression fun value _ same => ?_
                            obtain rfl := same
                            refine agree_bind (agree_clausesFollow parting) fun more _ same => ?_
                            obtain rfl := same
                            cases more with
                            | true => exact agree_never (never_bind (failBeforeClauses_never rules here))
                            | false => exact agree_pure _ _ rfl
                        | _ => exact plain _ _
                    | _ => exact plain _ _
            | parted ends follows =>
                have lone (second : Lexeme) (ends : second.ends = true) :=
                  agree_lone_name parting agree self read id second ends
                revert second'
                refine Lexeme.follows_all ?_ ?_ (Lexeme.ends_all ?_ ?_ ?_ ?_ fun _ => ?_)
                · revert second
                  exact Lexeme.ends_all (lone _ rfl _ _) (lone _ rfl _ _) (lone _ rfl _ _) (lone _ rfl _ _)
                    fun _ => lone _ rfl _ _
                all_goals
                  revert second
                  exact Lexeme.ends_all (plain _ _) (plain _ _) (plain _ _) (plain _ _) fun _ => plain _ _
        | _ => exact agreeIf_on (agree_on otherwise_)
  · exact Lexeme.ends_all rfl rfl rfl rfl fun _ => rfl
  · exact Lexeme.follows_all rfl rfl (Lexeme.ends_all rfl rfl rfl rfl fun _ => rfl)

omit parting in
theorem argument_stuck (read : ArgumentsRead) (start : Nat) : Stuck (argument rules read start) := by
  have stuck := named_stuck rules.expression (expression_stuck agree)
  refine Lexeme.ends_all ?_ ?_ ?_ ?_ fun _ => ?_
  all_goals
    exact refuses_peek (refuses_looking looks_peekSecond fun _ => refuses_looking looks_line fun _ =>
      refuses_bind _ _ (stuck _ rfl))

-- Arguments that do not go on.
def unfinished (read : ArgumentsRead) : Reader (ArgumentsRead ⊕ List Argument) := do
  if read.misplaced then failAt (← line)
  fail

omit parting agree in
theorem unfinished_never (read : ArgumentsRead) : Never (unfinished read) := by
  unfold unfinished
  cases read.misplaced with
  | true => exact never_after fun _ => never_bind (never_failAt _)
  | false => exact never_fail

theorem agree_arguments (self : RulesAgree stop stop rules rules) :
    Agree stop other Eq (arguments rules) (arguments twin) := by
  refine agree_bind agree_line fun start start' _ => agree_loop Eq rfl fun read _ same => ?_
  obtain rfl := same
  refine agree_isMark_or parting _ ?_ ?_ fun lexeme ends => refuses_bind _ _ (argument_stuck agree read start lexeme ends)
  · cases read.misplaced with
    | true => exact agree_on (agree_never (never_after fun _ => never_bind (never_failAt _)))
    | false => exact on_skip parting rfl (agree_pure _ _ (.inr rfl))
  · refine agree_then (agree_argument parting agree self read start start') (fun next _ same => ?_)
      (fun next lexeme unwanted => ?_) fun next turns result ran => ?_
    · obtain rfl := same
      have never := unfinished_never next
      refine agree_isMark_or parting _ (on_skip parting rfl (agree_pure _ _ (.inl rfl))) ?_ fun lexeme ends => ?_
      · exact agree_isMark_or parting _ (agree_on (agree_pure _ _ (.inl rfl))) (agree_never never)
          fun lexeme _ => refuses_never lexeme never
      · exact refuses_isMark (by rintro rfl; cases ends) (refuses_never _ never)
    · exact refuses_isMark (fun same => unwanted (.inl same))
        (refuses_isMark (fun same => unwanted (.inr same)) (refuses_never _ (unfinished_never next)))
    · obtain ⟨_, _, looked, _⟩ := (bind_read_ok _ _ _ _ _).mp ran
      cases looked

/-! ## Operands -/

def sliceBound (rules : Rules) : Reader Unit := do
  if startsExpression (← peek) then
    let _ ← rules.expression
    return ()

theorem agree_bound : Agree stop other (fun _ _ => True) (sliceBound rules) (sliceBound twin) := by
  have done : Agree stop other (fun _ _ => True) (pure () : Reader Unit) (pure () : Reader Unit) :=
    agree_pure _ _ trivial
  have whole : Agree stop other (fun _ _ => True) (do let _ ← rules.expression; return ())
      (do let _ ← twin.expression; return ()) := agree_bind agree.expression fun _ _ _ => done
  refine agree_choice parting (fun one two alike => ?_) done ?_ ?_
  · cases alike with
    | string => exact agree_on whole
    | same =>
        cases startsExpression one with
        | true => exact agree_on whole
        | false => exact agree_on done
  · exact Lexeme.ends_all rfl rfl rfl rfl fun _ => rfl
  · exact Lexeme.follows_all rfl rfl (Lexeme.ends_all rfl rfl rfl rfl fun _ => rfl)

theorem agree_slice : Agree stop other (fun _ _ => True) (slice rules) (slice twin) := by
  have done : Agree stop other (fun _ _ => True) (pure () : Reader Unit) (pure () : Reader Unit) :=
    agree_pure _ _ trivial
  have bounds : Agree stop other (fun _ _ => True)
      (do
        if ← acceptMark .colon then
          sliceBound rules
          if ← acceptMark .colon then sliceBound rules)
      (do
        if ← acceptMark .colon then
          sliceBound twin
          if ← acceptMark .colon then sliceBound twin) := by
    refine agree_bind (agree_acceptMark parting _ rfl) fun colon _ same => ?_
    obtain rfl := same
    cases colon with
    | false => exact done
    | true =>
        refine agree_bind (agree_bound parting agree) fun _ _ _ => agree_bind (agree_acceptMark parting _ rfl) fun third _ same => ?_
        obtain rfl := same
        cases third with
        | false => exact done
        | true => exact agree_bound parting agree
  refine agree_bind (agree_isMark parting _ rfl) fun starred _ same => ?_
  obtain rfl := same
  cases starred with
  | true => exact agree_bind (agree_starredOperand parting agree.expression) fun _ _ _ => done
  | false =>
      refine agree_bind (agree_isMark parting _ rfl) fun open_ _ same => ?_
      obtain rfl := same
      cases open_ with
      | true => exact bounds
      | false => exact agree_bind (agree_named parting agree.expression) fun _ _ _ => bounds

theorem agree_slices : Agree stop other (fun _ _ => True) (slices rules) (slices twin) := by
  have closed : Agree stop other (Sum.LiftRel (fun _ _ => True) fun _ _ => True)
      (pure (.inr ()) : Reader (Unit ⊕ Unit)) (pure (.inr ()) : Reader (Unit ⊕ Unit)) := agree_pure _ _ (.inr trivial)
  refine agree_bind (agree_slice parting agree) fun _ _ _ => ?_
  refine agree_loop (fun _ _ => True) trivial fun _ _ _ => ?_
  refine agree_bind (agree_acceptMark parting _ rfl) fun last _ same => ?_
  obtain rfl := same
  cases last with
  | true => exact closed
  | false =>
      refine agree_bind (agree_need parting _ rfl) fun _ _ _ => agree_bind (agree_acceptMark parting _ rfl) fun ended _ same => ?_
      obtain rfl := same
      cases ended with
      | true => exact closed
      | false => exact agree_bind (agree_slice parting agree) fun _ _ _ => agree_pure _ _ (.inl trivial)

theorem agree_atom : Agree stop other Eq (atom rules) (atom twin) := by
  have default : Agree stop other Eq (fail : Reader Expr) (fail : Reader Expr) := agree_fail _
  have literal := agree_string parting rules.expression twin.expression
  refine agree_choice parting (fun one two alike => ?_) default ?_ ?_
  · cases alike with
    | string => exact agree_on literal
    | same =>
        have one_ (value : Expr) : Agree stop other Eq (pure value) (pure value) := agree_pure _ _ rfl
        cases one with
        | name | number => exact on_skip parting rfl (one_ _)
        | string => exact agree_on literal
        | keyword word =>
            cases word with
            | none_ | true_ | false_ => exact on_skip parting rfl (one_ _)
            | _ => exact agree_on default
        | mark mark =>
            cases mark with
            | ellipsis => exact on_skip parting rfl (one_ _)
            | opening bracket =>
                cases bracket with
                | round => exact on_skip parting rfl (agree_round parting agree)
                | square => exact on_skip parting rfl (agree_square parting agree)
                | curly => exact on_skip parting rfl (agree_curly parting agree)
            | _ => exact agree_on default
        | _ => exact agree_on default
  · exact Lexeme.ends_all rfl rfl rfl rfl fun _ => rfl
  · exact Lexeme.follows_all rfl rfl (Lexeme.ends_all rfl rfl rfl rfl fun _ => rfl)

theorem agree_primary (self : RulesAgree stop stop rules rules) :
    Agree stop other Eq (primary rules) (primary twin) := by
  refine agree_bind (agree_atom parting agree) fun first _ same => agree_loop Eq same fun owner _ same => ?_
  obtain rfl := same
  have default : Agree stop other (Sum.LiftRel Eq Eq) (pure (.inr owner) : Reader (Expr ⊕ Expr)) (pure (.inr owner)) :=
    agree_pure _ _ (.inr rfl)
  refine agree_choice parting (fun one two alike => ?_) default ?_ ?_
  · cases alike with
    | string => exact agree_on default
    | same =>
        cases one with
        | mark mark =>
            cases mark with
            | dot =>
                refine on_skip parting rfl (agree_bind (agree_identifier parting) fun name _ same => ?_)
                obtain rfl := same
                exact agree_pure _ _ (.inl rfl)
            | opening bracket =>
                cases bracket with
                | round =>
                    refine on_skip parting rfl (agree_bind (agree_arguments parting agree self) fun given _ same => ?_)
                    obtain rfl := same
                    exact agree_pure _ _ (.inl rfl)
                | square =>
                    exact on_skip parting rfl (agree_bind (agree_slices parting agree) fun _ _ _ =>
                      agree_pure _ _ (.inl rfl))
                | curly => exact agree_on default
            | _ => exact agree_on default
        | _ => exact agree_on default
  · exact Lexeme.ends_all rfl rfl rfl rfl fun _ => rfl
  · exact Lexeme.follows_all rfl rfl (Lexeme.ends_all rfl rfl rfl rfl fun _ => rfl)

theorem agree_awaitedPrimary (self : RulesAgree stop stop rules rules) :
    Agree stop other Eq (awaitedPrimary rules) (awaitedPrimary twin) := by
  refine agree_bind (agree_acceptWord parting _) fun awaits _ same => ?_
  obtain rfl := same
  cases awaits with
  | false => exact agree_primary parting agree self
  | true =>
      exact agree_bind (agree_primary parting agree self) fun _ _ same => agree_pure _ _ (congrArg Expr.awaited same)

theorem agree_fullOperand (self : RulesAgree stop stop rules rules) :
    Agree stop other Eq (fullOperand rules) (fullOperand twin) :=
  agree_operand parting agree (agree_awaitedPrimary parting agree self)

theorem agree_fullDisjunction (self : RulesAgree stop stop rules rules) :
    Agree stop other Eq (fullDisjunction rules) (fullDisjunction twin) :=
  agree_disjunction parting agree (agree_fullOperand parting agree self)

end

/-! ## Lambdas -/

-- What may stand behind a parameter of a lambda.
def paramEnd (lexeme : Lexeme) : Prop := lexeme = .mark .comma ∨ lexeme = .mark .colon

omit parting in
theorem ends_no_param (lexeme : Lexeme) (ends : lexeme.ends = true) : ¬ paramEnd lexeme := by
  rintro (rfl | rfl) <;> cases ends

section
variable {expression expression' : Reader Expr} (agree : Agree stop other Eq expression expression')
  {hint hint' : Reader (Option Expr)} (hints : Agree stop other Eq hint hint')

-- What a parameter is added to.
def added (read : ParamsRead) (line : Nat) (one : Param) : Reader ParamsRead := do
  if read.starred then
    return { read with keywordOnly := read.keywordOnly ++ [one], bare := false }
  let before := read.positionalOnly ++ read.positional
  if one.default.isNone && before.any (·.default.isSome) then failAt line
  return { read with positional := read.positional ++ [one] }

omit parting in
theorem added_looks (read : ParamsRead) (line : Nat) (one : Param) : Looks (added read line one) := by
  unfold added
  cases read.starred with
  | true => exact looks_pure _
  | false =>
      simp only [Bool.false_eq_true, if_false]
      cases one.default.isNone && (read.positionalOnly ++ read.positional).any (·.default.isSome) with
      | true => exact looks_never (never_bind (never_failAt _))
      | false => exact looks_pure _

omit parting in
theorem agree_added (read : ParamsRead) (line line' : Nat) (one : Param) :
    Agree stop other Eq (added read line one) (added read line' one) := by
  unfold added
  cases read.starred with
  | true => exact agree_pure _ _ rfl
  | false =>
      simp only [Bool.false_eq_true, if_false]
      cases one.default.isNone && (read.positionalOnly ++ read.positional).any (·.default.isSome) with
      | true => exact agree_never (never_bind (never_failAt _))
      | false => exact agree_pure _ _ rfl

include agree hints

theorem agree_param : AgreeIf stop other [] [] paramEnd Eq (param expression hint) (param expression' hint') := by
  refine agreeIf_bind (agree_identifier parting) fun name _ same => agreeIf_bind hints fun hint _ also => ?_
  obtain rfl := same
  obtain rfl := also
  refine agreeIf_accept parting ends_no_param _ (agree_bind agree fun value _ same => ?_) _ _ rfl
  obtain rfl := same
  exact agree_pure _ _ rfl

theorem agree_plainItem (read : ParamsRead) :
    AgreeIf stop other [] [] paramEnd Eq (plainItem expression hint read) (plainItem expression' hint' read) := by
  refine agreeIf_bind agree_line fun line line' _ =>
    agreeIf_looking (agree_param parting agree hints) (added_looks read line) fun one _ same => ?_
  obtain rfl := same
  exact agree_added read line line' one

omit agree hints in
theorem agree_slashItem (read : ParamsRead) :
    AgreeOn stop other [.mark .slash] [.mark .slash] Eq (slashItem read) (slashItem read) := by
  unfold slashItem
  cases read.starred || read.positional.isEmpty || !read.positionalOnly.isEmpty with
  | true => exact agree_on (agree_never (never_bind never_fail))
  | false => exact on_skip parting rfl (agree_pure _ _ rfl)

omit agree in
theorem agree_starItem (read : ParamsRead) :
    AgreeOn stop other [.mark .star] [.mark .star] Eq (starItem hint read) (starItem hint' read) := by
  unfold starItem
  cases read.starred with
  | true => exact agree_on (agree_never (never_bind never_fail))
  | false =>
      have bare : Agree stop other Eq
          (do
            if !(← isMark .comma) then fail
            return { read with starred := true, bare := true })
          (do
            if !(← isMark .comma) then fail
            return { read with starred := true, bare := true }) := by
        refine agree_bind (agree_isMark parting _ rfl) fun comma _ same => ?_
        obtain rfl := same
        cases comma with
        | true => exact agree_pure _ _ rfl
        | false => exact agree_never (never_bind never_fail)
      refine on_skip parting rfl (agree_choice parting (fun one two alike => ?_) bare ?_ ?_)
      · cases alike with
        | string => exact agree_on bare
        | same =>
            cases one with
            | name id =>
                refine agree_on (agree_bind (agree_identifier parting) fun name _ same => agree_bind hints fun hint _ also => ?_)
                obtain rfl := same
                obtain rfl := also
                exact agree_pure _ _ rfl
            | _ => exact agree_on bare
      · exact Lexeme.ends_all rfl rfl rfl rfl fun _ => rfl
      · exact Lexeme.follows_all rfl rfl (Lexeme.ends_all rfl rfl rfl rfl fun _ => rfl)

omit agree in
theorem agree_doubleStarItem (read : ParamsRead) :
    AgreeOn stop other [.mark .doubleStar] [.mark .doubleStar] Eq (doubleStarItem hint read)
      (doubleStarItem hint' read) := by
  unfold doubleStarItem
  cases read.bare with
  | true => exact agree_on (agree_never (never_bind never_fail))
  | false =>
      refine on_skip parting rfl (agree_bind (agree_identifier parting) fun name _ same => agree_bind hints fun hint _ also => ?_)
      obtain rfl := same
      obtain rfl := also
      exact agree_pure _ _ rfl

theorem agree_paramItem (read : ParamsRead) :
    AgreeIf stop other [] [] paramEnd Eq (paramItem expression hint hint read)
      (paramItem expression' hint' hint' read) := by
  unfold paramItem
  cases read.keywords.isSome with
  | true => exact agreeIf_on (agree_on (agree_never (never_bind never_fail)))
  | false =>
      have plain := agree_plainItem parting agree hints read
      refine agreeIf_choice parting (fun one two alike => ?_) plain ?_ ?_
      · cases alike with
        | string => exact agreeIf_more plain
        | same =>
            cases one with
            | mark mark =>
                cases mark with
                | slash => exact agreeIf_on (agree_slashItem parting read)
                | star => exact agreeIf_on (agree_starItem parting hints read)
                | doubleStar => exact agreeIf_on (agree_doubleStarItem parting hints read)
                | _ => exact agreeIf_more plain
            | _ => exact agreeIf_more plain
      · exact Lexeme.ends_all rfl rfl rfl rfl fun _ => rfl
      · exact Lexeme.follows_all rfl rfl (Lexeme.ends_all rfl rfl rfl rfl fun _ => rfl)

theorem agree_paramList :
    Agree stop other Eq (paramList expression hint hint .colon) (paramList expression' hint' hint' .colon) := by
  refine agree_loop Eq rfl fun read _ same => ?_
  obtain rfl := same
  have closed (read : ParamsRead) : Agree stop other (Sum.LiftRel Eq Eq)
      (do
        if read.bare then fail
        return .inr read.params : Reader (ParamsRead ⊕ Params))
      (do
        if read.bare then fail
        return .inr read.params) := by
    cases read.bare with
    | true => exact agree_never (never_bind never_fail)
    | false => exact agree_pure _ _ (.inr rfl)
  refine agree_bind (agree_isMark parting _ rfl) fun ended _ same => ?_
  obtain rfl := same
  cases ended with
  | true => exact closed read
  | false =>
      refine agree_then (agree_paramItem parting agree hints read) (fun next _ same => ?_)
        (fun next lexeme unwanted => ?_) fun next turns result ran => ?_
      · obtain rfl := same
        refine agree_bind (agree_isMark parting _ rfl) fun ended _ same => ?_
        obtain rfl := same
        cases ended with
        | true => exact closed next
        | false => exact agree_bind (agree_need parting _ rfl) fun _ _ _ => agree_pure _ _ (.inl rfl)
      · exact refuses_isMark (fun same => unwanted (.inr same))
          (refuses_bind _ _ (refuses_need fun same => unwanted (.inl same)))
      · obtain ⟨_, _, looked, _⟩ := (bind_read_ok _ _ _ _ _).mp ran
        cases looked

end

/-! ## Whole expressions -/

section
variable {rules twin : Rules} (agree : RulesAgree stop other rules twin)
include agree

theorem agree_lambda : Agree stop other Eq (lambda rules) (lambda twin) := by
  have unhinted : Agree stop other Eq (pure none : Reader (Option Expr)) (pure none) := agree_pure _ _ rfl
  refine agree_bind (agree_need parting _ rfl) fun _ _ _ => ?_
  refine agree_bind (agree_paramList parting agree.expression unhinted) fun _ _ _ => ?_
  exact agree_bind (agree_need parting _ rfl) fun _ _ _ => agree_bind agree.expression fun _ _ _ => agree_pure _ _ rfl

theorem agree_full (self : RulesAgree stop stop rules rules) : Agree stop other Eq (full rules) (full twin) := by
  refine agree_bind (agree_isWord parting _) fun lambda _ same => ?_
  obtain rfl := same
  cases lambda with
  | true => exact agree_lambda parting agree
  | false =>
      refine agree_bind agree_line fun start start' _ => ?_
      refine agree_bind (agree_looks looks_get looks_get) fun _ _ _ => ?_
      refine agree_bind (agree_fullDisjunction parting agree self) fun first _ same => ?_
      obtain rfl := same
      refine agree_bind (agree_acceptWord parting _) fun conditional _ same => ?_
      obtain rfl := same
      cases conditional with
      | false =>
          exact agree_bind (agree_looks (checkJuxtaposed_looks _ _ _ _) (checkJuxtaposed_looks _ _ _ _))
            fun _ _ _ => agree_pure _ _ rfl
      | true =>
          refine agree_bind agree.disjunction fun _ _ _ => agree_bind (agree_acceptWord parting _) fun otherwise_ _ same => ?_
          obtain rfl := same
          cases otherwise_ with
          | true => exact agree_bind agree.expression fun _ _ _ => agree_pure _ _ rfl
          | false =>
              refine agree_never (never_after fun colon => ?_)
              cases colon with
              | true => exact never_bind never_fail
              | false => exact never_bind (never_failAt _)

end

end

end Expression

namespace Statement

open Expression

-- However deep the rules of the two runs go, they agree where both are deep enough.
theorem agree_rules (depth depth' : Nat) (stop other : List Token) (parting : Parting stop other) :
    RulesAgree stop other (rules depth) (rules depth') := by
  induction depth generalizing depth' stop other with
  | zero =>
      exact ⟨agree_fail _, agree_fail _, agree_fail _, agree_fail _, agree_fail _, operand_level_refuses 0,
        expression_refuses 0⟩
  | succ depth ih =>
      cases depth' with
      | zero =>
          exact ⟨agree_fail_twin _, agree_fail_twin _, agree_fail_twin _, agree_fail_twin _, agree_fail_twin _,
            operand_level_refuses (depth + 1), expression_refuses (depth + 1)⟩
      | succ depth' =>
          have inner := ih depth' stop other parting
          have self := ih depth stop stop (parting_self parting)
          have primary := agree_awaitedPrimary parting inner self
          exact ⟨agree_factor parting inner primary, agree_fullOperand parting inner self,
            agree_negation parting inner (agree_fullOperand parting inner self), agree_fullDisjunction parting inner self,
            agree_full parting inner self, operand_level_refuses (depth + 1), expression_refuses (depth + 1)⟩

end Statement

end Statewright.Code
