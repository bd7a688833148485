import Statewright.Proofs.DispatchAgreement
import Statewright.Proofs.Exclusion
import Statewright.Proofs.Pauses

/-!
Dispatches that are cancelled. A dispatch that is only ever resumed waits in the call of one of its steps; `Underway`
says which one, after how many pauses, and with what in the context. A cancellation ends it there, since bodies cannot
stop one, and leaves the mark of that step, which blocks the machine until somebody recovers it.
-/
set_option autoImplicit false

namespace Statewright.Machine

open Emission.EventDriven (Parts)
open Reactor Run

section Rules

variable {γ : Type} (parts : Parts) (conduct : Conduct γ) (context : Nat) (event : Variant)

-- A dispatch that began in the state `old` with `start` in its context has come to a step after some pauses.
inductive Underway (old : Variant) (start : γ) : Nat → Step → Variant → γ → Prop where
  | opened : Underway old start 0 .preTransition old start
  | prepared (pauses own : Nat) (state : Variant) (contents after : γ) (answer : Value)
      (before : Underway old start pauses .preTransition state contents)
      (call : Lasts (stepCall parts (heard parts conduct) context event state .preTransition contents) own (.ok answer)
        after) :
      Underway old start (pauses + own) .shouldExit state after
  | willing (pauses own : Nat) (state : Variant) (contents after : γ) (answer : Value)
      (before : Underway old start pauses .shouldExit state contents)
      (call : Lasts (stepCall parts (heard parts conduct) context event state .shouldExit contents) own (.ok answer)
        after)
      (accepted : conduct.accepts after answer = true)
      (handled : parts.spec.resolution state.type event.type ≠ .unhandled) :
      Underway old start (pauses + own) .onExit state after
  | left (pauses own : Nat) (state : Variant) (contents after : γ) (answer : Value)
      (before : Underway old start pauses .onExit state contents)
      (call : Lasts (stepCall parts (heard parts conduct) context event state .onExit contents) own (.ok answer)
        after) :
      Underway old start (pauses + own) .transition state after
  | moved (pauses own : Nat) (state next : Variant) (contents after : γ) (target : Value)
      (before : Underway old start pauses .transition state contents)
      (call : Lasts (stepCall parts (heard parts conduct) context event state .transition contents) own (.ok target)
        after)
      (landed : Landed parts state event target next) :
      Underway old start (pauses + own) .onEnter next after
  | entered (pauses own : Nat) (state : Variant) (contents after : γ) (answer : Value)
      (before : Underway old start pauses .onEnter state contents)
      (call : Lasts (stepCall parts (heard parts conduct) context event state .onEnter contents) own (.ok answer)
        after) :
      Underway old start (pauses + own) .postTransition state after

-- The state is what the transition returned.
def Converted (old : Variant) (start : γ) (state : Variant) : Prop :=
  ∃ pauses own contents target after, Underway parts conduct context event old start pauses .transition old contents ∧
    Lasts (stepCall parts conduct context event old .transition contents) own (.ok target) after ∧
    Landed parts old event target state

-- A dispatch waits, after some pauses, in the call of a step that it has come to.
inductive Stopped (old : Variant) (start : γ) : Nat → Place γ → Prop where
  | stopped (earlier later : Nat) (step : Step) (state : Variant) (contents after : γ)
      (underway : Underway parts conduct context event old start earlier step state contents)
      (waits : Waits (stepCall parts (heard parts conduct) context event state step contents) later after) :
      Stopped old start (earlier + later) (⟨state, context, some step⟩, after)

theorem underway_state (old state : Variant) (start contents : γ) (pauses : Nat) (step : Step)
    (underway : Underway parts conduct context event old start pauses step state contents)
    (early : step.number ≤ Step.transition.number) : state = old := by
  induction underway with
  | opened => rfl
  | prepared pauses own state contents after answer before call ih => exact ih (by decide)
  | willing pauses own state contents after answer before call accepted handled ih => exact ih (by decide)
  | left pauses own state contents after answer before call ih => exact ih (by decide)
  | moved => exact absurd early (by decide)
  | entered => exact absurd early (by decide)

theorem underway_converted (old state : Variant) (start contents : γ) (pauses : Nat) (step : Step)
    (underway : Underway parts conduct context event old start pauses step state contents)
    (late : Step.transition.number < step.number) : Converted parts conduct context event old start state := by
  induction underway with
  | opened => exact absurd late (by decide)
  | prepared => exact absurd late (by decide)
  | willing => exact absurd late (by decide)
  | left => exact absurd late (by decide)
  | moved pauses own state next contents after target before call landed ih =>
      obtain rfl := underway_state parts conduct context event old state start contents pauses .transition before
        (by decide)
      exact ⟨pauses, own, contents, target, after, before, call, landed⟩
  | entered pauses own state contents after answer before call ih => exact ih (by decide)

-- What the machine hears of a call waits only while the method itself does.
theorem called_waits {σ : Type} (isAsync awaited : Bool) (routine : Routine σ Value) (world after : σ) (pauses : Nat)
    (waits : Waits (called isAsync awaited routine world) pauses after) : Waits (routine world) pauses after := by
  unfold called at waits
  split at waits
  · cases waits
  · split at waits
    · rcases waits_and_then _ _ pauses after waits with first | ⟨_, _, _, _, _, second, _⟩
      · exact first
      · cases second
    · exact waits

theorem delegate_waits (enumeration : Text) (self : Variant) (name : Text) (arguments : Arguments Value)
    (contents after : γ) (pauses : Nat)
    (waits : Waits ((heard parts conduct).delegate enumeration self name arguments contents) pauses after) :
    Waits (conduct.delegate enumeration self name arguments contents) pauses after := by
  cases formals : conduct.methodFormals self.type name with
  | none =>
      simp only [Conduct.delegate, heard, formals] at waits
      cases waits
  | some given =>
      cases bound : (given.headed enumeration [Text.fixed "self"]).bind arguments with
      | none =>
          simp only [Conduct.delegate, heard, formals, bound] at waits
          cases waits
      | some bindings =>
          simp only [Conduct.delegate, heard, formals, bound] at waits ⊢
          exact called_waits _ _ _ contents after pauses waits

theorem heard_waits (state : Variant) (step : Step) (contents after : γ) (pauses : Nat)
    (waits : Waits (stepCall parts (heard parts conduct) context event state step contents) pauses after) :
    Waits (stepCall parts conduct context event state step contents) pauses after := by
  cases step with
  | transition => exact waits
  | preTransition => exact delegate_waits parts conduct _ _ _ _ contents after pauses waits
  | shouldExit => exact delegate_waits parts conduct _ _ _ _ contents after pauses waits
  | onExit => exact delegate_waits parts conduct _ _ _ _ contents after pauses waits
  | onEnter => exact delegate_waits parts conduct _ _ _ _ contents after pauses waits
  | postTransition => exact delegate_waits parts conduct _ _ _ _ contents after pauses waits

end Rules

section Stops

variable {γ : Type} (parts : Parts) (conduct : Conduct γ) (context : Nat) (event old : Variant) (start : γ)
  (earlier later : Nat) (contents : γ) (mark : Option Step) (place : Place γ)

-- A dispatch that has come to a step waits in its call, or goes on with what it hears and waits after that.
theorem step_stops (state held : Variant) (step : Step) (same : step = .onEnter ∨ held = state)
    (underway : Underway parts conduct context event old start earlier step state contents)
    (waits : Waits (fromStep parts conduct context event state step (⟨held, context, mark⟩, contents)) later place)
    (onward : ∀ own rest answer after,
      Lasts (stepCall parts (heard parts conduct) context event state step contents) own (.ok answer) after →
      Waits (following parts conduct context event state step answer (⟨state, context, some step⟩, after)) rest place →
      Stopped parts conduct context event old start (earlier + own + rest) place) :
    Stopped parts conduct context event old start (earlier + later) place := by
  have seen : ∀ (inner : γ) (outer : Place γ), (outer.1, inner).2 = inner := fun _ _ => rfl
  have last : ∀ (first second : γ) (outer : Place γ), ((outer.1, first).1, second) = (outer.1, second) :=
    fun _ _ _ => rfl
  rw [from_step_heard parts conduct context event state step ⟨held, context, mark⟩ contents same] at waits
  rcases waits_and_then _ _ later place waits with first | ⟨own, rest, answer, middle, lasts, second, rfl⟩
  · obtain ⟨after, waiting, rfl⟩ := waits_within _ _ seen last _ _ place later first
    exact .stopped earlier later step state contents after underway waiting
  · obtain ⟨after, lasting, rfl⟩ := lasts_within _ _ seen last _ _ middle own _ lasts
    rw [← Nat.add_assoc]
    exact onward own rest answer after lasting second

theorem conclude_stops (state : Variant)
    (underway : Underway parts conduct context event old start earlier .postTransition state contents)
    (waits : Waits (conclude parts conduct event context (⟨state, context, mark⟩, contents)) later place) :
    Stopped parts conduct context event old start (earlier + later) place := by
  apply step_stops parts conduct context event old start earlier later contents mark place state state
    .postTransition (.inr rfl) underway waits
  intro own rest answer after _ second
  cases second

theorem enter_stops (state held : Variant)
    (underway : Underway parts conduct context event old start earlier .onEnter state contents)
    (waits : Waits (enter parts conduct state event context (⟨held, context, mark⟩, contents)) later place) :
    Stopped parts conduct context event old start (earlier + later) place := by
  apply step_stops parts conduct context event old start earlier later contents mark place state held .onEnter
    (.inl rfl) underway waits
  intro own rest answer after lasts second
  exact conclude_stops parts conduct context event old start (earlier + own) rest after _ place state
    (.entered earlier own state contents after answer underway lasts) second

theorem transfer_stops
    (underway : Underway parts conduct context event old start earlier .transition old contents)
    (waits : Waits (fromStep parts conduct context event old .transition (⟨old, context, mark⟩, contents)) later
      place) :
    Stopped parts conduct context event old start (earlier + later) place := by
  apply step_stops parts conduct context event old start earlier later contents mark place old old .transition
    (.inr rfl) underway waits
  intro own rest target after lasts second
  cases landed : convert parts .state (transferVariables parts old event target) target with
  | error fault =>
      simp only [following, landed] at second
      cases second
  | ok next =>
      simp only [following, landed] at second
      exact enter_stops parts conduct context event old start (earlier + own) rest after _ place next old
        (.moved earlier own old next contents after target underway lasts landed) second

theorem move_stops
    (underway : Underway parts conduct context event old start earlier .onExit old contents)
    (waits : Waits (fromStep parts conduct context event old .onExit (⟨old, context, mark⟩, contents)) later place) :
    Stopped parts conduct context event old start (earlier + later) place := by
  apply step_stops parts conduct context event old start earlier later contents mark place old old .onExit
    (.inr rfl) underway waits
  intro own rest answer after lasts second
  exact transfer_stops parts conduct context event old start (earlier + own) rest after _ place
    (.left earlier own old contents after answer underway lasts) second

theorem ask_stops (valid : ValidParts parts)
    (underway : Underway parts conduct context event old start earlier .shouldExit old contents)
    (waits : Waits (ask parts conduct old event context (⟨old, context, mark⟩, contents)) later place) :
    Stopped parts conduct context event old start (earlier + later) place := by
  apply step_stops parts conduct context event old start earlier later contents mark place old old .shouldExit
    (.inr rfl) underway waits
  intro own rest answer after lasts second
  change Waits (choose parts conduct old event context answer (⟨old, context, some .shouldExit⟩, after)) rest place
    at second
  by_cases accepted : conduct.accepts after answer = true
  · cases found : parts.table.lookup? old.type event.type with
    | none =>
        rw [choose_missing parts conduct old event context answer _ after accepted found] at second
        cases second
    | some entry =>
        obtain rfl := valid_parts_told parts valid old.type event.type entry found
        by_cases missing : parts.spec.resolution old.type event.type = .unhandled
        · rw [choose_unhandled parts conduct old event context answer _ after _ found accepted missing] at second
          cases second
        · rw [choose_moves parts conduct old event context answer _ after _ found accepted missing] at second
          exact move_stops parts conduct context event old start (earlier + own) rest after _ place
            (.willing earlier own old contents after answer underway lasts accepted missing) second
  · rw [choose_refuses parts conduct old event context answer _ after (Bool.eq_false_iff.mpr accepted)] at second
    cases second

theorem react_stops (valid : ValidParts parts)
    (waits : Waits (react parts conduct old event context (⟨old, context, mark⟩, start)) later place) :
    Stopped parts conduct context event old start later place := by
  rw [← Nat.zero_add later]
  apply step_stops parts conduct context event old start 0 later start mark place old old .preTransition
    (.inr rfl) .opened waits
  intro own rest answer after lasts second
  exact ask_stops parts conduct context event old start (0 + own) rest after _ place valid
    (.prepared 0 own old start after answer .opened lasts) second

end Stops

-- What comes back from an act: how far its dispatch got, why it failed, or the mark that was taken away.
inductive Answer where
  | suspended
  | finished (outcome : Outcome)
  | raised (fault : Fault)
  | recovered (step : Option Step)
  | nothing

def answerOf {γ : Type} : Run (Place γ) Outcome → Answer
  | .done outcome _ => .finished outcome
  | .failed fault _ => .raised fault
  | .paused _ _ => .suspended

namespace Session

variable {γ : Type} (parts : Parts) (conduct : Conduct γ)

def answer (session : Session γ) : Act γ → Answer
  | .begin value => answerOf (dispatch parts conduct value session.place)
  | .resume index => match session.waiting[index]? with
    | none => .nothing
    | some dispatch => answerOf (dispatch.resume session.place)
  | .cancel index => match session.waiting[index]? with
    | none => .nothing
    | some _ => .raised .cancelled
  | .recover => .recovered session.place.1.recover.1
  | .touch _ => .nothing

-- A machine that refuses every dispatch with the mark of a step until it is recovered, and then begins where it is.
structure Blocked (session : Session γ) (step : Step) : Prop where
  unchanged : ∀ values : List Value, session.run parts conduct (values.map .begin) = session
  refused : ∀ value, session.answer parts conduct (.begin value) = .raised (.interrupted step)
  recovered : session.answer parts conduct .recover = .recovered (some step)
  unmarked : session.act parts conduct .recover =
    { session with place := ({ session.place.1 with step := none }, session.place.2) }
  reacts : ∀ value event, Taken parts value event →
    dispatch parts conduct value (session.act parts conduct .recover).place =
      react parts conduct session.place.1.state event session.place.1.context
        ({ session.place.1 with step := none }, session.place.2)

theorem marked_blocked (session : Session γ) (step : Step) (marked : session.place.1.step = some step) :
    Blocked parts conduct session step where
  unchanged := by
    intro values
    induction values with
    | nil => rfl
    | cons value rest ih =>
        change (session.act parts conduct (.begin value)).run parts conduct (rest.map .begin) = session
        rw [(begin_refused parts conduct session value step marked).2, ih]
  refused := by
    intro value
    rw [answer, (begin_refused parts conduct session value step marked).1]
    rfl
  recovered := congrArg Answer.recovered marked
  unmarked := rfl
  reacts := by
    intro value event taken
    exact dispatch_taken parts conduct { session.place.1 with step := none } session.place.2 value event rfl taken

theorem resume_nothing (session : Session γ) (free : session.waiting = []) (resumptions : Nat) :
    session.run parts conduct (List.replicate resumptions (.resume 0)) = session := by
  induction resumptions with
  | zero => rfl
  | succ resumptions ih =>
      have same : session.act parts conduct (.resume 0) = session := by simp only [act, free, List.getElem?_nil]
      change (session.act parts conduct (.resume 0)).run parts conduct (List.replicate resumptions (.resume 0)) = _
      rw [same, ih]

-- The only dispatch of a session waits where its run does.
theorem resumed_waits (session : Session γ) (free : session.waiting = []) (began : Variant)
    (dispatched : Run (Place γ) Outcome) (resumptions : Nat)
    (waits :
      ((session.goOn began dispatched).run parts conduct (List.replicate resumptions (.resume 0))).waiting ≠ []) :
    ∃ place resume, Waits dispatched resumptions place ∧
      (session.goOn began dispatched).run parts conduct (List.replicate resumptions (.resume 0)) =
        ⟨place, [⟨began, resume⟩]⟩ := by
  induction resumptions generalizing session dispatched with
  | zero =>
      cases dispatched with
      | done outcome place => exact absurd free waits
      | failed fault place => exact absurd free waits
      | paused place resume => exact ⟨place, resume, .here place resume, by simp only [goOn, free]; rfl⟩
  | succ resumptions ih =>
      cases dispatched with
      | done outcome place =>
          rw [resume_nothing parts conduct (session.goOn began (.done outcome place)) free] at waits
          exact absurd free waits
      | failed fault place =>
          rw [resume_nothing parts conduct (session.goOn began (.failed fault place)) free] at waits
          exact absurd free waits
      | paused place resume =>
          have stepped : (session.goOn began (.paused place resume)).run parts conduct
              (List.replicate (resumptions + 1) (.resume 0)) =
              (goOn ⟨place, []⟩ began (resume place)).run parts conduct (List.replicate resumptions (.resume 0)) := by
            simp only [goOn, free]
            rfl
          rw [stepped] at waits ⊢
          obtain ⟨last, onward, waiting, same⟩ := ih ⟨place, []⟩ rfl (resume place) waits
          exact ⟨last, onward, .later place last resume resumptions waiting, same⟩

theorem dispatch_stops (valid : ValidParts parts) (machine : Reactor) (start : γ) (idle : machine.step = none)
    (value : Value) (pauses : Nat) (place : Place γ)
    (waits : Waits (dispatch parts conduct value (machine, start)) pauses place) :
    ∃ event, Taken parts value event ∧
      Stopped parts conduct machine.context event machine.state start pauses place := by
  cases taken : convert parts .event (dispatchVariables value) value with
  | error fault =>
      rw [dispatch_idle parts conduct value machine start idle, taken] at waits
      cases waits
  | ok event =>
      rw [dispatch_taken parts conduct machine start value event idle taken] at waits
      exact ⟨event, taken, react_stops parts conduct machine.context event machine.state start pauses machine.step place
        valid waits⟩

end Session

end Statewright.Machine
