import Statewright.Machine.Program
import Statewright.Proofs.Suspension
import Statewright.Proofs.Tables

/-!
Several dispatches on one machine. A session begins dispatches, goes on with those that wait, cancels them, recovers
the machine and changes what its context holds, in any order. As long as nobody recovers the machine while a dispatch
waits, dispatches exclude one another: the mark of the machine is the lock.
-/
set_option autoImplicit false

namespace Statewright.Machine

open Emission.EventDriven (Parts)
open Reactor

-- A dispatch that waits, with the state in which it began.
structure Waiting (γ : Type) where
  began : Variant
  resume : Routine (Place γ) Outcome

structure Session (γ : Type) where
  place : Place γ
  waiting : List (Waiting γ) := []

-- What can be done with a machine; a waiting dispatch goes by its position.
inductive Act (γ : Type) where
  | begin (value : Value)
  | resume (index : Nat)
  | cancel (index : Nat)
  | recover
  | touch (change : γ → γ)

namespace Session

variable {γ : Type} (parts : Parts) (conduct : Conduct γ)

-- Where a run has left the machine; what pauses waits.
def goOn (session : Session γ) (began : Variant) : Run (Place γ) Outcome → Session γ
  | .done _ place => { session with place }
  | .failed _ place => { session with place }
  | .paused place resume => ⟨place, session.waiting ++ [⟨began, resume⟩]⟩

def act (session : Session γ) : Act γ → Session γ
  | .begin value => session.goOn session.place.1.state (dispatch parts conduct value session.place)
  | .resume index => match session.waiting[index]? with
    | none => session
    | some dispatch =>
      goOn { session with waiting := session.waiting.eraseIdx index } dispatch.began (dispatch.resume session.place)
  | .cancel index => { session with waiting := session.waiting.eraseIdx index }
  | .recover => { session with place := (session.place.1.recover.2, session.place.2) }
  | .touch change => { session with place := (session.place.1, change session.place.2) }

def run (session : Session γ) (acts : List (Act γ)) : Session γ := acts.foldl (act parts conduct) session

-- The machine is recovered only while nothing waits.
def Orderly : Session γ → List (Act γ) → Prop
  | _, [] => True
  | session, next :: rest => (next = .recover → session.waiting = []) ∧ Orderly (session.act parts conduct next) rest

-- The state in which the dispatch began that an act runs.
def began? (session : Session γ) : Act γ → Option Variant
  | .begin _ => some session.place.1.state
  | .resume index => (session.waiting[index]?).map (·.began)
  | _ => none

-- At most one dispatch waits; the machine is marked then, and the dispatch goes on from where it is.
def Exclusive (session : Session γ) : Prop :=
  session.waiting = [] ∨ ∃ dispatch, session.waiting = [dispatch] ∧ Marked dispatch.began session.place.1 ∧
    ∀ contents, Follows dispatch.began session.place.1.state (dispatch.resume (session.place.1, contents))

theorem go_on_exclusive (session : Session γ) (began seen : Variant) (run : Run (Place γ) Outcome)
    (free : session.waiting = []) (follows : Follows began seen run) : Exclusive (session.goOn began run) := by
  cases follows with
  | done _ value machine contents succeeds => exact .inl free
  | failed _ fault machine contents succeeds => exact .inl free
  | paused _ machine contents resume succeeds marked onward =>
      refine .inr ⟨⟨began, resume⟩, ?_, marked, onward⟩
      simp only [goOn, free, List.nil_append]

theorem go_on_state (session : Session γ) (began seen : Variant) (run : Run (Place γ) Outcome)
    (follows : Follows began seen run) (changed : (session.goOn began run).place.1.state ≠ seen) : seen = began := by
  cases follows with
  | done _ value machine contents succeeds => exact succeeds.resolve_left changed
  | failed _ fault machine contents succeeds => exact succeeds.resolve_left changed
  | paused _ machine contents resume succeeds marked onward => exact succeeds.resolve_left changed

theorem begin_refused (session : Session γ) (value : Value) (step : Step)
    (marked : session.place.1.step = some step) :
    dispatch parts conduct value session.place = .failed (.interrupted step) session.place ∧
      session.act parts conduct (.begin value) = session := by
  have refused := dispatch_marked parts conduct value session.place.1 session.place.2 step marked
  refine ⟨refused, ?_⟩
  change session.goOn session.place.1.state (dispatch parts conduct value (session.place.1, session.place.2)) = session
  rw [refused]
  rfl

-- Where dispatches exclude one another, only the first position can hold one that goes on.
theorem resume_cases (session : Session γ) (index : Nat) (exclusive : Exclusive session) :
    session.act parts conduct (.resume index) = session ∨
      ∃ dispatch, session.waiting[index]? = some dispatch ∧
        session.act parts conduct (.resume index) =
          goOn { session with waiting := [] } dispatch.began (dispatch.resume session.place) ∧
        Follows dispatch.began session.place.1.state (dispatch.resume session.place) := by
  rcases exclusive with free | ⟨dispatch, alone, _, onward⟩
  · have missing : session.waiting[index]? = none := by rw [free]; rfl
    exact .inl (by simp only [act, missing])
  · cases index with
    | zero =>
        have found : session.waiting[0]? = some dispatch := by rw [alone]; rfl
        have cleared : session.waiting.eraseIdx 0 = [] := by rw [alone]; rfl
        exact .inr ⟨dispatch, found, by simp only [act, found, cleared], onward session.place.2⟩
    | succ index =>
        have missing : session.waiting[index + 1]? = none := by rw [alone]; rfl
        exact .inl (by simp only [act, missing])

theorem act_exclusive (session : Session γ) (next : Act γ) (exclusive : Exclusive session)
    (orderly : next = .recover → session.waiting = []) : Exclusive (session.act parts conduct next) := by
  cases next with
  | begin value =>
      rcases exclusive with free | ⟨dispatch, alone, ⟨step, stepped, early⟩, onward⟩
      · exact go_on_exclusive session _ _ _ free
          (dispatch_follows parts conduct value session.place.1 session.place.2)
      · rw [(begin_refused parts conduct session value step stepped).2]
        exact .inr ⟨dispatch, alone, ⟨step, stepped, early⟩, onward⟩
  | resume index =>
      rcases resume_cases parts conduct session index exclusive with same | ⟨dispatch, _, resumed, follows⟩
      · rw [same]
        exact exclusive
      · rw [resumed]
        exact go_on_exclusive _ _ _ _ rfl follows
  | cancel index =>
      rcases exclusive with free | ⟨dispatch, alone, marked, onward⟩
      · exact .inl (by simp [act, free])
      · cases index with
        | zero => exact .inl (by simp [act, alone])
        | succ index => exact .inr ⟨dispatch, by simp [act, alone], marked, onward⟩
  | recover => exact .inl (orderly rfl)
  | touch change =>
      rcases exclusive with free | ⟨dispatch, alone, marked, onward⟩
      · exact .inl free
      · exact .inr ⟨dispatch, alone, marked, onward⟩

-- An act that changes the state runs a dispatch that began in the state it replaces.
theorem act_state (session : Session γ) (next : Act γ) (exclusive : Exclusive session)
    (changed : (session.act parts conduct next).place.1.state ≠ session.place.1.state) :
    session.began? next = some session.place.1.state := by
  cases next with
  | begin value => rfl
  | resume index =>
      rcases resume_cases parts conduct session index exclusive with same | ⟨dispatch, found, resumed, follows⟩
      · rw [same] at changed
        exact absurd rfl changed
      · rw [resumed] at changed
        rw [began?, found, Option.map_some, go_on_state _ _ _ _ follows changed]
  | cancel index => exact absurd rfl changed
  | recover => exact absurd rfl changed
  | touch change => exact absurd rfl changed

theorem run_exclusive (session : Session γ) (acts rest : List (Act γ)) (exclusive : Exclusive session)
    (orderly : Orderly parts conduct session (acts ++ rest)) :
    Exclusive (session.run parts conduct acts) ∧ Orderly parts conduct (session.run parts conduct acts) rest := by
  induction acts generalizing session with
  | nil => exact ⟨exclusive, orderly⟩
  | cons next acts ih =>
      exact ih (session.act parts conduct next) (act_exclusive parts conduct session next exclusive orderly.1) orderly.2

/-- As long as the machine is recovered only while nothing waits, at most one dispatch waits. Until it is over every
other one is refused and runs nothing, and each dispatch that replaces the state began in the one it replaces. -/
theorem dispatches_exclusive (session : Session γ) (free : session.waiting = []) (acts : List (Act γ)) (next : Act γ)
    (orderly : Orderly parts conduct session (acts ++ [next])) :
    let reached := session.run parts conduct acts
    reached.waiting.length ≤ 1 ∧
    (∀ dispatched ∈ reached.waiting, ∃ step, reached.place.1.step = some step ∧
      (step.number ≤ Step.transition.number → reached.place.1.state = dispatched.began) ∧
      ∀ value, dispatch parts conduct value reached.place = .failed (.interrupted step) reached.place ∧
        reached.act parts conduct (.begin value) = reached) ∧
    ((reached.act parts conduct next).place.1.state ≠ reached.place.1.state →
      reached.began? next = some reached.place.1.state) := by
  intro reached
  have exclusive : Exclusive reached := (run_exclusive parts conduct session acts [next] (.inl free) orderly).1
  refine ⟨?_, ?_, act_state parts conduct reached next exclusive⟩
  · rcases exclusive with none_ | ⟨dispatched, alone, _⟩
    · simp [none_]
    · simp [alone]
  · intro dispatched member
    rcases exclusive with none_ | ⟨other, alone, ⟨step, stepped, early⟩, _⟩
    · rw [none_] at member
      cases member
    · rw [alone] at member
      obtain rfl := List.mem_singleton.mp member
      exact ⟨step, stepped, early, fun value => begin_refused parts conduct reached value step stepped⟩

end Session

-- A camera that pauses whenever it leaves a state.
def shutterSpec : Spec :=
  { kind := .eventDriven, name := "Cam", isAsync := true, context := "list"
    prelude := "class Pause:\n    def __await__(self):\n        yield"
    stateEnum := some { name := "CamState" }, eventEnum := some { name := "CamEvent" }
    stateTrait := some { name := "Held", methods := [{ name := "on_exit", body := "await Pause()" }] }
    states :=
      [{ name := "Idle"
         transitions :=
           [{ source := "Idle", trigger := "Shoot", target := some "Busy" },
            { source := "Idle", trigger := "Sleep", target := some "Asleep" }] },
       { name := "Busy" }, { name := "Asleep" }] }

def shutterParts : Parts := partsOf shutterSpec { name := "CamState" } { name := "CamEvent" }

def shutterSession (acts : List (Act Contents)) : Session Contents :=
  Session.run shutterParts (Program.ofSpec shutterSpec).conduct ⟨(⟨⟨"Idle", []⟩, 0, none⟩, []), []⟩ acts

set_option maxRecDepth 1000 in
theorem shutter_locked :
    let shot := shutterSession [.begin (.object "Shoot" [])]
    shot.waiting.length = 1 ∧ ∀ dispatched ∈ shot.waiting,
      shot.act shutterParts (Program.ofSpec shutterSpec).conduct (.begin (.object "Sleep" [])) = shot := by
  intro shot
  refine ⟨rfl, ?_⟩
  intro dispatched member
  have orderly : Session.Orderly shutterParts (Program.ofSpec shutterSpec).conduct
      ⟨(⟨⟨"Idle", []⟩, 0, none⟩, []), []⟩ ([.begin (.object "Shoot" [])] ++ [.resume 0]) :=
    ⟨nofun, nofun, trivial⟩
  obtain ⟨_, _, _, refused⟩ := (Session.dispatches_exclusive shutterParts (Program.ofSpec shutterSpec).conduct
    ⟨(⟨⟨"Idle", []⟩, 0, none⟩, []), []⟩ rfl [.begin (.object "Shoot" [])] (.resume 0) orderly).2.1 dispatched member
  exact (refused (.object "Sleep" [])).2

set_option maxRecDepth 1000 in
-- The camera is recovered while it leaves its state; the second dispatch then replaces a state it did not begin in.
theorem recovered_shutter_loses_transition :
    shutterSpec.validate = .ok () ∧
    let shot := shutterSession
      [.begin (.object "Shoot" []), .recover, .begin (.object "Sleep" []), .resume 0]
    shot.place.1.state = ⟨"Busy", []⟩ ∧ shot.waiting.map (·.began) = [⟨"Idle", []⟩] ∧
      (shot.act shutterParts (Program.ofSpec shutterSpec).conduct (.resume 0)).place.1.state = ⟨"Asleep", []⟩ :=
  ⟨rfl, rfl, rfl, rfl⟩

end Statewright.Machine
