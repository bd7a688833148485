import Statewright.Command.Generate
import Statewright.Proofs.Generation

/-!
Runs of the command on a desk. A file that can be read is rendered as its text is, and what fails is reported and ends
with a code, save the one failure that the program does not know.
-/
set_option autoImplicit false

namespace Statewright.Command

section
variable {ε σ α β : Type}

theorem run_bind_ok (first : ExceptT ε (StateM σ) α) (next : α → ExceptT ε (StateM σ) β) (start middle : σ) (value : α)
    (ran : first.run.run start = (.ok value, middle)) :
    (first >>= next).run.run start = (next value).run.run middle := by
  rw [ExceptT.run_bind, StateT.run_bind, ran]
  rfl

theorem run_bind_error (first : ExceptT ε (StateM σ) α) (next : α → ExceptT ε (StateM σ) β) (start middle : σ)
    (trouble : ε) (ran : first.run.run start = (.error trouble, middle)) :
    (first >>= next).run.run start = (.error trouble, middle) := by
  rw [ExceptT.run_bind, StateT.run_bind, ran]
  rfl

end

def Desk.printed (desk : Desk) (text : Text) : Desk := { desk with output := desk.output ++ text }

section
variable (desk : Desk) (options : Options) (text : Text)

theorem readSpec_run (name : Text) (readable : desk.readFile name = some text) :
    (readSpec Desk.host name).run.run desk =
      ((Spec.read text (some name)).mapError fun misshape => .failure (.shape misshape), desk) := by
  have looked : (liftM (Desk.host.readFile name) : Attempt (StateM Desk) (Option Text)).run.run desk =
      (.ok (some text), desk) := by
    rw [← readable]
    rfl
  exact run_bind_ok _ _ desk desk (some text) looked

theorem lines_run (lines : List Text) :
    (printLines Desk.host lines).run.run desk = (.ok (), desk.printed (linesText lines)) := rfl

theorem prepare_run (spec : Spec) :
    (prepare spec : Attempt (StateM Desk) _).run.run desk =
      (spec.prepare.mapError fun rejection => .failure (.rejected rejection), desk) := rfl

theorem moduleText_run (spec : Spec) (table : Option Table) :
    (moduleText Desk.host none spec table).run.run desk = ((spec.emit table).mapError .failure, desk) := rfl

theorem reading_run (given : desk.readFile options.specFile = some text) (spec : Spec)
    (read : Spec.read text (some options.specFile) = .ok spec) :
    (readSpec Desk.host options.specFile).run.run desk = (.ok spec, desk) := by
  rw [readSpec_run desk text options.specFile given, read]
  rfl

theorem reading_stops (given : desk.readFile options.specFile = some text) (misshape : Misshape)
    (read : Spec.read text (some options.specFile) = .error misshape) :
    (readSpec Desk.host options.specFile).run.run desk = (.error (.failure (.shape misshape)), desk) := by
  rw [readSpec_run desk text options.specFile given, read]
  rfl

theorem preparing_run (spec : Spec) (table : Option Table) (prepared : spec.prepare = .ok table) :
    (prepare spec : Attempt (StateM Desk) _).run.run desk = (.ok table, desk) := by
  rw [prepare_run, prepared]
  rfl

theorem preparing_stops (spec : Spec) (rejection : Rejection) (refused : spec.prepare = .error rejection) :
    (prepare spec : Attempt (StateM Desk) _).run.run desk = (.error (.failure (.rejected rejection)), desk) := by
  rw [prepare_run, refused]
  rfl

theorem writing_run (spec : Spec) (table : Option Table) (module : Text) (written : spec.emit table = .ok module) :
    (moduleText Desk.host none spec table).run.run desk = (.ok module, desk) := by
  rw [moduleText_run, written]
  rfl

theorem writing_stops (spec : Spec) (table : Option Table) (failure : Failure)
    (stopped : spec.emit table = .error failure) :
    (moduleText Desk.host none spec table).run.run desk = (.error (.failure failure), desk) := by
  rw [moduleText_run, stopped]
  rfl

/-! Checking. -/

theorem check_accepts (given : desk.readFile options.specFile = some text) (spec : Spec)
    (read : Spec.read text (some options.specFile) = .ok spec) (valid : spec.validate = .ok ()) :
    (checkSpec Desk.host options).run.run desk =
      (.ok (), desk.printed (linesText [['✓'] ++ " " ++ spec.name ++ ": specification is valid"])) := by
  obtain ⟨table, prepared⟩ := prepare_of_valid spec valid
  unfold checkSpec
  rw [run_bind_ok _ _ desk desk spec (reading_run desk options text given spec read),
    run_bind_ok _ _ desk desk table (preparing_run desk spec table prepared)]
  rfl

theorem check_fails (given : desk.readFile options.specFile = some text)
    (refused : ∀ spec, Spec.read text (some options.specFile) = .ok spec → spec.validate ≠ .ok ()) :
    ∃ failure : Failure, failure.Reported ∧
      (checkSpec Desk.host options).run.run desk = (.error (.failure failure), desk) := by
  unfold checkSpec
  cases read : Spec.read text (some options.specFile) with
  | error misshape =>
      refine ⟨.shape misshape, .inl ⟨misshape, rfl⟩, ?_⟩
      exact run_bind_error _ _ desk desk _ (reading_stops desk options text given misshape read)
  | ok spec =>
      cases valid : spec.validate with
      | ok value => exact absurd valid (refused spec read)
      | error rejection =>
          have enumerated := read_enumerated text _ spec read
          obtain ⟨violation, rfl⟩ := Validation.validate_explains spec enumerated rejection valid
          refine ⟨.rejected (.violation violation), .inr (.inl ⟨violation, rfl⟩), ?_⟩
          rw [run_bind_ok _ _ desk desk spec (reading_run desk options text given spec read)]
          exact run_bind_error _ _ desk desk _ (preparing_stops desk spec _ ((refused_iff spec _).mpr valid))

/-! Printing. -/

theorem print_fails (given : desk.readFile options.specFile = some text) (bundled : options.templateDir = none)
    (failure : Failure) (failed : renderText text (some options.specFile) = .error failure) :
    (printModule Desk.host options).run.run desk = (.error (.failure failure), desk) := by
  unfold printModule
  rw [bundled]
  cases stops_of_failed text _ failure failed with
  | reading misshape read => exact run_bind_error _ _ desk desk _ (reading_stops desk options text given misshape read)
  | checking spec rejection read refused =>
      rw [run_bind_ok _ _ desk desk spec (reading_run desk options text given spec read)]
      exact run_bind_error _ _ desk desk _ (preparing_stops desk spec rejection refused)
  | writing spec table _ read prepared stopped =>
      rw [run_bind_ok _ _ desk desk spec (reading_run desk options text given spec read),
        run_bind_ok _ _ desk desk table (preparing_run desk spec table prepared)]
      exact run_bind_error _ _ desk desk _ (writing_stops desk spec table failure stopped)

theorem print_prints (given : desk.readFile options.specFile = some text) (bundled : options.templateDir = none)
    (module : Text) (rendered : renderText text (some options.specFile) = .ok module) :
    (printModule Desk.host options).run.run desk = (.ok (), desk.printed module) := by
  obtain ⟨spec, table, read, prepared, written⟩ := rendered_through text _ module rendered
  unfold printModule
  rw [bundled, run_bind_ok _ _ desk desk spec (reading_run desk options text given spec read),
    run_bind_ok _ _ desk desk table (preparing_run desk spec table prepared),
    run_bind_ok _ _ desk desk module (writing_run desk spec table module written)]
  rfl

/-! Saving. -/

def announce (spec : Spec) : Option Table → Attempt (StateM Desk) Unit
  | some table => printLines Desk.host (tableLines spec table)
  | none => pure ()

def placeModule (options : Options) (spec : Spec) (table : Option Table) : Attempt (StateM Desk) Unit := do
  let text ← moduleText Desk.host options.templateDir spec table
  let directory := Path.ofText options.outputDir
  let name := outputName options.specFile
  match ← Desk.host.save directory name text with
  | .error obstruction => throw (.obstructed obstruction)
  | .ok () => printLines Desk.host ["  " ++ ['✓'] ++ " Generated: " ++ (directory.child name).text]

theorem saveModule_eq : saveModule Desk.host options = (do
    let spec ← readSpec Desk.host options.specFile
    printLines Desk.host (specLines spec)
    let table ← prepare spec
    announce spec table
    placeModule options spec table) := by
  unfold saveModule
  refine bind_congr fun spec => bind_congr fun _ => bind_congr fun table => ?_
  cases table <;> rfl

def Desk.saved (desk : Desk) (directory : Path) (name text : Text) : Desk :=
  { desk with tree := (desk.tree.save directory name text).2 }

theorem save_run (directory : Path) (name text : Text) :
    (liftM (Desk.host.save directory name text) : Attempt (StateM Desk) _).run.run desk =
      (.ok (desk.tree.save directory name text).1, desk.saved directory name text) := rfl

theorem announce_run (spec : Spec) (table : Option Table) :
    ∃ told, (announce spec table).run.run desk = (.ok (), desk.printed told) := by
  cases table with
  | some table => exact ⟨_, rfl⟩
  | none =>
      refine ⟨[], ?_⟩
      rw [Desk.printed, List.append_nil]
      rfl

theorem printed_printed (first second : Text) :
    (desk.printed first).printed second = desk.printed (first ++ second) := by
  rw [Desk.printed, Desk.printed, Desk.printed, List.append_assoc]

-- Whatever stops a module from being written, nothing of it is saved.
theorem save_fails (given : desk.readFile options.specFile = some text) (bundled : options.templateDir = none)
    (failure : Failure) (failed : renderText text (some options.specFile) = .error failure) :
    ∃ told, (saveModule Desk.host options).run.run desk = (.error (.failure failure), desk.printed told) := by
  rw [saveModule_eq]
  cases stops_of_failed text _ failure failed with
  | reading misshape read =>
      refine ⟨[], ?_⟩
      rw [Desk.printed, List.append_nil]
      exact run_bind_error _ _ desk desk _ (reading_stops desk options text given misshape read)
  | checking spec rejection read refused =>
      refine ⟨linesText (specLines spec), ?_⟩
      rw [run_bind_ok _ _ desk desk spec (reading_run desk options text given spec read),
        run_bind_ok _ _ desk _ () (lines_run desk _)]
      exact run_bind_error _ _ _ _ _ (preparing_stops _ spec rejection refused)
  | writing spec table _ read prepared stopped =>
      obtain ⟨told, announced⟩ := announce_run (desk.printed (linesText (specLines spec))) spec table
      refine ⟨linesText (specLines spec) ++ told, ?_⟩
      rw [run_bind_ok _ _ desk desk spec (reading_run desk options text given spec read),
        run_bind_ok _ _ desk _ () (lines_run desk _), run_bind_ok _ _ _ _ table (preparing_run _ spec table prepared),
        run_bind_ok _ _ _ _ () announced, printed_printed, placeModule, bundled]
      exact run_bind_error _ _ _ _ _ (writing_stops _ spec table failure stopped)

theorem save_saves (given : desk.readFile options.specFile = some text) (bundled : options.templateDir = none)
    (module : Text) (rendered : renderText text (some options.specFile) = .ok module) :
    ∃ outcome after, (saveModule Desk.host options).run.run desk = (outcome, after) ∧
      after.tree = (desk.tree.save (Path.ofText options.outputDir) (outputName options.specFile) module).2 ∧
        ∀ trouble, outcome = .error trouble → ∃ obstruction, trouble = .obstructed obstruction := by
  obtain ⟨spec, table, read, prepared, written⟩ := rendered_through text _ module rendered
  obtain ⟨told, announced⟩ := announce_run (desk.printed (linesText (specLines spec))) spec table
  rw [saveModule_eq, run_bind_ok _ _ desk desk spec (reading_run desk options text given spec read),
    run_bind_ok _ _ desk _ () (lines_run desk _), run_bind_ok _ _ _ _ table (preparing_run _ spec table prepared),
    run_bind_ok _ _ _ _ () announced, printed_printed, placeModule, bundled,
    run_bind_ok _ _ _ _ module (writing_run _ spec table module written)]
  have kept : (desk.printed (linesText (specLines spec) ++ told)).tree = desk.tree := rfl
  generalize desk.printed (linesText (specLines spec) ++ told) = held at kept ⊢
  dsimp only
  rw [run_bind_ok _ _ held _ _ (save_run held _ _ module)]
  cases outcome : (held.tree.save (Path.ofText options.outputDir) (outputName options.specFile) module).1 with
  | error obstruction =>
      refine ⟨.error (.obstructed obstruction), held.saved _ _ module, rfl, ?_, ?_⟩
      · rw [Desk.saved, kept]
      · intro trouble stopped
        exact ⟨obstruction, (Except.error.inj stopped).symm⟩
  | ok value =>
      refine ⟨.ok (), (held.saved _ _ module).printed _, rfl, ?_, ?_⟩
      · rw [Desk.printed, Desk.saved, kept]
      · intro trouble stopped
        cases stopped

/-! Endings. -/

theorem conclude_ok (report : Trouble → Option Text) (attempt : Attempt (StateM Desk) Unit) (after : Desk)
    (ran : attempt.run.run desk = (.ok (), after)) :
    (conclude Desk.host report attempt).run desk = (.code 0, after) := by
  unfold conclude
  rw [StateT.run_bind, ran]
  rfl

theorem conclude_told (report : Trouble → Option Text) (attempt : Attempt (StateM Desk) Unit) (after : Desk)
    (trouble : Trouble) (line : Text) (ran : attempt.run.run desk = (.error trouble, after))
    (told : report trouble = some line) :
    (conclude Desk.host report attempt).run desk =
      (.code 1, { after with complaints := after.complaints ++ (line ++ ['\n']) }) := by
  unfold conclude
  rw [StateT.run_bind, ran]
  dsimp only [bind]
  rw [told]
  rfl

theorem conclude_escapes (report : Trouble → Option Text) (attempt : Attempt (StateM Desk) Unit) (after : Desk)
    (trouble : Trouble) (ran : attempt.run.run desk = (.error trouble, after)) (untold : report trouble = none) :
    (conclude Desk.host report attempt).run desk = (.escaped trouble, after) := by
  unfold conclude
  rw [StateT.run_bind, ran]
  dsimp only [bind]
  rw [untold]
  rfl

theorem read_of_readable (name : Text) (given : desk.readFile name = some text) :
    desk.tree.read? (Path.ofText name) = some text := by
  dsimp only [Desk.readFile] at given
  split at given
  · cases given
  · exact given

-- A file that can be read is there.
theorem path_of_readable (name : Text) (given : desk.readFile name = some text) :
    desk.tree.hasPath (Path.ofText name) = true := by
  have found := read_of_readable desk text name given
  unfold Tree.read? at found
  unfold Tree.hasPath
  cases walked : desk.tree.walk (Path.ofText name) with
  | error obstacle =>
      rw [walked] at found
      cases found
  | ok place =>
      rw [walked] at found
      change desk.tree.file? place = some text at found
      simp [Tree.contains, found]

def perform (options : Options) : StateM Desk Ending :=
  if options.checkOnly then conclude Desk.host checkReport (checkSpec Desk.host options)
  else if options.toStdout then conclude Desk.host printReport (printModule Desk.host options)
  else conclude Desk.host saveReport (saveModule Desk.host options)

theorem generate_run (words : List Text) (called : invocation words = .run options)
    (given : desk.readFile options.specFile = some text) :
    (generate Desk.host words).run desk = (perform options).run desk := by
  have there : (Desk.host.hasPath (Path.ofText options.specFile)).run desk = (true, desk) := by
    rw [← path_of_readable desk text options.specFile given]
    rfl
  unfold generate
  rw [called]
  dsimp only
  unfold runOptions
  rw [StateT.run_bind, there]
  rfl

theorem told_of_reported (failure : Failure) (reported : failure.Reported) :
    ∃ message, (Trouble.failure failure).message? = some message := by
  rcases reported with ⟨misshape, rfl⟩ | ⟨violation, rfl⟩ | ⟨machine, rfl⟩
  · exact ⟨_, rfl⟩
  · exact ⟨_, rfl⟩
  · exact ⟨_, rfl⟩

-- A failure that is reported ends with code one and leaves the files as they were.
theorem perform_fails (given : desk.readFile options.specFile = some text) (bundled : options.templateDir = none)
    (writes : options.checkOnly = false) (failure : Failure)
    (failed : renderText text (some options.specFile) = .error failure) (reported : failure.Reported) :
    ∃ after, (perform options).run desk = (.code 1, after) ∧ after.tree = desk.tree := by
  obtain ⟨message, told⟩ := told_of_reported failure reported
  unfold perform
  rw [if_neg (by simp [writes])]
  cases options.toStdout with
  | true =>
      have ended := conclude_told desk printReport _ desk (.failure failure) _
        (print_fails desk options text given bundled failure failed) (by rw [printReport, told]; rfl)
      exact ⟨_, ended, rfl⟩
  | false =>
      obtain ⟨output, ran⟩ := save_fails desk options text given bundled failure failed
      have ended := conclude_told desk saveReport _ _ (.failure failure) _ ran
        (by rw [saveReport, printReport, told]; rfl)
      exact ⟨_, ended, rfl⟩

theorem perform_writes (given : desk.readFile options.specFile = some text) (bundled : options.templateDir = none)
    (writes : options.checkOnly = false) (module : Text)
    (rendered : renderText text (some options.specFile) = .ok module) :
    ((perform options).run desk).1 = .code 0 ∨ ((perform options).run desk).1 = .code 1 := by
  unfold perform
  rw [if_neg (by simp [writes])]
  cases options.toStdout with
  | true =>
      have ended := conclude_ok desk printReport _ _ (print_prints desk options text given bundled module rendered)
      exact .inl (by rw [if_pos rfl, ended])
  | false =>
      obtain ⟨outcome, after, ran, _, obstructed⟩ := save_saves desk options text given bundled module rendered
      rw [if_neg Bool.false_ne_true]
      cases outcome with
      | ok value => exact .inl (by rw [conclude_ok desk saveReport _ after ran])
      | error trouble =>
          obtain ⟨obstruction, rfl⟩ := obstructed trouble rfl
          exact .inr (by rw [conclude_told desk saveReport _ after _ _ ran rfl])

-- The failure that the program does not know leaves it.
theorem perform_escapes (given : desk.readFile options.specFile = some text) (bundled : options.templateDir = none)
    (writes : options.checkOnly = false) (failed : renderText text (some options.specFile) = .error .forwarding) :
    ((perform options).run desk).1 = .escaped (.failure .forwarding) := by
  unfold perform
  rw [if_neg (by simp [writes])]
  cases options.toStdout with
  | true =>
      have ran := print_fails desk options text given bundled _ failed
      rw [if_pos rfl, conclude_escapes desk printReport _ _ _ ran rfl]
  | false =>
      obtain ⟨told, ran⟩ := save_fails desk options text given bundled _ failed
      rw [if_neg Bool.false_ne_true, conclude_escapes desk saveReport _ _ _ ran rfl]

theorem perform_accepts (given : desk.readFile options.specFile = some text) (checks : options.checkOnly = true)
    (spec : Spec) (read : Spec.read text (some options.specFile) = .ok spec) (valid : spec.validate = .ok ()) :
    (perform options).run desk =
      (.code 0, desk.printed (linesText [['✓'] ++ " " ++ spec.name ++ ": specification is valid"])) := by
  unfold perform
  rw [if_pos checks]
  exact conclude_ok desk checkReport _ _ (check_accepts desk options text given spec read valid)

theorem perform_refuses (given : desk.readFile options.specFile = some text) (checks : options.checkOnly = true)
    (refused : ∀ spec, Spec.read text (some options.specFile) = .ok spec → spec.validate ≠ .ok ()) :
    ∃ after, (perform options).run desk = (.code 1, after) ∧ after.tree = desk.tree := by
  obtain ⟨failure, reported, ran⟩ := check_fails desk options text given refused
  obtain ⟨message, told⟩ := told_of_reported failure reported
  unfold perform
  rw [if_pos checks]
  exact ⟨_, conclude_told desk checkReport _ desk _ _ ran (by rw [checkReport, told]; rfl), rfl⟩

end

theorem ends_with_code_iff (desk : Desk) (options : Options) (text : Text) (bundled : options.templateDir = none)
    (given : desk.readFile options.specFile = some text) :
    (((perform options).run desk).1 = .code 0 ∨ ((perform options).run desk).1 = .code 1) ↔
      (options.checkOnly = true ∨ ¬ HandsOnSlash text (some options.specFile)) := by
  cases checks : options.checkOnly with
  | true =>
      refine iff_of_true ?_ (.inl rfl)
      by_cases accepted : ∃ spec, Spec.read text (some options.specFile) = .ok spec ∧ spec.validate = .ok ()
      · obtain ⟨spec, read, valid⟩ := accepted
        exact .inl (by rw [perform_accepts desk options text given checks spec read valid])
      · obtain ⟨after, ended, _⟩ := perform_refuses desk options text given checks fun spec read valid =>
          accepted ⟨spec, read, valid⟩
        exact .inr (by rw [ended])
  | false =>
      rw [← render_text_forwarding_iff]
      cases rendered : renderText text (some options.specFile) with
      | ok module =>
          exact iff_of_true (perform_writes desk options text given bundled checks module rendered) (.inr (by simp))
      | error failure =>
          by_cases forwarding : failure = .forwarding
          · subst forwarding
            rw [perform_escapes desk options text given bundled checks rendered]
            simp
          · have reported := reported_of_failed text _ failure rendered fun slash => by
              rw [← render_text_forwarding_iff, rendered] at slash
              exact forwarding (Except.error.inj slash)
            obtain ⟨after, ended, _⟩ := perform_fails desk options text given bundled checks failure rendered reported
            exact iff_of_true (.inr (by rw [ended])) (.inr (by simp [forwarding]))

-- The method's list can follow the object, but not stand alone.
def valveText : Text :=
  Text.fixed "<deterministic_state_machine name=\"Valve\"><context type=\"int\"/><states><state name=\"Open\">" ++
    Text.fixed "<method name=\"turn\" params=\"/, a\"/></state></states></deterministic_state_machine>"

def valveDesk : Desk := { tree := { files := [(["valve.xml"], valveText)] } }

def tapText : Text :=
  Text.fixed "<deterministic_state_machine name=\"Tap\"><context type=\"int\"/><states><state name=\"Open\">" ++
    Text.fixed "<method name=\"turn\" params=\"a, /\"/></state></states></deterministic_state_machine>"

def tapSpec : Spec :=
  { kind := .deterministic, name := "Tap", context := "int", source := some "tap.xml", line := 1
    states := [{ name := "Open", line := 1
                 transitions := [{ source := "Open", trigger := "turn", params := "a, /", line := 1 }] }] }

def tapDesk : Desk := { tree := { files := [(["tap.xml"], tapText)] } }

end Statewright.Command
