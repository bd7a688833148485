import Statewright.Proofs.CommandRuns
import Statewright.Proofs.FileTrees

/-!
What the command does to the files on a desk. Reading, checking and printing leave the tree as it is, so a run that does
not end well has written nothing; one that does has saved the very module that it would print.
-/
set_option autoImplicit false

namespace Statewright.Command

section
variable {ε σ α β : Type}

theorem run_bind_ok_inv (first : ExceptT ε (StateM σ) α) (next : α → ExceptT ε (StateM σ) β) (start final : σ)
    (result : β) (ran : (first >>= next).run.run start = (.ok result, final)) :
    ∃ value middle, first.run.run start = (.ok value, middle) ∧ (next value).run.run middle = (.ok result, final) := by
  rcases stepped : first.run.run start with ⟨outcome, middle⟩
  cases outcome with
  | error trouble =>
      rw [run_bind_error first next start middle trouble stepped] at ran
      cases ran
  | ok value =>
      rw [run_bind_ok first next start middle value stepped] at ran
      exact ⟨value, middle, rfl, ran⟩

end

/-! Attempts that leave the tree alone. -/

section
variable {α β : Type}

def KeepsTree (attempt : Attempt (StateM Desk) α) : Prop := ∀ desk, (attempt.run.run desk).2.tree = desk.tree

-- An attempt that fails has left the files alone.
def SparesFiles (attempt : Attempt (StateM Desk) α) : Prop :=
  ∀ desk trouble after, attempt.run.run desk = (.error trouble, after) → after.tree.files = desk.tree.files

theorem keeps_bind (first : Attempt (StateM Desk) α) (next : α → Attempt (StateM Desk) β) (kept : KeepsTree first)
    (later : ∀ value, KeepsTree (next value)) : KeepsTree (first >>= next) := by
  intro desk
  have before := kept desk
  rcases stepped : first.run.run desk with ⟨outcome, middle⟩
  rw [stepped] at before
  cases outcome with
  | error trouble => rwa [run_bind_error first next desk middle trouble stepped]
  | ok value =>
      rw [run_bind_ok first next desk middle value stepped]
      exact (later value middle).trans before

theorem keeps_of (outcome : Except Trouble α) : KeepsTree (Attempt.of outcome) := fun _ => rfl

theorem spares_bind (first : Attempt (StateM Desk) α) (next : α → Attempt (StateM Desk) β) (kept : KeepsTree first)
    (later : ∀ value, SparesFiles (next value)) : SparesFiles (first >>= next) := by
  intro desk trouble after ran
  have before := kept desk
  rcases stepped : first.run.run desk with ⟨outcome, middle⟩
  rw [stepped] at before
  cases outcome with
  | error stopped =>
      rw [run_bind_error first next desk middle stopped stepped] at ran
      obtain rfl : middle = after := congrArg Prod.snd ran
      exact congrArg Tree.files before
  | ok value =>
      rw [run_bind_ok first next desk middle value stepped] at ran
      exact (later value middle trouble after ran).trans (congrArg Tree.files before)

end

theorem lookup_keeps (name : Text) : KeepsTree (liftM (Desk.host.readFile name) : Attempt (StateM Desk) _) :=
  fun _ => rfl

theorem lines_keep (lines : List Text) : KeepsTree (printLines Desk.host lines) := fun _ => rfl

theorem readSpec_keeps (name : Text) : KeepsTree (readSpec Desk.host name) := by
  apply keeps_bind _ _ (lookup_keeps name)
  intro found
  cases found with
  | none => exact keeps_of _
  | some text => exact keeps_of _

theorem moduleText_keeps (templateDir : Option Text) (spec : Spec) (table : Option Table) :
    KeepsTree (moduleText Desk.host templateDir spec table) := by
  cases templateDir with
  | none => exact keeps_of _
  | some directory =>
      apply keeps_bind _ _ (lookup_keeps _)
      intro found
      cases found with
      | none => exact keeps_of _
      | some text => exact keeps_of _

theorem announce_keeps (spec : Spec) (table : Option Table) : KeepsTree (announce spec table) := by
  cases table with
  | none => exact fun _ => rfl
  | some table => exact lines_keep _

theorem checkSpec_keeps (options : Options) : KeepsTree (checkSpec Desk.host options) := by
  apply keeps_bind _ _ (readSpec_keeps _)
  intro spec
  exact keeps_bind _ _ (keeps_of _) fun _ => lines_keep _

theorem printModule_keeps (options : Options) : KeepsTree (printModule Desk.host options) := by
  apply keeps_bind _ _ (readSpec_keeps _)
  intro spec
  apply keeps_bind _ _ (keeps_of _)
  intro table
  exact keeps_bind _ _ (moduleText_keeps _ spec table) fun _ _ => rfl

/-! Saving. -/

theorem placeModule_spares (options : Options) (spec : Spec) (table : Option Table) :
    SparesFiles (placeModule options spec table) := by
  apply spares_bind _ _ (moduleText_keeps _ spec table)
  intro text desk trouble after ran
  cases outcome : (desk.tree.save (Path.ofText options.outputDir) (outputName options.specFile) text).1 with
  | ok value =>
      rw [run_bind_ok _ _ desk _ _ (save_run desk _ _ text), outcome] at ran
      cases congrArg Prod.fst ran
  | error obstruction =>
      rw [run_bind_ok _ _ desk _ _ (save_run desk _ _ text), outcome] at ran
      obtain rfl : desk.saved _ _ text = after := congrArg Prod.snd ran
      exact Tree.save_fails desk.tree _ _ text obstruction outcome

theorem saveModule_spares (options : Options) : SparesFiles (saveModule Desk.host options) := by
  rw [saveModule_eq]
  apply spares_bind _ _ (readSpec_keeps _)
  intro spec
  apply spares_bind _ _ (lines_keep _)
  intro _
  apply spares_bind _ _ (keeps_of _)
  intro table
  exact spares_bind _ _ (announce_keeps spec table) fun _ => placeModule_spares options spec table

-- The bundled templates are used, or a directory that lacks the one for the specification.
def LacksTemplate (desk : Desk) (options : Options) : Prop :=
  ∀ directory, options.templateDir = some directory → ∀ text spec, desk.readFile options.specFile = some text →
    Spec.read text (some options.specFile) = .ok spec →
      desk.readFile (inDirectory directory (templateName spec)) = none

section
variable (desk after : Desk) (options : Options)

theorem readFile_same (name : Text) (same : after.tree.read? (Path.ofText name) = desk.tree.read? (Path.ofText name)) :
    after.readFile name = desk.readFile name := by
  dsimp only [Desk.readFile]
  rw [same]

theorem readSpec_ok (name : Text) (spec : Spec) (ran : (readSpec Desk.host name).run.run desk = (.ok spec, after)) :
    after = desk ∧ ∃ text, desk.readFile name = some text ∧ Spec.read text (some name) = .ok spec := by
  cases given : desk.readFile name with
  | none =>
      have looked : (liftM (Desk.host.readFile name) : Attempt (StateM Desk) (Option Text)).run.run desk =
          (.ok none, desk) := by
        rw [← given]
        rfl
      rw [readSpec, run_bind_ok _ _ desk desk none looked] at ran
      cases congrArg Prod.fst ran
  | some text =>
      rw [readSpec_run desk text name given] at ran
      refine ⟨(congrArg Prod.snd ran).symm, text, rfl, ?_⟩
      have read := congrArg Prod.fst ran
      cases outcome : Spec.read text (some name) with
      | error misshape =>
          rw [outcome] at read
          cases read
      | ok other =>
          rw [outcome] at read
          exact congrArg Except.ok (Except.ok.inj read)

theorem prepare_ok (spec : Spec) (table : Option Table)
    (ran : (prepare spec : Attempt (StateM Desk) _).run.run desk = (.ok table, after)) :
    after = desk ∧ spec.prepare = .ok table := by
  rw [prepare_run] at ran
  refine ⟨(congrArg Prod.snd ran).symm, ?_⟩
  have prepared := congrArg Prod.fst ran
  cases outcome : spec.prepare with
  | error rejection =>
      rw [outcome] at prepared
      cases prepared
  | ok other =>
      rw [outcome] at prepared
      exact congrArg Except.ok (Except.ok.inj prepared)

theorem moduleText_ok (spec : Spec) (table : Option Table) (module : Text)
    (lacks : ∀ directory, options.templateDir = some directory →
      desk.readFile (inDirectory directory (templateName spec)) = none)
    (ran : (moduleText Desk.host options.templateDir spec table).run.run desk = (.ok module, after)) :
    options.templateDir = none ∧ after = desk ∧ spec.emit table = .ok module := by
  cases chosen : options.templateDir with
  | none =>
      rw [chosen, moduleText_run] at ran
      refine ⟨rfl, (congrArg Prod.snd ran).symm, ?_⟩
      have written := congrArg Prod.fst ran
      cases outcome : spec.emit table with
      | error failure =>
          rw [outcome] at written
          cases written
      | ok other =>
          rw [outcome] at written
          exact congrArg Except.ok (Except.ok.inj written)
  | some directory =>
      have looked : (liftM (Desk.host.readFile (inDirectory directory (templateName spec))) :
          Attempt (StateM Desk) (Option Text)).run.run desk = (.ok none, desk) := by
        rw [← lacks directory chosen]
        rfl
      rw [chosen, moduleText, run_bind_ok _ _ desk desk none looked] at ran
      cases congrArg Prod.fst ran

theorem placeModule_ok (spec : Spec) (table : Option Table)
    (lacks : ∀ directory, options.templateDir = some directory →
      desk.readFile (inDirectory directory (templateName spec)) = none)
    (ran : (placeModule options spec table).run.run desk = (.ok (), after)) :
    options.templateDir = none ∧ ∃ module, spec.emit table = .ok module ∧
      desk.tree.save (Path.ofText options.outputDir) (outputName options.specFile) module = (.ok (), after.tree) := by
  obtain ⟨module, middle, written, placed⟩ := run_bind_ok_inv _ _ desk after () ran
  obtain ⟨bundled, rfl, emitted⟩ := moduleText_ok desk middle options spec table module lacks written
  refine ⟨bundled, module, emitted, ?_⟩
  rw [run_bind_ok _ _ middle _ _ (save_run middle _ _ module)] at placed
  rcases saved : middle.tree.save (Path.ofText options.outputDir) (outputName options.specFile) module with
    ⟨outcome, tree⟩
  rw [saved] at placed
  cases outcome with
  | error obstruction => cases congrArg Prod.fst placed
  | ok value =>
      have there : after.tree = (middle.saved (Path.ofText options.outputDir) (outputName options.specFile) module).tree :=
        (congrArg (fun outcome => outcome.2.tree) placed).symm
      rw [there, Desk.saved, saved]

theorem render_of_steps (text : Text) (source : Option Text) (spec : Spec) (table : Option Table) (module : Text)
    (read : Spec.read text source = .ok spec) (prepared : spec.prepare = .ok table)
    (written : spec.emit table = .ok module) : renderText text source = .ok module := by
  simp only [renderText, read, Spec.render, prepared, written]

theorem saveModule_ok (lacks : LacksTemplate desk options)
    (ran : (saveModule Desk.host options).run.run desk = (.ok (), after)) :
    options.templateDir = none ∧ ∃ text module, desk.readFile options.specFile = some text ∧
      renderText text (some options.specFile) = .ok module ∧
        desk.tree.save (Path.ofText options.outputDir) (outputName options.specFile) module = (.ok (), after.tree) := by
  rw [saveModule_eq] at ran
  obtain ⟨spec, first, reading, afterReading⟩ := run_bind_ok_inv _ _ desk after () ran
  clear ran
  obtain ⟨rfl, text, given, read⟩ := readSpec_ok desk first options.specFile spec reading
  obtain ⟨_, second, told, afterTelling⟩ := run_bind_ok_inv _ _ first after () afterReading
  obtain ⟨table, third, preparing, afterChecking⟩ := run_bind_ok_inv _ _ second after () afterTelling
  obtain ⟨rfl, prepared⟩ := prepare_ok second third spec table preparing
  obtain ⟨_, fourth, announced, placed⟩ := run_bind_ok_inv _ _ third after () afterChecking
  have printed : third.tree = first.tree := by
    have kept := lines_keep (specLines spec) first
    rwa [told] at kept
  have same : fourth.tree = first.tree := by
    have kept := announce_keeps spec table third
    rw [announced] at kept
    exact kept.trans printed
  obtain ⟨bundled, module, written, saved⟩ := placeModule_ok fourth after options spec table
    (fun directory chosen => (readFile_same first fourth _ (by rw [same])).trans (lacks directory chosen text spec given read)) placed
  exact ⟨bundled, text, module, given, render_of_steps text _ spec table module read prepared written, same ▸ saved⟩

/-! Endings. -/

-- Reporting a failure is all that is done about it.
theorem conclude_ends (report : Trouble → Option Text) (attempt : Attempt (StateM Desk) Unit) :
    ((conclude Desk.host report attempt).run desk).2.tree = (attempt.run.run desk).2.tree ∧
      (((conclude Desk.host report attempt).run desk).1 = .code 0 ↔ (attempt.run.run desk).1 = .ok ()) := by
  rcases ran : attempt.run.run desk with ⟨outcome, middle⟩
  cases outcome with
  | ok value => simp [conclude_ok desk report attempt middle ran]
  | error trouble =>
      cases told : report trouble with
      | none => simp [conclude_escapes desk report attempt middle trouble ran told]
      | some line => simp [conclude_told desk report attempt middle trouble line ran told]

theorem runOptions_run (there : desk.tree.hasPath (Path.ofText options.specFile) = true) :
    (runOptions Desk.host options).run desk = (perform options).run desk := by
  have found : (Desk.host.hasPath (Path.ofText options.specFile)).run desk = (true, desk) := by
    rw [← there]
    rfl
  rw [runOptions, StateT.run_bind, found]
  rfl

theorem runOptions_lost (lost : desk.tree.hasPath (Path.ofText options.specFile) = false) :
    (runOptions Desk.host options).run desk =
      (.code 1, { desk with complaints := desk.complaints ++
        (Text.fixed "Error: specification file not found: " ++ options.specFile ++ ['\n']) }) := by
  have found : (Desk.host.hasPath (Path.ofText options.specFile)).run desk = (false, desk) := by
    rw [← lost]
    rfl
  rw [runOptions, StateT.run_bind, found]
  rfl

end

-- A module has been saved at a place, and nothing else has changed. It is what the text of the specification gives, and
-- what is printed before and after; the specification itself is elsewhere, and checking it succeeds.
structure Saved (options : Options) (desk after : Desk) (text module : Text) (place : Place) : Prop where
  given : desk.readFile options.specFile = some text
  rendered : renderText text (some options.specFile) = .ok module
  reached : after.tree.walk ((Path.ofText options.outputDir).child (outputName options.specFile)) = .ok place
  filled : after.tree.file? place = some module
  others : ∀ other, other ≠ place → after.tree.file? other = desk.tree.file? other
  apart : after.tree.walk (Path.ofText options.specFile) ≠ .ok place
  printed : ∀ now, now = desk ∨ now = after →
    (runOptions Desk.host { options with toStdout := true }).run now = (.code 0, now.printed module)
  checked : ∀ now, now = desk ∨ now = after →
    ((runOptions Desk.host { options with checkOnly := true }).run now).1 = .code 0

section
variable (desk : Desk) (options : Options)

theorem printing_run (text module : Text) (given : desk.readFile options.specFile = some text)
    (bundled : options.templateDir = none) (writes : options.checkOnly = false)
    (rendered : renderText text (some options.specFile) = .ok module) :
    (runOptions Desk.host { options with toStdout := true }).run desk = (.code 0, desk.printed module) := by
  rw [runOptions_run desk { options with toStdout := true } (path_of_readable desk text options.specFile given), perform,
    if_neg (by simp [writes]), if_pos rfl]
  exact conclude_ok desk printReport _ _ (print_prints desk _ text given bundled module rendered)

theorem checking_run (text module : Text) (given : desk.readFile options.specFile = some text)
    (rendered : renderText text (some options.specFile) = .ok module) :
    ((runOptions Desk.host { options with checkOnly := true }).run desk).1 = .code 0 := by
  obtain ⟨spec, table, read, prepared, _⟩ := rendered_through text _ module rendered
  have valid : spec.validate = .ok () := by
    cases checked : spec.validate with
    | ok value => rfl
    | error rejection =>
        rw [(refused_iff spec rejection).mpr checked] at prepared
        cases prepared
  have accepted := perform_accepts desk { options with checkOnly := true } text given rfl spec read valid
  rw [runOptions_run desk { options with checkOnly := true } (path_of_readable desk text options.specFile given), accepted]

theorem runOptions_saves (there : desk.tree.hasPath (Path.ofText options.specFile) = true)
    (writes : options.checkOnly = false) (saves : options.toStdout = false) :
    (runOptions Desk.host options).run desk =
      (conclude Desk.host saveReport (saveModule Desk.host options)).run desk := by
  rw [runOptions_run desk options there, perform, if_neg (by simp [writes]), if_neg (by simp [saves])]

theorem saving_run (lacks : LacksTemplate desk options) (writes : options.checkOnly = false)
    (saves : options.toStdout = false) (ended : ((runOptions Desk.host options).run desk).1 = .code 0) :
    ∃ text module place, Saved options desk ((runOptions Desk.host options).run desk).2 text module place := by
  cases there : desk.tree.hasPath (Path.ofText options.specFile) with
  | false =>
      rw [runOptions_lost desk options there] at ended
      cases ended
  | true =>
      rw [runOptions_saves desk options there writes saves] at ended ⊢
      obtain ⟨same, zero⟩ := conclude_ends desk saveReport (saveModule Desk.host options)
      have succeeded := zero.mp ended
      rcases ran : (saveModule Desk.host options).run.run desk with ⟨outcome, middle⟩
      rw [ran] at same succeeded
      obtain rfl : outcome = .ok () := succeeded
      obtain ⟨bundled, text, module, given, rendered, saved⟩ := saveModule_ok desk middle options lacks ran
      rw [← same] at saved
      generalize ((conclude Desk.host saveReport (saveModule Desk.host options)).run desk).2 = after at saved
      obtain ⟨place, written⟩ := Tree.save_writes desk.tree after.tree _ _ module saved
      have differs : ((Path.ofText options.outputDir).child (outputName options.specFile)).name ≠
          (Path.ofText options.specFile).name := by
        simpa [Path.child, Path.name] using output_name_ne options.specFile
      have found := read_of_readable desk text options.specFile given
      obtain ⟨still, apart⟩ := written.read_same (Path.ofText options.specFile) differs text found
      have readable : ∀ now, now = desk ∨ now = after → now.readFile options.specFile = some text := by
        rintro now (rfl | rfl)
        · exact given
        · exact (readFile_same desk now options.specFile (still.trans found.symm)).trans given
      exact ⟨text, module, place, given, rendered, written.reached, written.filled, written.others, apart,
        fun now either => printing_run now options text module (readable now either) bundled writes rendered,
        fun now either => checking_run now options text module (readable now either) rendered⟩

theorem runOptions_keeps (quiet : options.checkOnly = true ∨ options.toStdout = true) :
    ((runOptions Desk.host options).run desk).2.tree = desk.tree := by
  cases there : desk.tree.hasPath (Path.ofText options.specFile) with
  | false => rw [runOptions_lost desk options there]
  | true =>
      rw [runOptions_run desk options there, perform]
      by_cases checks : options.checkOnly = true
      · rw [if_pos checks]
        exact (conclude_ends desk checkReport _).1.trans (checkSpec_keeps options desk)
      · rw [if_neg checks, if_pos (quiet.resolve_left checks)]
        exact (conclude_ends desk printReport _).1.trans (printModule_keeps options desk)

theorem runOptions_spares (ended : ((runOptions Desk.host options).run desk).1 ≠ .code 0) :
    ((runOptions Desk.host options).run desk).2.tree.files = desk.tree.files := by
  by_cases quiet : options.checkOnly = true ∨ options.toStdout = true
  · rw [runOptions_keeps desk options quiet]
  · cases there : desk.tree.hasPath (Path.ofText options.specFile) with
    | false => rw [runOptions_lost desk options there]
    | true =>
        have writes : options.checkOnly = false := by simpa using fun checks => quiet (.inl checks)
        have saves : options.toStdout = false := by simpa using fun prints => quiet (.inr prints)
        rw [runOptions_saves desk options there writes saves] at ended ⊢
        obtain ⟨same, zero⟩ := conclude_ends desk saveReport (saveModule Desk.host options)
        rcases ran : (saveModule Desk.host options).run.run desk with ⟨outcome, middle⟩
        rw [ran] at same zero
        cases outcome with
        | ok value => exact absurd (zero.mpr rfl) ended
        | error trouble => rw [same, saveModule_spares options desk trouble middle ran]

end

-- A basin's file stands in a directory of its own.
def basinText : Text :=
  Text.fixed "<deterministic_state_machine name=\"Basin\"><context type=\"int\"/><states><state name=\"Empty\"/>" ++
    Text.fixed "</states></deterministic_state_machine>"

def basinDesk : Desk := { tree := { files := [(["specs", "basin.xml"], basinText)] } }

def Ending.isZero : Ending → Bool
  | .code 0 => true
  | _ => false

theorem Ending.eq_zero (ending : Ending) (zero : ending.isZero = true) : ending = .code 0 := by
  unfold Ending.isZero at zero
  split at zero
  · rfl
  · cases zero

end Statewright.Command
