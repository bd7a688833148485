import Statewright.Command.Generate
import Mathlib.Data.List.Basic

/-!
What saving a file does to a tree. Directories are only added, so a path that led somewhere still leads there, and every
file but the saved one stays as it was. The file that a module is saved in never has the name of its specification.
-/
set_option autoImplicit false

namespace Statewright.Command

namespace Tree

-- Every directory of the first tree is one of the second.
def Keeps (tree made : Tree) : Prop := ∀ place, tree.isDirectory place = true → made.isDirectory place = true

theorem Keeps.refl (tree : Tree) : tree.Keeps tree := fun _ held => held

theorem Keeps.trans {tree made after : Tree} (first : tree.Keeps made) (second : made.Keeps after) : tree.Keeps after :=
  fun place held => second place (first place held)

/-! Walking. -/

section
variable {tree made : Tree}

theorem walkFrom_cons (start place : Place) (part : Text) (rest : List Text) :
    tree.walkFrom start (part :: rest) = .ok place ↔
      tree.isDirectory start = true ∧ tree.walkFrom (enter start part) rest = .ok place := by
  by_cases inside : tree.isDirectory start = true
  · simp [walkFrom, inside]
  · by_cases file : (tree.file? start).isSome = true <;> simp [walkFrom, inside, file]

theorem walkFrom_kept (kept : tree.Keeps made) (parts : List Text) (start place : Place)
    (walked : tree.walkFrom start parts = .ok place) : made.walkFrom start parts = .ok place := by
  induction parts generalizing start with
  | nil => exact walked
  | cons part rest ih =>
      rw [walkFrom_cons] at walked ⊢
      exact ⟨kept start walked.1, ih _ walked.2⟩

theorem walk_kept (kept : tree.Keeps made) (path : Path) (place : Place) (walked : tree.walk path = .ok place) :
    made.walk path = .ok place :=
  walkFrom_kept kept path.parts _ place walked

theorem walkFrom_last (parts : List Text) (last : Text) (start place : Place)
    (walked : tree.walkFrom start (parts ++ [last]) = .ok place) :
    ∃ middle, tree.walkFrom start parts = .ok middle ∧ tree.isDirectory middle = true ∧ place = enter middle last := by
  induction parts generalizing start with
  | nil =>
      obtain ⟨inside, entered⟩ := (walkFrom_cons start place last []).mp walked
      exact ⟨start, rfl, inside, (Except.ok.inj entered).symm⟩
  | cons part rest ih =>
      obtain ⟨inside, further⟩ := (walkFrom_cons start place part (rest ++ [last])).mp walked
      obtain ⟨middle, through, between, ended⟩ := ih _ further
      exact ⟨middle, (walkFrom_cons start middle part rest).mpr ⟨inside, through⟩, between, ended⟩

-- The way to a place leads through directories.
def Passable (tree : Tree) (place : Place) : Prop :=
  ∀ above, above <+: place → above ≠ place → tree.isDirectory above = true

theorem passable_below (place : Place) (part : Text) (passable : tree.Passable place)
    (inside : tree.isDirectory place = true) : tree.Passable (place ++ [part]) := by
  intro above before other
  rcases List.prefix_concat_iff.mp before with same | higher
  · exact absurd same other
  · by_cases same : above = place
    · exact same ▸ inside
    · exact passable above higher same

theorem passable_above (place : Place) (passable : tree.Passable place) : tree.Passable place.dropLast := by
  intro above before other
  have shorter := before.length_le
  have higher : above <+: place := before.trans (List.dropLast_prefix place)
  apply passable above higher
  rintro rfl
  have empty : above.length = 0 := by
    rw [List.length_dropLast] at shorter
    omega
  exact other (by rw [List.length_eq_zero_iff.mp empty]; rfl)

theorem enter_passable (place : Place) (part : Text) (passable : tree.Passable place)
    (inside : tree.isDirectory place = true) : tree.Passable (enter place part) := by
  unfold enter
  split
  · exact passable_below place part passable inside
  · split
    · exact passable_below place part passable inside
    · exact passable_above place passable

theorem walkFrom_passable (parts : List Text) (start place : Place) (passable : tree.Passable start)
    (walked : tree.walkFrom start parts = .ok place) : tree.Passable place := by
  induction parts generalizing start with
  | nil =>
      obtain rfl : start = place := Except.ok.inj walked
      exact passable
  | cons part rest ih =>
      obtain ⟨inside, further⟩ := (walkFrom_cons start place part rest).mp walked
      exact ih _ (enter_passable start part passable inside) further

theorem directory_of_parents (place : Place) (parents : place.all (· == Path.parent) = true) :
    tree.isDirectory place = true := by
  simp [isDirectory, parents]

theorem start_passable (path : Path) : tree.Passable (if path.isAbsolute then [['/']] else []) := by
  have top : tree.isDirectory [] = true := directory_of_parents [] rfl
  have none_ : tree.Passable [] := fun above before other => absurd (List.prefix_nil.mp before) other
  by_cases absolute : path.isAbsolute = true
  · rw [if_pos absolute]
    exact passable_below [] ['/'] none_ top
  · rw [if_neg absolute]
    exact none_

theorem start_directory (path : Path) : tree.isDirectory (if path.isAbsolute then [['/']] else []) = true := by
  by_cases absolute : path.isAbsolute = true
  · simp [absolute, isDirectory]
  · simp [absolute, isDirectory]

-- What a path that ends in two dots leads to is a directory. So is where walking starts.
theorem walk_ends (path : Path) (place : Place) (walked : tree.walk path = .ok place)
    (plain : tree.isDirectory place = false) : ∃ above, place = above ++ [path.name] := by
  rcases List.eq_nil_or_concat path.parts with none_ | ⟨parts, last, split⟩
  · rw [walk, none_] at walked
    rw [← Except.ok.inj walked, start_directory path] at plain
    cases plain
  · rw [List.concat_eq_append] at split
    rw [walk, split] at walked
    obtain ⟨middle, through, inside, rfl⟩ := walkFrom_last parts last _ place walked
    have passable := walkFrom_passable parts _ middle (start_passable path) through
    have named : path.name = last := by simp [Path.name, split]
    by_cases up : last = Path.parent
    · subst up
      by_cases parents : middle.all (· == Path.parent) = true
      · have higher : (enter middle Path.parent).all (· == Path.parent) = true := by
          rw [enter, if_neg (by simp), if_pos parents, List.all_append, parents]
          rfl
        rw [directory_of_parents _ higher] at plain
        cases plain
      · have higher : enter middle Path.parent = middle.dropLast := by simp [enter, parents]
        have shorter : middle.dropLast ≠ middle := by
          intro same
          have lengths := congrArg List.length same
          cases middle with
          | nil => exact parents rfl
          | cons first rest => simp at lengths
        rw [higher, passable middle.dropLast (List.dropLast_prefix middle) shorter] at plain
        cases plain
    · exact ⟨middle, by rw [named, enter, if_pos (by simpa using up)]⟩

end

/-! Making directories. -/

theorem makeDirectory_ok (tree made : Tree) (path : Path) (done : tree.makeDirectory path = .ok made) :
    made.files = tree.files ∧ tree.Keeps made := by
  unfold makeDirectory at done
  cases walked : tree.walk path with
  | error obstacle =>
      rw [walked] at done
      cases done
  | ok place =>
      rw [walked] at done
      by_cases there : tree.isDirectory place = true
      · simp only [there, if_true, Except.ok.injEq] at done
        subst done
        exact ⟨rfl, Keeps.refl tree⟩
      · by_cases file : (tree.file? place).isSome = true
        · simp [there, file] at done
        · simp only [there, file, Bool.false_eq_true, if_false, Except.ok.injEq] at done
          subst done
          refine ⟨rfl, fun other held => ?_⟩
          simp only [isDirectory, Bool.or_eq_true, List.contains_eq_mem, List.mem_cons, decide_eq_true_eq] at held ⊢
          tauto

theorem makeDirectories_keep (isAbsolute : Bool) (tree : Tree) (reversed : List Text) :
    (makeDirectories isAbsolute tree reversed).2.files = tree.files ∧
      tree.Keeps (makeDirectories isAbsolute tree reversed).2 := by
  induction reversed with
  | nil => exact ⟨rfl, Keeps.refl tree⟩
  | cons part above ih =>
      cases made : tree.makeDirectory ⟨isAbsolute, (part :: above).reverse⟩ with
      | ok after => simpa only [makeDirectories, made] using makeDirectory_ok tree after _ made
      | error obstacle =>
          by_cases missing : obstacle = .missing
          · subst missing
            rcases higher : makeDirectories isAbsolute tree above with ⟨outcome, middle⟩
            rw [higher] at ih
            cases outcome with
            | error obstruction => simpa only [makeDirectories, made, higher] using ih
            | ok value =>
                cases last : middle.makeDirectory ⟨isAbsolute, (part :: above).reverse⟩ with
                | error obstacle => simpa only [makeDirectories, made, higher, last] using ih
                | ok after =>
                    obtain ⟨files, kept⟩ := makeDirectory_ok middle after _ last
                    simp only [makeDirectories, made, higher, last]
                    exact ⟨files.trans ih.1, ih.2.trans kept⟩
          · have unmade : makeDirectories isAbsolute tree (part :: above) =
                (.error ⟨obstacle, Path.text ⟨isAbsolute, (part :: above).reverse⟩⟩, tree) := by
              cases obstacle <;> simp_all [makeDirectories]
            rw [unmade]
            exact ⟨rfl, Keeps.refl tree⟩

/-! Writing and saving. -/

-- A tree in which a path now leads to a file with a text, where no directory was. All else is as it was.
structure Written (tree after : Tree) (path : Path) (text : Text) (place : Place) : Prop where
  reached : after.walk path = .ok place
  named : ∃ above, place = above ++ [path.name]
  plain : tree.isDirectory place = false
  filled : after.file? place = some text
  others : ∀ other, other ≠ place → after.file? other = tree.file? other
  kept : tree.Keeps after

theorem find_filter_ne (files : List (Place × Text)) (place other : Place) (apart : other ≠ place) :
    (files.filter (·.1 != place)).find? (·.1 == other) = files.find? (·.1 == other) := by
  rw [List.find?_filter]
  congr 1
  funext entry
  by_cases same : entry.1 = other
  · simp [same, apart]
  · simp [same]

theorem write_ok (tree after : Tree) (path : Path) (text : Text) (done : tree.write path text = .ok after) :
    ∃ place, tree.Written after path text place := by
  unfold write at done
  cases walked : tree.walk path with
  | error obstacle =>
      rw [walked] at done
      cases done
  | ok place =>
      rw [walked] at done
      by_cases there : tree.isDirectory place = true
      · simp [there] at done
      · simp only [there, Bool.false_eq_true, if_false] at done
        split at done
        · obtain rfl := Except.ok.inj done
          have kept : tree.Keeps { tree with files := (place, text) :: tree.files.filter (·.1 != place) } := by
            intro other held
            simp only [isDirectory, Bool.or_eq_true, List.any_eq_true, Bool.and_eq_true, bne_iff_ne, ne_eq,
              List.mem_cons, List.mem_filter] at held ⊢
            rcases held with held | ⟨file, member, above⟩
            · exact .inl held
            · by_cases same : file.1 = place
              · exact .inr ⟨(place, text), .inl rfl, same ▸ above⟩
              · exact .inr ⟨file, .inr ⟨member, same⟩, above⟩
          have plain : tree.isDirectory place = false := by simpa using there
          refine ⟨place, walk_kept kept path place walked, walk_ends path place walked plain, plain, by simp [file?], ?_,
            kept⟩
          intro other apart
          simp only [file?]
          rw [List.find?_cons_of_neg (by simpa using apart.symm), find_filter_ne tree.files place other apart]
        · cases done

theorem save_fails (tree : Tree) (directory : Path) (name text : Text) (obstruction : Obstruction)
    (failed : (tree.save directory name text).1 = .error obstruction) :
    (tree.save directory name text).2.files = tree.files := by
  have made := (makeDirectories_keep directory.isAbsolute tree directory.parts.reverse).1
  unfold save at failed ⊢
  cases outcome : makeDirectories directory.isAbsolute tree directory.parts.reverse with
  | mk result middle =>
      rw [outcome] at made
      cases result with
      | error stopped => exact made
      | ok value =>
          simp only [outcome] at failed ⊢
          cases written : middle.write (directory.child name) text with
          | ok after =>
              simp only [written] at failed
              cases failed
          | error obstacle => exact made

theorem save_writes (tree after : Tree) (directory : Path) (name text : Text)
    (saved : tree.save directory name text = (.ok (), after)) :
    ∃ place, tree.Written after (directory.child name) text place := by
  obtain ⟨files, kept⟩ := makeDirectories_keep directory.isAbsolute tree directory.parts.reverse
  unfold save at saved
  cases outcome : makeDirectories directory.isAbsolute tree directory.parts.reverse with
  | mk result middle =>
      rw [outcome] at files kept
      cases result with
      | error stopped =>
          simp only [outcome] at saved
          cases saved
      | ok value =>
          simp only [outcome] at saved
          cases written : middle.write (directory.child name) text with
          | error obstacle =>
              simp only [written] at saved
              cases saved
          | ok last =>
              simp only [written, Prod.mk.injEq, true_and] at saved
              subst saved
              obtain ⟨place, reached, named, plain, filled, others, grown⟩ := write_ok middle last _ text written
              have before : tree.isDirectory place = false := by
                by_contra there
                rw [kept place (by simpa using there)] at plain
                cases plain
              have same : ∀ other, middle.file? other = tree.file? other := fun other => by rw [file?, file?, files]
              exact ⟨place, reached, named, before, filled, fun other apart => (others other apart).trans (same other),
                kept.trans grown⟩

section
variable {tree after : Tree} {path : Path} {text : Text} {place : Place}

-- A path that ends in another name never led to the file that was written.
theorem Written.apart (written : tree.Written after path text place) (other : Path) (differs : path.name ≠ other.name) :
    tree.walk other ≠ .ok place := by
  intro walked
  obtain ⟨above, ended⟩ := written.named
  obtain ⟨below, same⟩ := walk_ends other place walked written.plain
  rw [same] at ended
  exact differs (List.append_inj_right' ended rfl |> List.singleton_inj.mp).symm

theorem Written.read_same (written : tree.Written after path text place) (other : Path)
    (differs : path.name ≠ other.name) (held : Text) (found : tree.read? other = some held) :
    after.read? other = some held ∧ after.walk other ≠ .ok place := by
  cases walked : tree.walk other with
  | error obstacle => simp [read?, walked] at found
  | ok reached =>
      have elsewhere : reached ≠ place := fun same => written.apart other differs (same ▸ walked)
      have still := walk_kept written.kept other reached walked
      rw [read?, walked] at found
      rw [read?, still]
      exact ⟨(written.others reached elsewhere).trans found, fun same => elsewhere (Except.ok.inj same)⟩

end

end Tree

/-! Names. -/

theorem stem_of_appended (stem : Text) : Path.stemOf (stem ++ Text.fixed "_sm.py") = stem ++ ['_', 's', 'm'] := by
  have ending : Text.fixed "_sm.py" = ['_', 's', 'm', '.', 'p', 'y'] := by decide
  simp [Path.stemOf, ending]

-- The ending of a module's file has a dot of its own, so the stem of the whole is longer than what it was added to.
theorem stem_appended_ne (name : Text) : Path.stemOf name ++ Text.fixed "_sm.py" ≠ name := by
  intro same
  have longer : Path.stemOf name = Path.stemOf name ++ ['_', 's', 'm'] := by
    conv_lhs => rw [← same]
    exact stem_of_appended _
  have lengths := congrArg List.length longer
  simp at lengths

theorem output_name_ne (specFile : Text) : outputName specFile ≠ (Path.ofText specFile).name :=
  stem_appended_ne (Path.ofText specFile).name

end Statewright.Command
