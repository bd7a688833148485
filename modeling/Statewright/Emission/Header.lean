import Statewright.Text.Lines

/-!
What stands at the top of a generated module: who made it from what, under which terms, and the hazards that its
callers should know.
-/
set_option autoImplicit false

namespace Statewright.Emission

def generator : Text := "machine-factory"

def label? : Option Text → Option Text
  | some [] => none
  | label => label

def generatorLine (source : Option Text) : Text :=
  match label? source with
  | some label => "Generated by " ++ generator ++ " from: " ++ label
  | none => "Generated by " ++ generator

def headerLines (source : Option Text) : List Text :=
  ["# SPDX-License-Identifier: MIT",
   "# SPDX-FileCopyrightText: [Author of input specification]",
   "#",
   "# " ++ generatorLine source,
   "# Do not edit by hand: change the specification and regenerate."]

def header (source : Option Text) : Text := Text.unlines (headerLines source) ++ ['\n']

def cancellation : Text :=
  "handle_event() runs its lifecycle hooks as separate steps. If a hook " ++
  "raises or an asynchronous dispatch is cancelled between steps, the " ++
  "context keeps the changes already made and nothing is rolled back. " ++
  "The machine then reports interrupted_step and refuses events until " ++
  "recover() is called."

def unknownHazard (name : Text) : Text := "Unknown hazard: " ++ name

def hazard? (name : Text) : Option Text := if name == "cancellation" then some cancellation else none

def fileName (path : Text) : Text :=
  (((Text.splitAt '/' path).filter fun part => !part.isEmpty && part != ['.']).getLast?).getD []

end Statewright.Emission
