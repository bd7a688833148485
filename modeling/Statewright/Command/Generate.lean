import Statewright.Command.Host
import Statewright.Command.Options
import Statewright.Command.Usage
import Statewright.Emission.Module

/-!
The two commands. `generate` checks a specification, prints its module or saves it; `describe` prints what a
specification says. A run ends with an exit code or lets a trouble escape that it does not report itself.
-/
set_option autoImplicit false

namespace Statewright.Command

inductive Trouble where
  | failure (failure : Failure)
  | unreadable (name : Text)
  | noTemplate (name directory : Text)
  | obstructed (obstruction : Obstruction)

namespace Trouble

-- Troubles with the specification itself have a message of their own.
def message? : Trouble → Option Text
  | failure (.shape misshape) => some misshape.message
  | failure (.rejected (.violation violation)) => some violation.message
  | failure (.invalidModule machine) => some (Failure.invalidModuleText machine)
  | _ => none

def fileMessage? : Trouble → Option Text
  | unreadable name => some ("Error reading file " ++ Text.quoted name ++ ": failed to load external entity \"" ++
      name ++ "\"")
  | noTemplate name directory =>
    some (Text.quoted name ++ " not found in search path: " ++ Text.quoted directory)
  | obstructed obstruction => some obstruction.message
  | failure _ => none

end Trouble

inductive Ending where
  | code (code : Nat)
  | escaped (trouble : Trouble)

section
variable {m : Type → Type} [Monad m]

abbrev Attempt (m : Type → Type) := ExceptT Trouble m

def Attempt.of {α : Type} (outcome : Except Trouble α) : Attempt m α := ExceptT.mk (pure outcome)

def readSpec (host : Host m) (name : Text) : Attempt m Spec := do
  match ← host.readFile name with
  | none => throw (.unreadable name)
  | some text => Attempt.of ((Spec.read text (some name)).mapError fun misshape => .failure (.shape misshape))

def prepare (spec : Spec) : Attempt m (Option Table) :=
  Attempt.of (spec.prepare.mapError fun rejection => .failure (.rejected rejection))

def templateName (spec : Spec) : Text :=
  match spec.kind with
  | .deterministic => "deterministic.py.jinja2"
  | .eventDriven => "event_driven.py.jinja2"

def unifyNewlines : Text → Text
  | '\r' :: '\n' :: rest => '\n' :: unifyNewlines rest
  | '\r' :: rest => '\n' :: unifyNewlines rest
  | c :: rest => c :: unifyNewlines rest
  | [] => []

def inDirectory (directory name : Text) : Text :=
  if directory.isEmpty then name
  else if directory.getLast? == some '/' then directory ++ name
  else directory ++ '/' :: name

def moduleText (host : Host m) (templateDir : Option Text) (spec : Spec) (table : Option Table) : Attempt m Text :=
  match templateDir with
  | none => Attempt.of ((spec.emit table).mapError .failure)
  | some directory => do
    let name := templateName spec
    match ← host.readFile (inDirectory directory name) with
    | none => throw (.noTemplate name directory)
    | some text => Attempt.of ((spec.checkModule (unifyNewlines text)).mapError .failure)

def printText (host : Host m) (text : Text) : Attempt m Unit := ExceptT.lift (host.print text)

def printLines (host : Host m) (lines : List Text) : Attempt m Unit := printText host (linesText lines)

def complainLine (host : Host m) (line : Text) : m Unit := host.complain (line ++ ['\n'])

def truthText (value : Bool) : Text := if value then "True" else "False"

def kindText : Kind → Text
  | .deterministic => "deterministic"
  | .eventDriven => "event_driven"

def specLines (spec : Spec) : List Text :=
  ["Generating code for: " ++ spec.name,
   "  Model: " ++ kindText spec.kind,
   "  States: " ++ Text.numeral spec.states.length]

def tableLines (spec : Spec) (table : Table) : List Text :=
  ["  Events: " ++ Text.numeral table.events.length,
   "  Table entries: " ++ Text.numeral table.entries.length ++ " (" ++
     Text.numeral table.explicitEntries.length ++ " explicit)",
   "  Catch-all: " ++ truthText table.hasCatchAll,
   "  Async: " ++ truthText spec.isAsync]

def outputName (specFile : Text) : Text := (Path.ofText specFile).stem ++ "_sm.py"

def saveModule (host : Host m) (options : Options) : Attempt m Unit := do
  let spec ← readSpec host options.specFile
  printLines host (specLines spec)
  let table ← prepare spec
  if let some table := table then printLines host (tableLines spec table)
  let text ← moduleText host options.templateDir spec table
  let directory := Path.ofText options.outputDir
  let name := outputName options.specFile
  match ← host.save directory name text with
  | .error obstruction => throw (.obstructed obstruction)
  | .ok () => printLines host ["  " ++ ['✓'] ++ " Generated: " ++ (directory.child name).text]

def printModule (host : Host m) (options : Options) : Attempt m Unit := do
  let spec ← readSpec host options.specFile
  let table ← prepare spec
  printText host (← moduleText host options.templateDir spec table)

def checkSpec (host : Host m) (options : Options) : Attempt m Unit := do
  let spec ← readSpec host options.specFile
  let _ ← prepare spec
  printLines host [['✓'] ++ " " ++ spec.name ++ ": specification is valid"]

def conclude (host : Host m) (report : Trouble → Option Text) (attempt : Attempt m Unit) : m Ending := do
  match ← attempt.run with
  | .ok () => return .code 0
  | .error trouble => match report trouble with
    | none => return .escaped trouble
    | some line => do
      complainLine host line
      return .code 1

def checkReport (trouble : Trouble) : Option Text := trouble.message?.map (("Error: " : Text) ++ ·)

def printReport (trouble : Trouble) : Option Text := trouble.message?.map (("Error generating code: " : Text) ++ ·)

def saveReport (trouble : Trouble) : Option Text :=
  (printReport trouble).or (trouble.fileMessage?.map (("Error writing generated code: " : Text) ++ ·))

def runOptions (host : Host m) (options : Options) : m Ending := do
  if !(← host.hasPath (Path.ofText options.specFile)) then
    complainLine host ("Error: specification file not found: " ++ options.specFile)
    return .code 1
  if options.checkOnly then conclude host checkReport (checkSpec host options)
  else if options.toStdout then conclude host printReport (printModule host options)
  else conclude host saveReport (saveModule host options)

def generate (host : Host m) (words : List Text) : m Ending :=
  match invocation words with
  | .help => do
    host.print help
    return .code 0
  | .misuse message => do
    host.complain (misuse message)
    return .code 2
  | .run options => runOptions host options

def descriptionLines (spec : Spec) : List Text :=
  let events : List Text :=
    if spec.isEventDriven then
      ["Events: " ++ Text.numeral spec.events.length, "Catch-all: " ++ truthText spec.catchAll?.isSome]
    else []
  let first : List Text :=
    ["Machine: " ++ spec.name ++ " (" ++ kindText spec.kind ++ ")",
     "Context: " ++ spec.context,
     "States: " ++ Text.numeral spec.states.length]
  let last : List Text :=
    ["Async: " ++ truthText spec.isAsync,
     "Source: " ++ Emission.fileName (spec.source.getD [])]
  first ++ events ++ last

def describe (host : Host m) : List Text → m Ending
  | [] => do
    host.print describerUsage
    return .code 1
  | name :: _ => conclude host (fun _ => none) do
    let spec ← readSpec host name
    printLines host (descriptionLines spec)

end

end Statewright.Command
