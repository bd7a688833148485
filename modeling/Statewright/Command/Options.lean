import Statewright.Text.Quoted

/-!
Command lines. An option may be shortened as long as one option alone begins that way, and its value may follow it
directly, after an equals sign, or as the next word. A double dash ends the options.
-/
set_option autoImplicit false

namespace Statewright.Command

structure Options where
  specFile : Text
  outputDir : Text := "."
  templateDir : Option Text := none
  toStdout : Bool := false
  checkOnly : Bool := false
deriving DecidableEq

inductive Invocation where
  | run (options : Options)
  | help
  | misuse (message : Text)
deriving DecidableEq

inductive Flag where
  | help
  | outputDir
  | templateDir
  | toStdout
  | checkOnly
deriving DecidableEq

namespace Flag

def spellings : List (Text × Flag) :=
  [("-h", help), ("--help", help), ("-o", outputDir), ("--output-dir", outputDir), ("-t", templateDir),
   ("--template-dir", templateDir), ("--stdout", toStdout), ("--check", checkOnly)]

def takesValue : Flag → Bool
  | outputDir => true
  | templateDir => true
  | _ => false

def title (flag : Flag) : Text := Text.join "/" ((spellings.filter (·.2 == flag)).map (·.1))

def ofSpelling? (word : Text) : Option Flag := (spellings.find? (·.1 == word)).map (·.2)

end Flag

-- What a word holds after the spelling of its option: nothing, text that follows directly, or text after an equals
-- sign.
inductive Attached where
  | nothing
  | directly (text : Text)
  | afterEquals (text : Text)

inductive Word where
  | value (text : Text)
  | option (flag : Flag) (attached : Attached)
  | unknown (text : Text)
  | divider

namespace Word

def isShort (word : Text) : Bool := word[1]? != some '-'

def split (word : Text) : Text × Attached :=
  match word.dropWhile (· != '=') with
  | [] => (word, .nothing)
  | _ :: rest => (word.takeWhile (· != '='), .afterEquals rest)

def candidates (word : Text) : List (Text × Flag × Attached) :=
  if isShort word then
    Flag.spellings.filterMap fun (spelling, flag) =>
      if spelling == word.take 2 then some (spelling, flag, .directly (word.drop 2))
      else if Text.beginsWith word spelling then some (spelling, flag, .nothing)
      else none
  else
    let (start, attached) := split word
    (Flag.spellings.filter fun entry => Text.beginsWith start entry.1).map fun (spelling, flag) =>
      (spelling, flag, attached)

def looksNegative (word : Text) : Bool :=
  match word with
  | '-' :: number =>
    let whole := number.takeWhile Char.isDigit
    match number.drop whole.length with
    | [] => !whole.isEmpty
    | '.' :: fraction => !fraction.isEmpty && fraction.all Char.isDigit
    | _ => false
  | _ => false

def ambiguous (word : Text) (spellings : List Text) : Text :=
  "ambiguous option: " ++ word ++ " could match " ++ Text.join ", " spellings

-- A word that no option is spelled like, read as a shortened one if it can be.
def ofShortened (word : Text) : Except Text Word :=
  match candidates word with
  | [(_, flag, attached)] => .ok (.option flag attached)
  | [] => .ok (if looksNegative word || word.contains ' ' then .value word else .unknown word)
  | several => .error (ambiguous word (several.map (·.1)))

def ofText (word : Text) : Except Text Word :=
  if word.head? != some '-' || word.length == 1 then .ok (.value word)
  else match Flag.ofSpelling? word with
    | some flag => .ok (.option flag .nothing)
    | none =>
      let (start, attached) := split word
      match Flag.ofSpelling? start, attached with
      | some flag, .afterEquals _ => .ok (.option flag attached)
      | _, _ => ofShortened word

def ofTexts : List Text → Except Text (List Word)
  | [] => .ok []
  | word :: rest =>
    if word == ['-', '-'] then .ok (divider :: rest.map value)
    else do
      let first ← ofText word
      return first :: (← ofTexts rest)

end Word

-- What has been read of a command line. A divider next to the file is part of its place.
structure Reading where
  specFile : Option Text := none
  afterFile : Bool := false
  options : Options := { specFile := [] }
  extras : List Text := []

namespace Reading

def set (reading : Reading) (flag : Flag) (value : Text) : Reading :=
  let options := reading.options
  { reading with
    afterFile := false
    options := match flag with
      | .outputDir => { options with outputDir := value }
      | .templateDir => { options with templateDir := some value }
      | .toStdout => { options with toStdout := true }
      | .checkOnly => { options with checkOnly := true }
      | .help => options }

def extra (reading : Reading) (word : Text) : Reading := { reading with extras := reading.extras ++ [word] }

def finish (reading : Reading) : Invocation :=
  match reading.specFile with
  | none => .misuse "the following arguments are required: spec_file"
  | some specFile =>
    if reading.extras.isEmpty then .run { reading.options with specFile }
    else .misuse ("unrecognized arguments: " ++ Text.join " " reading.extras)

def about (flag : Flag) (complaint : Text) : Text := "argument " ++ flag.title ++ ": " ++ complaint

def ignored (flag : Flag) (value : Text) : Invocation :=
  .misuse (about flag ("ignored explicit argument " ++ Text.quoted value))

def lacking (flag : Flag) : Invocation := .misuse (about flag "expected one argument")

-- Letters that directly follow the short help option are options too. Help is given if they fit as far as they are
-- known.
def cluster (flag : Flag) (next : Option Word) : Text → Invocation
  | [] => .help
  | letter :: rest =>
    if letter = '-' then ignored flag (letter :: rest)
    else match Flag.ofSpelling? ['-', letter] with
      | none => .help
      | some other =>
        if other.takesValue then
          match rest, next with
          | _ :: _, _ => .help
          | [], some (.value _) => .help
          | [], _ => lacking other
        else match rest with
          | '=' :: value => ignored other value
          | rest => cluster other next rest

def take (reading : Reading) (text : Text) : Reading :=
  match reading.specFile with
  | none => { reading with specFile := some text, afterFile := true }
  | some _ => { reading.extra text with afterFile := false }

def divide (reading : Reading) (isLast : Bool) : Reading :=
  if reading.afterFile || (reading.specFile.isNone && !isLast) then { reading with afterFile := false }
  else reading.extra ['-', '-']

def go (reading : Reading) : List Word → Invocation
  | [] => reading.finish
  | .value text :: rest => go (reading.take text) rest
  | .divider :: rest => go (reading.divide rest.isEmpty) rest
  | .unknown text :: rest => go { reading.extra text with afterFile := false } rest
  | .option flag (.afterEquals value) :: rest =>
    if flag.takesValue then go (reading.set flag value) rest else ignored flag value
  | .option flag (.directly value) :: rest =>
    if flag.takesValue then go (reading.set flag value) rest else cluster flag rest.head? value
  | .option flag .nothing :: rest =>
    if flag.takesValue then
      match rest with
      | .value text :: rest => go (reading.set flag text) rest
      | _ => lacking flag
    else if flag = .help then .help
    else go (reading.set flag []) rest

end Reading

def invocation (words : List Text) : Invocation :=
  match Word.ofTexts words with
  | .error message => .misuse message
  | .ok words => ({} : Reading).go words

end Statewright.Command
