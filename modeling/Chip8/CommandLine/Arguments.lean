import Chip8.Settings.Basic

/-!
The arguments of the command line: at most one program and a number of options. An option may be
shortened as long as it is clear which one is meant, and its value follows it or stands after an equals
sign. After two dashes everything is an argument. Two dashes as a value leave an option blank.
-/

namespace Chip8

inductive CommandOption where
  | help
  | config
  | hz
  | maxCycles
  | haltOnFault
  | seed
  | clip
  | noDisplay
  | showRegisters
  | debug
  deriving DecidableEq, Repr

namespace CommandOption

/-- Every way to write an option in full. -/
def spellings : List (String × CommandOption) :=
  [("-h", help), ("--help", help), ("--config", config), ("--hz", hz), ("--max-cycles", maxCycles),
    ("--halt-on-fault", haltOnFault), ("--seed", seed), ("--clip", clip), ("--no-display", noDisplay),
    ("--show-registers", showRegisters), ("--debug", debug)]

def takesValue : CommandOption → Bool
  | config | hz | maxCycles | seed => true
  | _ => false

/-- An option in a message, with all its spellings. -/
def name (option : CommandOption) : String :=
  String.intercalate "/" ((spellings.filter fun spelling => spelling.2 = option).map (·.1))

end CommandOption

/-- Why arguments are not accepted. -/
inductive UsageError where
  /-- A shortened option with the options that it may stand for. -/
  | ambiguous (written : Text) (candidates : List String)
  | valueMissing (option : CommandOption)
  | notAnInteger (option : CommandOption) (text : Text)
  | valueUnused (option : CommandOption) (text : Text)
  | unrecognized (texts : List Text)
  | programMissing
  deriving DecidableEq, Repr

def UsageError.message : UsageError → Text
  | ambiguous written candidates =>
      Text.ofString "ambiguous option: " ++ written ++ Text.ofString " could match " ++
        Text.ofString (String.intercalate ", " candidates)
  | valueMissing option => s!"argument {option.name}: expected one argument"
  | notAnInteger option text => s!"argument {option.name}: invalid int value: {quoted text}"
  | valueUnused option text => s!"argument {option.name}: ignored explicit argument {quoted text}"
  | unrecognized texts => Text.ofString "unrecognized arguments: " ++ Text.joined " " texts
  | programMissing => "no program given (pass a ROM path or set 'program' in the config)"

/-- Whether a code point ends a line of a message. -/
def endsMessageLine (letter : Letter) : Bool :=
  (0x0A ≤ letter.code && letter.code ≤ 0x0D) || (0x1C ≤ letter.code && letter.code ≤ 0x1E) ||
    [0x85, 0x2028, 0x2029].contains letter.code

/-- The line that tells of a usage error. What the message has after a line end is not part of it. -/
def UsageError.line (error : UsageError) : Text :=
  Text.ofString "retro-chip8: error: " ++ error.message.takeWhile fun letter => !endsMessageLine letter

structure Arguments where
  program : Option Text := none
  configFile : Option Text := none
  hz : Option Int := none
  maxCycles : Option Int := none
  haltOnFault : Bool := false
  seed : Option Int := none
  clip : Bool := false
  noDisplay : Bool := false
  showRegisters : Bool := false
  debug : Bool := false
  /-- Options that were left blank. They are given, but have no value. -/
  blank : List CommandOption := []
  deriving DecidableEq, Repr

/-! ## Words -/

/-- What one word of the command line is. -/
inductive CommandWord where
  | argument (text : Text)
  /-- An option, and the value that is written together with it. -/
  | option (option : CommandOption) (value : Option Text)
  /-- The short form of help with letters right behind it. -/
  | bundle (letters : Text)
  /-- A word in the form of an option that does not exist. -/
  | unknown (text : Text)
  /-- The two dashes after which everything is an argument. -/
  | separator
  deriving DecidableEq, Repr

def dash : Letter := .char '-'

/-- The two dashes. -/
def dashes : Text := [dash, dash]

/-- Cuts a word at its first equals sign. -/
def cutAtEquals (word : Text) : Text × Option Text :=
  match word.dropWhile (· != .char '=') with
  | _ :: value => (word.takeWhile (· != .char '='), some value)
  | [] => (word, none)

/-- The spellings that a shortened option may stand for. -/
def candidates (written : Text) : List (String × CommandOption) :=
  CommandOption.spellings.filter fun spelling => written.isPrefixOf (Text.ofString spelling.1)

/-- Decimal digits of any script, possibly none, at the front of a text. -/
def decimalPart (text : List Char) : List Char × List Char :=
  text.span fun character => (decimalDigit? character).isSome

/-- Whether a word is a negative number, which is an argument and no option. -/
def isNegativeNumber (word : Text) : Bool :=
  let ends := fun (rest : List Char) => rest.isEmpty || rest == ['\n']
  match word.plain with
  | '-' :: rest =>
      match decimalPart rest with
      | (_, '.' :: fraction) =>
          let (digits, rest) := decimalPart fraction
          !digits.isEmpty && ends rest
      | (whole, rest) => !whole.isEmpty && ends rest
  | _ => false

/-- What a word with a dash at its front is that is no option in full. Only options with two dashes can
be shortened. -/
def CommandWord.ofShortened (word : Text) : Except UsageError CommandWord :=
  if word.take 2 = [dash, .char 'h'] then .ok (.bundle (word.drop 2))
  else
    let (written, value) := cutAtEquals word
    match if word.take 2 = dashes then candidates written else [] with
    | [] =>
        if isNegativeNumber word || word.contains (.char ' ') then .ok (.argument word)
        else .ok (.unknown word)
    | [(_, meant)] => .ok (.option meant value)
    | several => .error (.ambiguous word (several.map (·.1)))

/-- What a word before the separator is. An equals sign after the short form of help does not keep what
follows from being letters, if there are any. -/
def CommandWord.ofText (word : Text) : Except UsageError CommandWord :=
  match word with
  | .char '-' :: _ :: _ =>
      let (written, value) := cutAtEquals word
      if written = [dash, .char 'h'] ∧ value.any fun letters => !letters.isEmpty then
        .ok (.bundle (value.getD []))
      else
        let spelled := CommandOption.spellings.find? fun spelling =>
          Text.ofString spelling.1 = written
        match spelled with
        | some (_, meant) => .ok (.option meant value)
        | none => ofShortened word
  | _ => .ok (.argument word)

/-- The words of a command line. -/
def CommandWord.ofTexts : List Text → Except UsageError (List CommandWord)
  | [] => .ok []
  | text :: rest =>
      if text = dashes then .ok (.separator :: rest.map .argument)
      else do
        let word ← ofText text
        return word :: (← ofTexts rest)

/-! ## Arguments -/

/-- Arguments that are still being collected. -/
structure ArgumentDraft where
  arguments : Arguments := {}
  /-- Whether the program has been given. -/
  programKnown : Bool := false
  /-- Words that have no use, oldest first. -/
  extras : Array Text := #[]
  deriving DecidableEq, Repr

/-- What a command line asks for. -/
inductive Request where
  | help
  | start (arguments : Arguments)
  deriving DecidableEq, Repr

namespace ArgumentDraft

def integer (option : CommandOption) (text : Text) : Except UsageError Int :=
  match readInteger 10 text with
  | .ok number => .ok number
  | .error _ => .error (.notAnInteger option text)

/-- Sets an option to a value. -/
def setValue (draft : ArgumentDraft) (option : CommandOption) (text : Text) :
    Except UsageError ArgumentDraft := do
  let arguments := { draft.arguments with blank := draft.arguments.blank.erase option }
  let changed ← match option with
    | .config => pure { arguments with configFile := some text }
    | .hz => do pure { arguments with hz := some (← integer option text) }
    | .maxCycles => do pure { arguments with maxCycles := some (← integer option text) }
    | .seed => do pure { arguments with seed := some (← integer option text) }
    | _ => pure arguments
  return { draft with arguments := changed }

/-- Leaves an option blank. A value that it had before does not count any more. -/
def setBlank (draft : ArgumentDraft) (option : CommandOption) : ArgumentDraft :=
  let arguments := { draft.arguments with blank := draft.arguments.blank.insert option }
  { draft with arguments := match option with
    | .config => { arguments with configFile := none }
    | .hz => { arguments with hz := none }
    | .maxCycles => { arguments with maxCycles := none }
    | .seed => { arguments with seed := none }
    | _ => arguments }

/-- Sets an option that has no value. -/
def setFlag (draft : ArgumentDraft) (option : CommandOption) : ArgumentDraft :=
  let arguments := draft.arguments
  { draft with arguments := match option with
    | .haltOnFault => { arguments with haltOnFault := true }
    | .clip => { arguments with clip := true }
    | .noDisplay => { arguments with noDisplay := true }
    | .showRegisters => { arguments with showRegisters := true }
    | .debug => { arguments with debug := true }
    | _ => arguments }

def setProgram (draft : ArgumentDraft) (text : Text) : ArgumentDraft :=
  { draft with arguments := { draft.arguments with program := some text }, programKnown := true }

def addExtra (draft : ArgumentDraft) (text : Text) : ArgumentDraft :=
  { draft with extras := draft.extras.push text }

/-- The arguments, if every word had a use. -/
def finish (draft : ArgumentDraft) : Except UsageError Request :=
  if draft.extras.isEmpty then .ok (.start draft.arguments)
  else .error (.unrecognized draft.extras.toList)

/-- Help in its short form with letters right behind it. They may ask for help again and nothing else.
What comes after the letters that do is refused. -/
def bundled (letters : Text) : Except UsageError Request :=
  match letters.dropWhile (· == .char 'h') with
  | [] => .ok .help
  | rest => .error (.valueUnused .help rest)

/-- Goes through the words in order. The first argument is the program. A separator belongs to the
argument before it or after it, if that is the program, and is a word without use otherwise. -/
def collect (draft : ArgumentDraft) : List CommandWord → Except UsageError Request
  | [] => draft.finish
  | .argument text :: rest =>
      if draft.programKnown then collect (draft.addExtra text) rest
      else
        match rest with
        | .separator :: rest => collect (draft.setProgram text) rest
        | rest => collect (draft.setProgram text) rest
  | .separator :: rest =>
      if draft.programKnown then collect (draft.addExtra dashes) rest
      else
        match rest with
        | .argument text :: rest => collect (draft.setProgram text) rest
        | rest => collect draft rest
  | .unknown text :: rest => collect (draft.addExtra text) rest
  | .bundle letters :: _ => bundled letters
  | .option option value :: rest =>
      if option.takesValue then
        match value, rest with
        | some text, rest => do
            if text = dashes then collect (draft.setBlank option) rest
            else collect (← draft.setValue option text) rest
        | none, .argument text :: rest => do collect (← draft.setValue option text) rest
        | none, _ => .error (.valueMissing option)
      else
        match value with
        | some text => .error (.valueUnused option text)
        | none => if option = .help then .ok .help else collect (draft.setFlag option) rest

end ArgumentDraft

/-- What the words of a command line ask for. -/
def Request.ofTexts (texts : List Text) : Except UsageError Request := do
  ArgumentDraft.collect {} (← CommandWord.ofTexts texts)

/-- Settings with the arguments put over them. An empty program counts as none. -/
def Arguments.apply (arguments : Arguments) (settings : Settings) : Settings :=
  { settings with
    program := match arguments.program with
      | none | some [] => settings.program
      | some path => .text path
    drawPolicy := if arguments.clip then .clip else settings.drawPolicy
    randomSeed := arguments.seed.orElse fun _ => settings.randomSeed
    run := { settings.run with
      cyclesPerSecond := arguments.hz.getD settings.run.cyclesPerSecond
      maxCycles := arguments.maxCycles.orElse fun _ => settings.run.maxCycles
      faultPolicy := if arguments.haltOnFault then .halt else settings.run.faultPolicy }
    display := { settings.display with
      enabled := settings.display.enabled && !arguments.noDisplay
      showRegisters := settings.display.showRegisters || arguments.showRegisters } }

end Chip8
