import Chip8.Document.Reading
import Chip8.Settings.Basic

/-!
Settings from documents. Keys that are missing keep their defaults and unknown keys do not matter. Whole
numbers may be written as text, decimal or, after `0x`, hexadecimal, and the names of choices in any
case.
-/

namespace Chip8

/-- The values of a mapping, by text key. -/
abbrev Entries := String → Option Value

/-- A mapping inside a document, by what is found in its place. -/
inductive Section where
  /-- There is nothing. -/
  | absent
  | mapping (entries : Entries)
  /-- There is something else. -/
  | other

/-- The section in the place of a value. -/
def Section.ofValue : Option Value → Section
  | none | some .null => absent
  | some (.mapping entries) => mapping fun name => Value.lookup? name entries
  | some _ => other

/-- The entries of a mapping of a document. -/
def Document.entries (document : Document) (entries : List (Value × Part)) : Entries :=
  fun name => (Document.lookup? name entries).map document.value

/-- The section in the place of a part. -/
def Section.ofPart (document : Document) : Option Part → Section
  | none | some (.leaf .null _) => absent
  | some part =>
      match document.entries? part with
      | some entries => mapping (document.entries entries)
      | none => other

namespace Settings

/-- A value as it is shown in a message, if its numbers can be shown. -/
def show? (value : Value) : Except SettingsError Text :=
  if value.showable then .ok value.shown else .error (.numeral .tooLargeToShow)

/-- An error that shows a number, if the number can be shown. -/
def refuse {α : Type} (number : Int) (cause : SettingsError) : Except SettingsError α :=
  if canShow number then .error cause else .error (.numeral .tooLargeToShow)

/-- Whether a text has the mark of a hexadecimal number at its front. -/
def hasHexMark (text : Text) : Bool :=
  match text.plain with
  | '0' :: letter :: _ => letter == 'x' || letter == 'X'
  | _ => false

/-- A whole number. Truth values and numbers with a point are none. -/
def wholeNumber (value : Value) : Except SettingsError Int := do
  match value with
  | .int number => return number
  | .text content =>
      (readInteger (if hasHexMark content then 16 else 10) content).mapError .numeral
  | value => throw (.notAnInteger (← show? value))

/-- A whole number or nothing. -/
def wholeNumber? (value : Value) : Except SettingsError (Option Int) :=
  match value with
  | .null => .ok none
  | value => (wholeNumber value).map some

/-- One of several choices by its name. -/
def choice {α : Type} (name : String) (choices : List String) (ofName? : String → Option α)
    (value : Value) : Except SettingsError α := do
  let shown ← show? value
  match ofName? shown.lowerCase.toString with
  | some chosen => return chosen
  | none => throw (.notAChoice name shown choices)

/-- The value of a key, or the given one. -/
def valueOf (entries : Entries) (name : String) (default : Value) : Value :=
  (entries name).getD default

/-- The entries of a section. A section that is absent has none. -/
def entriesOf (name : String) : Section → Except SettingsError Entries
  | .absent => .ok fun _ => none
  | .mapping entries => .ok entries
  | .other => .error (.sectionNotMapping name)

def readRun (entries : Entries) : Except SettingsError RunSettings := do
  let defaults : RunSettings := {}
  let number := fun name (default : Int) => wholeNumber (valueOf entries name (.int default))
  let cyclesPerSecond ← number "cycles_per_second" defaults.cyclesPerSecond
  let timerHz ← number "timer_hz" defaults.timerHz
  let faultPolicy ← choice "fault_policy" ["continue", "halt"] FaultPolicy.ofName?
    (valueOf entries "fault_policy" (.text defaults.faultPolicy.name))
  let maxCycles ← wholeNumber? (valueOf entries "max_cycles" .null)
  let maxConsecutiveFaults ← number "max_consecutive_faults" defaults.maxConsecutiveFaults
  return {
    cyclesPerSecond := cyclesPerSecond
    timerHz := timerHz
    faultPolicy := faultPolicy
    maxCycles := maxCycles
    maxConsecutiveFaults := maxConsecutiveFaults }

def readDisplay (entries : Entries) : Except SettingsError DisplaySettings := do
  let defaults : DisplaySettings := {}
  let lit ← show? (valueOf entries "on_char" (.text defaults.lit))
  let dark ← show? (valueOf entries "off_char" (.text defaults.dark))
  return {
    enabled := (valueOf entries "enabled" (.bool defaults.enabled)).truthy
    lit := lit
    dark := dark
    showRegisters := (valueOf entries "show_registers" (.bool defaults.showRegisters)).truthy }

/-- Refuses settings that are not sound, for the first reason in a fixed order. -/
def check (settings : Settings) : Except SettingsError Settings :=
  let run := settings.run
  if ¬ (0 ≤ settings.loadAddress ∧ settings.loadAddress < memorySize) then
    .error (.loadAddressOutside settings.loadAddress)
  else if settings.stackLimit ≤ 0 then
    refuse settings.stackLimit (.stackLimitNotPositive settings.stackLimit)
  else if run.cyclesPerSecond < 0 then
    refuse run.cyclesPerSecond (.cycleRateNegative run.cyclesPerSecond)
  else if run.timerHz < 0 then refuse run.timerHz (.timerRateNegative run.timerHz)
  else if settings.display.lit.length ≠ 1 ∨ settings.display.dark.length ≠ 1 then
    .error .pixelTextNotSingle
  else .ok settings

/-- The settings in the entries of a mapping and in its sections. -/
def ofEntries (entries : Entries) (part : String → Section) : Except SettingsError Settings := do
  let defaults : Settings := {}
  let number := fun name (default : Int) => wholeNumber (valueOf entries name (.int default))
  let run ← readRun (← entriesOf "runner" (part "runner"))
  let display ← readDisplay (← entriesOf "display" (part "display"))
  let loadAddress ← number "load_address" defaults.loadAddress
  let stackLimit ← number "stack_limit" defaults.stackLimit
  let drawPolicy ← choice "draw_policy" ["wrap", "clip"] DrawPolicy.ofName?
    (valueOf entries "draw_policy" (.text defaults.drawPolicy.name))
  let randomSeed ← wholeNumber? (valueOf entries "random_seed" .null)
  check {
    program := valueOf entries "program" .null
    loadAddress := loadAddress
    stackLimit := stackLimit
    drawPolicy := drawPolicy
    randomSeed := randomSeed
    run := run
    display := display }

/-- The settings that a value has, which has to be a mapping. -/
def ofValue : Value → Except SettingsError Settings
  | .mapping entries =>
      let found : Entries := fun name => Value.lookup? name entries
      ofEntries found fun name => .ofValue (found name)
  | _ => .error .rootNotMapping

/-- The settings that a document has. A document of nothing has the defaults. -/
def ofDocument (document : Document) : Except SettingsError Settings :=
  match Section.ofPart document (some document.root) with
  | .absent => ofValue (.mapping [])
  | .other => .error .rootNotMapping
  | .mapping entries =>
      let found := (document.entries? document.root).getD []
      ofEntries entries fun name => .ofPart document (Document.lookup? name found)

/-- The settings of a source, by a reader of documents. A source without a document has the defaults. -/
def ofSource (reader : DocumentReader) (source : Source) : Except SettingsError Settings := do
  match ← (reader source).mapError SettingsError.document with
  | some document => ofDocument document
  | none => ofValue (.mapping [])

/-- The settings that a text has. -/
def ofText (text : Text) : Except SettingsError Settings := ofSource readDocument (.ofText text)

end Settings

end Chip8
