import Chip8.Assembly
import Chip8.CommandLine.Arguments
import Chip8.Screen
import Chip8.Settings.Reading

/-!
A whole session from the command line: settings are read and put together, the system is assembled, and
its run is shown. Reading files and documents is left to the caller.
-/

namespace Chip8

/-- Why a session was not begun, other than for the form of its arguments, or did not come to its end. -/
inductive LaunchError where
  | file (cause : FileError)
  | settings (cause : SettingsError)
  /-- The rate of cycles was left blank. -/
  | rateBlank
  /-- The rate of cycles given as an argument is negative. -/
  | rateNegative
  /-- The seed was left blank. -/
  | seedBlank
  | assembly (cause : AssemblyError)
  /-- The rate of cycles is beyond all floating point numbers. -/
  | rateTooLarge
  /-- The limit on cycles was left blank. -/
  | limitBlank
  | problem (cause : Problem)
  deriving DecidableEq, Repr

def LaunchError.message : LaunchError → Text
  | file cause => cause.message
  | settings cause => cause.message
  | rateBlank => "'<' not supported between instances of 'list' and 'int'"
  | rateNegative => "--hz must not be negative"
  | seedBlank => "The only supported seed types are: None,\nint, float, str, bytes, and bytearray."
  | assembly cause => cause.message
  | rateTooLarge => "int too large to convert to float"
  | limitBlank => "'>=' not supported between instances of 'int' and 'list'"
  | problem cause => cause.message

/-- Whether an error is reported to the user. One that is not foreseen ends the program: a value that
cannot name a file, an option that was left blank, a rate that cannot be kept, and what is not foreseen
in documents. -/
def LaunchError.reported : LaunchError → Bool
  | settings cause => cause.foreseen
  | assembly (.file (.notAPath _)) => false
  | file _ | rateNegative | assembly _ => true
  | rateBlank | seedBlank | rateTooLarge | limitBlank | problem _ => false

/-- The error that a run ends with. A run that is broken off has none. -/
def LaunchError.ofEscape? : Escape → Option LaunchError
  | .interrupted => none
  | .rateTooLarge => some rateTooLarge
  | .problem cause => some (problem cause)

/-- What a session takes from its surroundings. -/
structure Surroundings (m : Type → Type) where
  read : FileReader m
  readDocument : DocumentReader := Chip8.readDocument
  /-- Whether the log passes on that it cannot show an entry. -/
  strict : Bool := false

/-- The settings of a file, if there is one. -/
def Settings.ofFile {m : Type → Type} [Monad m] (read : FileReader m) (path : Text)
    (reader : DocumentReader := readDocument) : m (Except LaunchError Settings) := do
  match Path.ofText path with
  | .error cause => return .error (.file cause)
  | .ok path =>
      match ← read path with
      | .ok bytes => return (Settings.ofSource reader (.ofBytes bytes)).mapError .settings
      | .error cause => return .error (.file cause)

/-- A system that is ready to run. -/
structure Prepared where
  settings : Settings
  machine : Machine
  log : List LogEntry

/-- What comes of the arguments before anything runs. -/
inductive Preparation where
  | usage (cause : UsageError)
  | failed (cause : LaunchError) (log : List LogEntry)
  | ready (system : Prepared)

/-- The settings of a session, from its file and its arguments. -/
def Arguments.settings {m : Type → Type} [Monad m] (around : Surroundings m) (arguments : Arguments) :
    m (Except LaunchError Settings) := do
  let fromFile ← match arguments.configFile with
    | none | some [] => pure (.ok {})
    | some path => Settings.ofFile around.read path around.readDocument
  return fromFile.map arguments.apply

/-- Whether an option was left blank. -/
def Arguments.isBlank (arguments : Arguments) (option : CommandOption) : Bool :=
  arguments.blank.contains option

/-- A system that was put together, if it can be run. That the limit on cycles was left blank shows when the
run has been begun. -/
def Arguments.release (arguments : Arguments) (settings : Settings) (assembly : Assembly) :
    Preparation :=
  match assembly.machine with
  | .error cause => .failed (.assembly cause) assembly.log
  | .ok machine =>
      if !settings.run.hasPeriod then .failed .rateTooLarge assembly.log
      else if arguments.isBlank .maxCycles then
        let begun := Run.start { machine := machine, settings := settings.run }
        .failed .limitBlank (assembly.log ++ begun.log.toList)
      else .ready { settings := settings, machine := machine, log := assembly.log }

/-- Prepares a session. -/
def Arguments.prepare {m : Type → Type} [Monad m] (around : Surroundings m) (seed : Int)
    (arguments : Arguments) : m Preparation := do
  match ← arguments.settings around with
  | .error cause => return .failed cause []
  | .ok settings =>
      if arguments.isBlank .hz then return .failed .rateBlank []
      else if settings.run.cyclesPerSecond < 0 then return .failed .rateNegative []
      else if !settings.program.truthy then return .usage .programMissing
      else if arguments.isBlank .seed then return .failed .seedBlank []
      else
        let strict := around.strict && arguments.debug
        return arguments.release settings (← settings.assemble around.read seed strict)

/-- What is logged of an error. -/
def LaunchError.entry (cause : LaunchError) : LogEntry where
  level := .error
  source := .commandLine
  text := cause.message

/-- Whether an entry is shown. Debugging entries are shown on request only. -/
def LogEntry.shown (debug : Bool) (entry : LogEntry) : Bool := debug || entry.level != .debug

/-! ## The run -/

/-- The screen that a run is shown on. -/
structure Canvas where
  painter : Painter
  /-- The text written so far, by frames, newest first. -/
  frames : List Text := []
  deriving DecidableEq

/-- The text on a canvas, oldest frame first. -/
def Canvas.text (canvas : Canvas) : Text := canvas.frames.reverse.flatten

/-- A blank canvas for a display. -/
def DisplaySettings.canvas (display : DisplaySettings) : Canvas where
  painter := { brush := { lit := display.lit, dark := display.dark } }

/-- The registers that are listed below each frame. -/
def DisplaySettings.listing (display : DisplaySettings) (machine : Machine) :
    Option (List (String × Int)) :=
  if display.showRegisters then some machine.state.registerMap else none

/-- Draws every cycle on a canvas. The run is broken off when as many frames as given have been
written. -/
def DisplaySettings.viewer (display : DisplaySettings) (breakAfter : Option Nat) : Viewer Canvas :=
  fun machine snapshot canvas =>
    if !display.enabled then (.proceed, canvas)
    else
      match Painter.paint snapshot.display.bytes (display.listing machine) canvas.painter with
      | .ok (some text) painter =>
          let after := { canvas with painter := painter, frames := text :: canvas.frames }
          (if breakAfter = some after.frames.length then .interrupt else .proceed, after)
      | .ok none painter | .error _ painter => (.proceed, { canvas with painter := painter })

/-- A clock on which time passes only while something waits. -/
def idleClock : Clock Float where
  now time := (time, time)
  sleep seconds time := time + seconds

/-- What is logged when a run is broken off. -/
def Session.interruption (session : Session) : LogEntry where
  level := .info
  source := .commandLine
  text := s!"Interrupted after {session.cycles} cycles"

/-- The exit status of a session. -/
def Session.exitStatus (session : Session) : Nat := if session.haltedOnFault then 1 else 0

/-- What a call of the program leaves behind. -/
structure Conclusion where
  exitStatus : Nat
  usage : Option UsageError := none
  output : Text := []
  log : List LogEntry := []
  /-- The error that ended the program, if it was not reported. -/
  crash : Option LaunchError := none
  deriving DecidableEq

/-- What a run leaves behind that came to its end. -/
def Prepared.conclusion (system : Prepared) (after : Run Float Canvas) : Conclusion where
  exitStatus := after.session.exitStatus
  output := after.viewer.text
  log := system.log ++ after.session.log.toList

/-- Runs a prepared session to its end, or until it is broken off. The fuel bounds the number of
cycles. -/
def Prepared.conclude (system : Prepared) (breakAfter : Option Nat) (fuel : Nat) : Conclusion :=
  let display := system.settings.display
  let start : Run Float Canvas := {
    session := { machine := system.machine, settings := system.settings.run }
    clock := 0.0
    viewer := display.canvas }
  match Run.run idleClock (display.viewer breakAfter) fuel start with
  | .ok _ after => system.conclusion after
  | .error escape after =>
      let left := system.conclusion after
      match LaunchError.ofEscape? escape with
      | none => { left with log := left.log ++ [after.session.interruption] }
      | some cause => { left with exitStatus := 1, crash := some cause }

/-- What a preparation leaves behind, with the run if there is one. -/
def Preparation.conclude (breakAfter : Option Nat) (fuel : Nat) : Preparation → Conclusion
  | usage cause => { exitStatus := 2, usage := some cause }
  | failed cause log =>
      if cause.reported then { exitStatus := 2, log := log ++ [cause.entry] }
      else { exitStatus := 1, log := log, crash := some cause }
  | ready system => system.conclude breakAfter fuel

/-- A whole call of the program. The log holds the entries that are shown. -/
def Surroundings.call (around : Surroundings Id) (texts : List Text) (seed : Int)
    (breakAfter : Option Nat) (fuel : Nat) : Conclusion :=
  match Request.ofTexts texts with
  | .error cause => { exitStatus := 2, usage := some cause }
  | .ok .help => { exitStatus := 0 }
  | .ok (.start arguments) =>
      let conclusion := (Id.run (arguments.prepare around seed)).conclude breakAfter fuel
      { conclusion with log := conclusion.log.filter (LogEntry.shown arguments.debug) }

/-- Stored files as surroundings. -/
def Folder.surroundings (folder : Folder) (reader : DocumentReader := readDocument)
    (strict : Bool := false) : Surroundings Id where
  read path := folder.read path
  readDocument := reader
  strict := strict

/-- A whole call of the program on stored files, with a strict log. -/
def callProgram (folder : Folder) (texts : List Text) (seed : Int) (breakAfter : Option Nat)
    (fuel : Nat) : Conclusion :=
  (folder.surroundings readDocument true).call texts seed breakAfter fuel

end Chip8
