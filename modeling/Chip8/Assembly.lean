import Chip8.Folder
import Chip8.Image
import Chip8.Settings.Basic

/-!
Assembling a system from its settings: 4096 bytes of memory, a machine on them and the program image in
them. How files are read is left to the caller, so that the same assembly works on stored and on real
files.
-/

namespace Chip8

/-- Why a system cannot be assembled. -/
inductive AssemblyError where
  | file (cause : FileError)
  | problem (cause : Problem)
  /-- The log cannot show a number, and passes this on. -/
  | log (cause : NumeralError)
  deriving DecidableEq, Repr

def AssemblyError.message : AssemblyError → String
  | file cause => cause.message
  | problem cause => cause.message
  | log cause => cause.message

/-- A way to read files. -/
abbrev FileReader (m : Type → Type) := Path → m (Except FileError (List UInt8))

/-- The path that a value names, or none if the value counts as false. A number would be that of an
open file. -/
def Value.path? (value : Value) : Except FileError (Option Path) :=
  if !value.truthy then .ok none
  else
    match value with
    | .text name => (Path.ofText name).map some
    | .bytes name => .ok (some { bytes := name, quoted := quotedBytes name })
    | .bool _ => .error .notOpen
    | .int number =>
        if number < -2147483648 ∨ 2147483647 < number then .error (.notAPath value.kindName)
        else if number < 0 then .error .negativeNumber
        else .error .notOpen
    | value => .error (.notAPath value.kindName)

/-- What was logged while a system was assembled, and the system. -/
structure Assembly where
  log : List LogEntry
  machine : Except AssemblyError Machine

/-- A bus with memory at all 4096 addresses. -/
def standardBus : Except Problem Bus :=
  let mapped : Action Bus Unit := do
    let memory ← Bus.attachMemory memorySize
    Bus.register 0 (memorySize - 1) memory
  match mapped {} with
  | .ok _ bus => .ok bus
  | .error problem _ => .error problem

namespace Settings

/-- The machine of settings, without a program. The given seed counts only if the settings have none. -/
def machine (settings : Settings) (seed : Int) : Except Problem Machine := do
  let built ← Machine.build (← standardBus) (.ofSeed (settings.randomSeed.getD seed))
    settings.drawPolicy settings.stackLimit settings.loadAddress
  return built.reset

/-- Whether the numbers in the log entry of a machine can be shown. -/
def showable (settings : Settings) : Bool :=
  canShow settings.stackLimit && settings.randomSeed.all canShow

/-- What is logged of a machine. -/
def machineEntry (settings : Settings) : LogEntry where
  level := .debug
  source := .assembly
  text :=
    let seed := match settings.randomSeed with
      | some seed => toString seed
      | none => "None"
    s!"Built CHIP-8 system: start={addressText settings.loadAddress} " ++
      s!"stack_limit={settings.stackLimit} draw_policy={settings.drawPolicy.name} seed={seed}"

end Settings

/-- What is logged of an image that was read. -/
def Path.entry (value : Value) : LogEntry where
  level := .debug
  source := .image
  text := Text.ofString "Read program image " ++ value.shown

/-- Loads an image into a machine. -/
def Assembly.load (log : List LogEntry) (image : List UInt8) (address : Int) (machine : Machine) :
    Assembly :=
  match Machine.onBus (Bus.loadImage image address) machine with
  | .ok loaded filled => { log := log ++ [loaded.entry], machine := .ok filled }
  | .error problem _ => { log := log, machine := .error (.problem problem) }

/-- The system of settings. An entry that cannot be shown is left out of the log, unless the log is a strict
one, which passes the failure on. -/
def Settings.assemble {m : Type → Type} [Monad m] (read : FileReader m) (seed : Int) (strict : Bool)
    (settings : Settings) : m Assembly := do
  match settings.machine seed with
  | .error problem => return { log := [], machine := .error (.problem problem) }
  | .ok machine =>
      if strict && !settings.showable then
        return { log := [], machine := .error (.log .tooLargeToShow) }
      let log := if settings.showable then [settings.machineEntry] else []
      match settings.program.path? with
      | .error cause => return { log := log, machine := .error (.file cause) }
      | .ok none => return { log := log, machine := .ok machine }
      | .ok (some path) =>
          match ← read path with
          | .error cause => return { log := log, machine := .error (.file cause) }
          | .ok image =>
              return .load (log ++ [Path.entry settings.program]) image settings.loadAddress machine

end Chip8
