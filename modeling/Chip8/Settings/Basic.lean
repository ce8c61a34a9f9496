import Chip8.Document.Error
import Chip8.Document.Value
import Chip8.Machine
import Chip8.Session

/-!
The settings of a system: its program and its machine, the run and the display. `Settings.Sound` says
which settings a system can be built from; settings that are read from a document are sound.
-/

namespace Chip8

structure DisplaySettings where
  enabled : Bool := true
  /-- The text of a lit pixel. -/
  lit : Text := "*"
  /-- The text of a dark pixel. -/
  dark : Text := " "
  showRegisters : Bool := false
  deriving DecidableEq, Repr

structure Settings where
  /-- What names the program image; nothing if it counts as false. -/
  program : Value := .null
  loadAddress : Int := programStart
  stackLimit : Int := 16
  drawPolicy : DrawPolicy := .wrap
  /-- Without a seed the random bytes are different in every run. -/
  randomSeed : Option Int := none
  run : RunSettings := {}
  display : DisplaySettings := {}

/-- Why a document does not give settings. -/
inductive SettingsError where
  | document (cause : DocumentError)
  | numeral (cause : NumeralError)
  | rootNotMapping
  | sectionNotMapping (name : String)
  /-- A value that is no whole number, as it is shown. -/
  | notAnInteger (shown : Text)
  /-- A value that is none of the choices, as it is shown. -/
  | notAChoice (name : String) (shown : Text) (choices : List String)
  | loadAddressOutside (address : Int)
  | stackLimitNotPositive (limit : Int)
  | cycleRateNegative (rate : Int)
  | timerRateNegative (rate : Int)
  | pixelTextNotSingle
  deriving DecidableEq, Repr

def SettingsError.message : SettingsError → Text
  | document cause => cause.message
  | numeral cause => cause.message
  | rootNotMapping => "Configuration root must be a mapping."
  | sectionNotMapping name => s!"Configuration section '{name}' must be a mapping."
  | notAnInteger shown => Text.ofString "Invalid integer format: " ++ shown
  | notAChoice name shown choices =>
      Text.ofString s!"Invalid {name} '" ++ shown ++ Text.ofString "' (expected one of: " ++
        Text.ofString (String.intercalate ", " choices) ++ Text.ofString ")"
  | loadAddressOutside address => s!"load_address {addressText address} outside memory."
  | stackLimitNotPositive limit => s!"stack_limit must be positive: {limit}"
  | cycleRateNegative rate => s!"cycles_per_second must not be negative: {rate}"
  | timerRateNegative rate => s!"timer_hz must not be negative: {rate}"
  | pixelTextNotSingle => "on_char and off_char must be single characters."

/-- Whether an error is foreseen. -/
def SettingsError.foreseen : SettingsError → Bool
  | document cause => cause.foreseen
  | _ => true

/-- The settings that a system can be built from and run with. -/
structure Settings.Sound (settings : Settings) : Prop where
  loadAddress_nonneg : 0 ≤ settings.loadAddress
  loadAddress_lt : settings.loadAddress < memorySize
  stackLimit_pos : 0 < settings.stackLimit
  cycleRate_nonneg : 0 ≤ settings.run.cyclesPerSecond
  timerRate_nonneg : 0 ≤ settings.run.timerHz
  lit_single : settings.display.lit.length = 1
  dark_single : settings.display.dark.length = 1

end Chip8
