import Chip8.Fault
import Chip8.Text.Letter

/-!
What the parts of the machine have to say while they work. Log entries are values: the part that makes
an entry returns it, and the program decides which of them are shown.
-/

namespace Chip8

inductive LogLevel where
  | debug
  | info
  | warning
  | error
  deriving DecidableEq, Repr

def LogLevel.name : LogLevel → String
  | debug => "DEBUG"
  | info => "INFO"
  | warning => "WARNING"
  | error => "ERROR"

/-- The part that speaks. -/
inductive LogSource where
  | image
  | assembly
  | session
  | commandLine
  deriving DecidableEq, Repr

def LogSource.name : LogSource → String
  | image => "image"
  | assembly => "assembly"
  | session => "session"
  | commandLine => "command line"

structure LogEntry where
  level : LogLevel
  source : LogSource
  text : Text
  deriving DecidableEq, Repr

end Chip8
