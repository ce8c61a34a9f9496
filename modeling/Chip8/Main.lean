import Chip8.CommandLine.Launch

/-!
The program itself: real files, a real clock, and standard output. All decisions are made elsewhere.
-/

namespace Chip8

/-- Reads a file of the system. A name that is no text names no file. -/
def readSystemFile : FileReader IO := fun path => do
  if path.bytes.contains 0 then return .error .nullCharacter
  match String.fromUTF8? (ByteArray.mk path.bytes.toArray) with
  | none => return .error (.notFound path.quoted)
  | some name =>
      try
        let bytes ← IO.FS.readBinFile name
        return .ok bytes.toList
      catch cause =>
        match cause with
        | .noFileOrDirectory .. => return .error (.notFound path.quoted)
        | .permissionDenied .. => return .error (.denied path.quoted)
        | .inappropriateType .. => return .error (.isFolder path.quoted)
        | cause => throw cause

/-- Writes log entries to standard error. -/
def writeLog (debug : Bool) (entries : List LogEntry) : IO Unit :=
  for entry in entries do
    if entry.shown debug then
      IO.eprintln s!"{entry.level.name} {entry.source.name}: {Text.toString entry.text}"

/-- The time of the last look at the clock, and how long to wait before the next one. -/
structure Pace where
  time : Float := 0.0
  delay : Float := 0.0

/-- A clock that notes down how long to wait. -/
def paceClock : Clock Pace where
  now pace := (pace.time, pace)
  sleep seconds pace := { time := pace.time + seconds, delay := pace.delay + seconds }

def systemTime : IO Float := do
  return Float.ofNat (← IO.monoNanosNow) / 1000000000.0

/-- Writes out what a run has logged and drawn. -/
def release (debug : Bool) (run : Run Pace Canvas) : IO (Run Pace Canvas) := do
  writeLog debug run.session.log.toList
  let output ← IO.getStdout
  output.putStr (Text.toString run.viewer.text)
  output.flush
  return { run with
    session := { run.session with log := #[] }
    viewer := { run.viewer with frames := [] } }

/-- Runs cycles in real time. -/
partial def play (debug : Bool) (view : Viewer Canvas) (run : Run Pace Canvas) (deadline : Float) :
    IO (Run Pace Canvas) := do
  let time ← systemTime
  match Run.turn paceClock view deadline { run with clock := { time := time } } with
  | .error _ after => release debug after
  | .ok next after =>
      let after ← release debug after
      IO.sleep (after.clock.delay * 1000.0).toUInt32
      match next with
      | some deadline => play debug view after deadline
      | none => return after

/-- Runs a prepared session and gives its exit status. -/
def Prepared.play (debug : Bool) (system : Prepared) : IO Nat := do
  writeLog debug system.log
  let display := system.settings.display
  let started ← release debug {
    session := Run.start { machine := system.machine, settings := system.settings.run }
    clock := {}
    viewer := display.canvas }
  let ended ← Chip8.play debug (display.viewer none) started (← systemTime)
  let finished ← release debug { ended with session := Run.finish ended.session }
  return finished.session.exitStatus

/-- Carries out what the arguments ask for and gives the exit status. -/
def serveArguments (texts : List String) : IO Nat := do
  match Request.ofTexts (texts.map Text.ofString) with
  | .error cause =>
      IO.eprintln (Text.toString cause.line)
      return 2
  | .ok .help =>
      IO.println "usage: retro-chip8 [option ...] [program]"
      for spelling in CommandOption.spellings do
        IO.println (spelling.1 ++ (if spelling.2.takesValue then " VALUE" else ""))
      return 0
  | .ok (.start arguments) =>
      match ← arguments.prepare { read := readSystemFile } (← IO.rand 0 0x3fffffffffffffff) with
      | .ready system => system.play arguments.debug
      | other =>
          let conclusion := other.conclude none 0
          writeLog arguments.debug conclusion.log
          if let some cause := conclusion.usage then IO.eprintln (Text.toString cause.line)
          if let some cause := conclusion.crash then IO.eprintln (Text.toString cause.message)
          return conclusion.exitStatus

end Chip8

def main (arguments : List String) : IO UInt32 := do
  return UInt32.ofNat (← Chip8.serveArguments arguments)
