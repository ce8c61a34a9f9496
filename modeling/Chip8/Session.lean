import Chip8.Cycle
import Chip8.Decimal.Rounding
import Chip8.Log

/-!
A session drives a machine: it runs cycle after cycle, steps the timers at their own rate, applies the
fault policy, hands every cycle to a viewer and keeps the pace of a clock. The machine itself knows no
time. Clock and viewer are values with a state of their own, so that a whole run is a function.
-/

namespace Chip8

/-- What happens after a fault. -/
inductive FaultPolicy where
  /-- It is logged, and the next cycle follows. -/
  | continue
  /-- It is logged, and the run ends. -/
  | halt
  deriving DecidableEq, Repr

namespace FaultPolicy

def name : FaultPolicy → String
  | .continue => "continue"
  | halt => "halt"

def ofName? : String → Option FaultPolicy
  | "continue" => some .continue
  | "halt" => some halt
  | _ => none

end FaultPolicy

structure RunSettings where
  /-- Zero stands for no limit. -/
  cyclesPerSecond : Int := 500
  timerHz : Int := 60
  faultPolicy : FaultPolicy := .continue
  maxCycles : Option Int := none
  /-- Zero stands for no limit. -/
  maxConsecutiveFaults : Int := 64
  deriving DecidableEq, Repr

/-- Cycles that make up one second for the timers. Without a limit a cycle counts as 1/500 second. -/
def RunSettings.timerRate (settings : RunSettings) : Int :=
  if settings.cyclesPerSecond = 0 then 500 else settings.cyclesPerSecond

/-- The time of one cycle in seconds, or none without a limit. -/
def RunSettings.period? (settings : RunSettings) : Option Float :=
  if 0 < settings.cyclesPerSecond then some (1.0 / floatOfInt settings.cyclesPerSecond) else none

/-- Whether the time of one cycle can be computed. -/
def RunSettings.hasPeriod (settings : RunSettings) : Bool :=
  settings.cyclesPerSecond ≤ 0 || hasFloat settings.cyclesPerSecond

structure Session where
  machine : Machine
  settings : RunSettings
  running : Bool := false
  /-- Cycles attempted, with or without a fault. -/
  cycles : Nat := 0
  faults : Nat := 0
  /-- Faults since the last cycle without one. -/
  streak : Nat := 0
  /-- Timer time that has passed since the last timer step, in parts of a timer step. -/
  timerDebt : Int := 0
  lastFault : Option FaultReport := none
  haltedOnFault : Bool := false
  /-- What was logged, oldest first. -/
  log : Array LogEntry := #[]
  deriving DecidableEq

/-- The outcome of a run so far. -/
structure Summary where
  cycles : Nat
  faults : Nat
  haltedOnFault : Bool
  lastFault : Option FaultReport
  deriving DecidableEq, Repr

/-- Steps the timers once for every whole `rate` in the debt, and gives what is left of it. Without a
positive rate there is nothing to catch up with. -/
def catchUp (rate debt : Int) (state : State) : Int × State :=
  if 0 < rate ∧ rate ≤ debt then catchUp rate (debt - rate) state.ticked else (debt, state)
termination_by debt.toNat
decreasing_by omega

theorem catchUp_debt {rate debt : Int} (state : State) (positive : 0 < rate) (owed : 0 ≤ debt) :
    (catchUp rate debt state).1 = debt % rate := by
  fun_induction catchUp rate debt state with
  | case1 debt state more ih =>
      rw [ih (by omega)]
      exact Int.sub_emod_right debt rate
  | case2 debt state done =>
      exact (Int.emod_eq_of_lt owed (by omega)).symm

namespace Session

def summary (session : Session) : Summary where
  cycles := session.cycles
  faults := session.faults
  haltedOnFault := session.haltedOnFault
  lastFault := session.lastFault

/-- Asks a run to end after the current cycle. -/
def stop (session : Session) : Session := { session with running := false }

def report (level : LogLevel) (text : String) (session : Session) : Session :=
  { session with log := session.log.push ⟨level, .session, text⟩ }

/-- Lets the time of one cycle pass for the timers. -/
def passTime (session : Session) : Session :=
  if session.settings.timerHz ≤ 0 then session
  else
    let (debt, state) := catchUp session.settings.timerRate
      (session.timerDebt + session.settings.timerHz) session.machine.state
    { session with timerDebt := debt, machine := { session.machine with state := state } }

/-- Counts a fault and applies the policy to it. -/
def countFault (fault : FaultReport) (session : Session) : Session :=
  let counted := { session with
    faults := session.faults + 1
    streak := session.streak + 1
    lastFault := some fault }
  let line := s!"{fault.kind.name} at {addressText fault.pc}: {fault.message}"
  match session.settings.faultPolicy with
  | .halt =>
      { (counted.report .error s!"Halting on {line}").stop with haltedOnFault := true }
  | .continue =>
      let warned := counted.report .warning line
      let limit := session.settings.maxConsecutiveFaults
      if limit ≠ 0 ∧ limit ≤ counted.streak then
        { (warned.report .error s!"Halting after {counted.streak} consecutive faults").stop with
          haltedOnFault := true }
      else warned

/-- Counts a cycle that ended without a fault. -/
def countSuccess (snapshot : Snapshot) (session : Session) : Session :=
  { session with streak := 0 }.report .debug snapshot.symbol

/-- Draws the consequences of a cycle. -/
def account (snapshot : Snapshot) (session : Session) : Session :=
  match snapshot.fault with
  | some fault => session.countFault fault
  | none => session.countSuccess snapshot

/-- Runs one cycle of the machine with everything that follows from it, apart from showing it. -/
def cycle : Action Session Snapshot := do
  let snapshot ← Machine.step.within Session.machine fun machine session =>
    { session with machine := machine }
  modify fun session =>
    ({ session with cycles := session.cycles + 1 }.passTime).account snapshot
  return snapshot

/-- Whether the limit on cycles has been reached. -/
def exhausted (session : Session) : Bool :=
  match session.settings.maxCycles with
  | some limit => decide (limit ≤ session.cycles)
  | none => false

end Session

/-- What a viewer answers to a cycle. -/
inductive Signal where
  | proceed
  /-- The run is to end after this cycle. -/
  | stop
  /-- The run is broken off at once. -/
  | interrupt
  deriving DecidableEq, Repr

/-- Shows cycles. It sees the machine after the cycle. -/
abbrev Viewer (ρ : Type) := Machine → Snapshot → ρ → Signal × ρ

/-- Tells the time and waits, both in seconds. -/
structure Clock (κ : Type) where
  now : κ → Float × κ
  sleep : Float → κ → κ

/-- A session with its surroundings. -/
structure Run (κ ρ : Type) where
  session : Session
  clock : κ
  viewer : ρ

/-- Why a run did not come to its end. -/
inductive Escape where
  | problem (cause : Problem)
  | interrupted
  /-- The rate of cycles is beyond all floating point numbers. -/
  | rateTooLarge
  deriving DecidableEq, Repr

namespace Run

variable {κ ρ : Type}

/-- Runs one cycle and shows it. -/
def cycle (view : Viewer ρ) : EStateM Escape (Run κ ρ) Snapshot := fun run =>
  match Session.cycle run.session with
  | .error problem session => .error (.problem problem) { run with session := session }
  | .ok snapshot session =>
      let (signal, viewer) := view session.machine snapshot run.viewer
      let shown := { run with session := session, viewer := viewer }
      match signal with
      | .proceed => .ok snapshot shown
      | .stop => .ok snapshot { shown with session := session.stop }
      | .interrupt => .error .interrupted shown

/-- Reads the clock. -/
def now (clock : Clock κ) : EStateM Escape (Run κ ρ) Float :=
  modifyGet fun run =>
    let (time, after) := clock.now run.clock
    (time, { run with clock := after })

/-- Waits for a deadline and gives the next one. A run that is late does not hurry: its next deadline
counts from the present. -/
def await (clock : Clock κ) (deadline : Float) : EStateM Escape (Run κ ρ) Float := do
  let delay := deadline - (← now clock)
  if 0 < delay then
    modify fun run => { run with clock := clock.sleep delay run.clock }
    return deadline
  else
    now clock

/-- Runs one more cycle, unless a stop was asked for or the limit on cycles is reached, and waits for
its deadline. Gives the next deadline, or none at the end of the run. -/
def turn (clock : Clock κ) (view : Viewer ρ) (deadline : Float) :
    EStateM Escape (Run κ ρ) (Option Float) := do
  let session := (← get).session
  if session.running && !session.exhausted then
    discard (cycle view)
    match session.settings.period? with
    | some period => return some (← await clock (deadline + period))
    | none => return some deadline
  else return none

/-- Runs cycles to the end of the run. The fuel bounds the number of cycles; `false` says that it ran
out. -/
def loop (clock : Clock κ) (view : Viewer ρ) : Nat → Float → EStateM Escape (Run κ ρ) Bool
  | 0, _ => return false
  | fuel + 1, deadline => do
      match ← turn clock view deadline with
      | some next => loop clock view fuel next
      | none => return true

/-- Logs the start of a run and makes it running. -/
def start (session : Session) : Session :=
  let rate := session.settings.cyclesPerSecond
  let text := if rate = 0 then "unthrottled" else toString rate
  { session with running := true }.report .info s!"Run started ({text} cycles/s)"

/-- Logs the end of a run. -/
def finish (session : Session) : Session :=
  session.stop.report .info
    s!"Run finished after {session.cycles} cycles ({session.faults} faults)"

/-- A whole run. The session is no longer running afterwards, however the run ended. Only a run that
cannot be paced is given up before its first cycle and leaves the session running. Without a summary the
fuel ran out. -/
def run (clock : Clock κ) (view : Viewer ρ) (fuel : Nat) :
    EStateM Escape (Run κ ρ) (Option Summary) := fun before =>
  if before.session.settings.hasPeriod then
    let started := { before with session := start before.session }
    match (do loop clock view fuel (← now clock) : EStateM Escape (Run κ ρ) Bool) started with
    | .ok true after =>
        let session := finish after.session
        .ok (some session.summary) { after with session := session }
    | .ok false after => .ok none { after with session := after.session.stop }
    | .error escape after => .error escape { after with session := after.session.stop }
  else .error .rateTooLarge { before with session := { before.session with running := true } }

end Run

end Chip8
