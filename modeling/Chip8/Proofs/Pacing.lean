import Mathlib.Data.List.Forall2
import Chip8.Proofs.Simulation

/-!
Pace and timers make no difference to what is executed. Sessions are alike if they differ in their
timers and in their rates only, and in what the start of a run says about its rate. Runs of such sessions
with viewers that answer by the same schedule show the same cycles and come to the same.
-/

namespace Chip8

/-- An entry about the start of a run. -/
def LogEntry.StartsRun (entry : LogEntry) : Prop :=
  ∃ rate : String, entry = ⟨.info, .session, s!"Run started ({rate} cycles/s)"⟩

/-- Entries that differ at most in the rate at which a run was started. -/
def LogEntry.SameButRate (first second : LogEntry) : Prop :=
  first = second ∨ first.StartsRun ∧ second.StartsRun

/-- Rates that a run can keep to. -/
structure RunSettings.Paced (settings : RunSettings) : Prop where
  rate : 0 ≤ settings.cyclesPerSecond
  timers : 0 ≤ settings.timerHz
  period : settings.hasPeriod = true

namespace Session

/-- Sessions that differ at most in timers, rates and what they logged about rates. -/
structure Alike (first second : Session) : Prop where
  machine : ∃ delay sound, second.machine = first.machine.withTimers delay sound
  faultPolicy : second.settings.faultPolicy = first.settings.faultPolicy
  maxCycles : second.settings.maxCycles = first.settings.maxCycles
  maxConsecutiveFaults : second.settings.maxConsecutiveFaults = first.settings.maxConsecutiveFaults
  running : second.running = first.running
  cycles : second.cycles = first.cycles
  faults : second.faults = first.faults
  streak : second.streak = first.streak
  lastFault : second.lastFault = first.lastFault
  haltedOnFault : second.haltedOnFault = first.haltedOnFault
  log : List.Forall₂ LogEntry.SameButRate first.log.toList second.log.toList

namespace Alike

variable {first second : Session}

theorem goesOn (alike : Alike first second) : first.goesOn = second.goesOn := by
  rw [Session.goesOn, Session.goesOn, exhausted, exhausted, alike.running, alike.maxCycles, alike.cycles]

theorem summary (alike : Alike first second) : first.summary = second.summary := by
  rw [Session.summary, Session.summary, alike.cycles, alike.faults, alike.haltedOnFault, alike.lastFault]

theorem stop (alike : Alike first second) : Alike first.stop second.stop :=
  { alike with running := rfl }

theorem logging (alike : Alike first second) {entry entry' : LogEntry}
    (same : entry.SameButRate entry') :
    Alike { first with log := first.log.push entry } { second with log := second.log.push entry' } := by
  refine { alike with log := ?_ }
  rw [Array.toList_push, Array.toList_push]
  exact List.rel_append alike.log (.cons same .nil)

theorem report (alike : Alike first second) (level : LogLevel) (text : String) :
    Alike (first.report level text) (second.report level text) :=
  alike.logging (.inl rfl)

theorem start (alike : Alike first second) : Alike (Run.start first) (Run.start second) := by
  have running : Alike { first with running := true } { second with running := true } :=
    { alike with running := rfl }
  -- Here, and nowhere else, a rate gets into the log.
  exact running.logging (.inr ⟨⟨_, rfl⟩, _, rfl⟩)

theorem finish (alike : Alike first second) : Alike (Run.finish first) (Run.finish second) := by
  rw [Run.finish, Run.finish, alike.cycles, alike.faults]
  exact alike.stop.report .info _

theorem passTime (alike : Alike first second) : Alike first.passTime second.passTime := by
  obtain ⟨debt, delay, sound, passed⟩ := first.passTime_frame
  obtain ⟨debt', delay', sound', passed'⟩ := second.passTime_frame
  obtain ⟨oldDelay, oldSound, machine⟩ := alike.machine
  rw [passed, passed', machine]
  exact { alike with machine := ⟨delay', sound', rfl⟩ }

theorem countSuccess (alike : Alike first second) (snapshot : Snapshot) :
    Alike (first.countSuccess snapshot) (second.countSuccess snapshot) := by
  have counted : Alike { first with streak := 0 } { second with streak := 0 } :=
    { alike with streak := rfl }
  exact counted.report .debug snapshot.symbol

theorem struck (alike : Alike first second) (fault : FaultReport) :
    Alike (first.struck fault) (second.struck fault) :=
  { alike with
    faults := congrArg (· + 1) alike.faults
    streak := congrArg (· + 1) alike.streak
    lastFault := rfl }

theorem halted (alike : Alike first second) (line : String) :
    Alike (first.halted line) (second.halted line) :=
  { (alike.report .error line).stop with haltedOnFault := rfl }

theorem countFault (alike : Alike first second) (fault : FaultReport) :
    Alike (first.countFault fault) (second.countFault fault) := by
  have struck := alike.struck fault
  rw [countFault_apply, countFault_apply, alike.faultPolicy, alike.maxConsecutiveFaults, alike.streak]
  cases first.settings.faultPolicy with
  | halt => exact struck.halted _
  | «continue» =>
      dsimp only
      split
      · exact (struck.report .warning _).halted _
      · exact struck.report .warning _

theorem account (alike : Alike first second) (snapshot : Snapshot) :
    Alike (first.account snapshot) (second.account snapshot) := by
  rw [Session.account, Session.account]
  cases snapshot.fault with
  | none => exact alike.countSuccess snapshot
  | some fault => exact alike.countFault fault

theorem cycle (alike : Alike first second) :
    Agree Alike (Session.cycle first) (Session.cycle second) := by
  obtain ⟨delay, sound, machine⟩ := alike.machine
  -- The second machine takes the step of the first, and its timers come along.
  rw [cycle_apply, cycle_apply, machine, Machine.step_ignoresTimers]
  cases Machine.step first.machine with
  | error problem after => exact .error problem { alike with machine := ⟨delay, sound, rfl⟩ }
  | ok snapshot after =>
      refine .ok snapshot (passTime ?_ |>.account snapshot)
      refine { alike with machine := ⟨delay, sound, rfl⟩, cycles := ?_ }
      exact congrArg (· + 1) alike.cycles

end Alike

end Session

namespace Viewer

variable {ρ : Type}

def after (view : Viewer ρ) (viewer : ρ) (cycles : List (Machine × Snapshot)) : ρ :=
  cycles.foldl (fun viewer cycle => (view cycle.1 cycle.2 viewer).2) viewer

/-- Whether a viewer answers by a schedule, in which only the snapshots so far count. -/
def Follows (view : Viewer ρ) (schedule : List Snapshot → Signal) (viewer : ρ) : Prop :=
  ∀ (earlier : List (Machine × Snapshot)) (machine : Machine) (snapshot : Snapshot),
    (view machine snapshot (view.after viewer earlier)).1 =
      schedule (earlier.map Prod.snd ++ [snapshot])

theorem Follows.next {view : Viewer ρ} {schedule : List Snapshot → Signal} {viewer : ρ}
    (follows : view.Follows schedule viewer) (machine : Machine) (snapshot : Snapshot) :
    view.Follows (fun later => schedule (snapshot :: later)) (view machine snapshot viewer).2 := by
  intro earlier
  exact follows ((machine, snapshot) :: earlier)

end Viewer

variable {κ κ' ρ ρ' : Type}

theorem simulation_alike (view : Viewer ρ) (view' : Viewer ρ') :
    Simulation view view' Session.Alike fun viewer viewer' =>
      ∃ schedule, view.Follows schedule viewer ∧ view'.Follows schedule viewer' := by
  constructor
  case going => exact fun _ _ alike => alike.goesOn
  case cycled => exact fun _ _ alike => alike.cycle
  case answers =>
    intro session session' snapshot viewer viewer' _ following
    obtain ⟨schedule, follows, follows'⟩ := following
    exact (follows [] session.machine snapshot).trans (follows' [] session'.machine snapshot).symm
  case watches =>
    intro session session' snapshot viewer viewer' _ following
    obtain ⟨schedule, follows, follows'⟩ := following
    exact ⟨_, follows.next session.machine snapshot, follows'.next session'.machine snapshot⟩
  case stopped => exact fun _ _ alike => alike.stop
  case finished => exact fun _ _ alike => ⟨alike.finish, alike.finish.summary⟩

namespace Run

/-- Pace and timers have no influence on execution. Runs of sessions that are alike, with viewers that
go by one schedule, come to the same and leave sessions that are alike, and they show the same cycles. -/
theorem run_ignores_pace (clock : Clock κ) (clock' : Clock κ') (view : Viewer ρ) (view' : Viewer ρ')
    (fuel : Nat) (first : Run κ ρ) (second : Run κ' ρ') {schedule : List Snapshot → Signal}
    (alike : first.session.Alike second.session)
    (paced : first.session.settings.Paced) (paced' : second.session.settings.Paced)
    (follows : view.Follows schedule first.viewer) (follows' : view'.Follows schedule second.viewer) :
    Agree (fun after after' => after.session.Alike after'.session)
        (run clock view fuel first) (run clock' view' fuel second) ∧
      shown clock view fuel first = shown clock' view' fuel second := by
  have simulation := simulation_alike view view'
  constructor
  · have ran := run_agree simulation clock clock' fuel paced.period paced'.period alike.start
      ⟨schedule, follows, follows'⟩
    exact ran.mono fun _ _ related => related.1
  · exact shown_agree simulation clock clock' fuel paced.period paced'.period alike.start
      ⟨schedule, follows, follows'⟩

end Run

def Viewer.stopAt (cycle : Nat) : Viewer Nat := fun _ _ seen =>
  (if seen + 1 = cycle then .stop else .proceed, seen + 1)

theorem Viewer.stopAt_follows (cycle : Nat) :
    (stopAt cycle).Follows (fun shown => if shown.length = cycle then .stop else .proceed) 0 := by
  have counts (earlier : List (Machine × Snapshot)) (seen : Nat) :
      (stopAt cycle).after seen earlier = seen + earlier.length := by
    induction earlier generalizing seen with
    | nil => rfl
    | cons first earlier ih => exact (ih (seen + 1)).trans (Nat.add_right_comm seen 1 _)
  intro earlier machine snapshot
  rw [counts, stopAt, Nat.zero_add]
  dsimp only
  rw [List.length_append, List.length_map]
  rfl

def slowClock : Clock Float where
  now := fun time => (time, time + 0.25)
  sleep := fun delay time => time + delay

namespace Run

/-- What an unlimited run on a frozen clock does, a slow run with other timers does as well. -/
theorem run_ignores_pace_faulting_loop :
    (faultingLoop 10 4 0 1250).Alike (faultingLoop 200 7 2 60) ∧
      (faultingLoop 10 4 0 1250).settings.Paced ∧ (faultingLoop 200 7 2 60).settings.Paced ∧
      (shown slowClock (Viewer.stopAt 3) 8 ⟨faultingLoop 200 7 2 60, 0, 0⟩).length = 3 ∧
      value? (run slowClock (Viewer.stopAt 3) 8 ⟨faultingLoop 200 7 2 60, 0, 0⟩) =
        some (some {
          cycles := 3
          faults := 2
          haltedOnFault := false
          lastFault := some
            ⟨.unsupportedOpcode, "Opcode not supported: 0x0000", 0, some 0, none⟩ }) := by
  have alike : (faultingLoop 10 4 0 1250).Alike (faultingLoop 200 7 2 60) :=
    ⟨⟨200, 7, rfl⟩, rfl, rfl, rfl, rfl, rfl, rfl, rfl, rfl, rfl, .nil⟩
  have paced : (faultingLoop 10 4 0 1250).settings.Paced := ⟨by decide, by decide, by decide⟩
  have paced' : (faultingLoop 200 7 2 60).settings.Paced :=
    ⟨by decide, by decide, by decide +kernel⟩
  obtain ⟨agree, shows⟩ := run_ignores_pace frozenClock slowClock (Viewer.stopAt 3)
    (Viewer.stopAt 3) 8 ⟨faultingLoop 10 4 0 1250, (), 0⟩ ⟨faultingLoop 200 7 2 60, 0, 0⟩ alike
    paced paced' (Viewer.stopAt_follows 3) (Viewer.stopAt_follows 3)
  refine ⟨alike, paced, paced', ?_, ?_⟩
  · rw [← shows]
    decide +kernel
  · rw [← agree.value?]
    decide +kernel

end Run

end Chip8
