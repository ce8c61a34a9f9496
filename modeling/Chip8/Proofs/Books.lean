import Chip8.Proofs.Timers
import Chip8.Session

/-!
What a cycle makes of a session. The machine takes a step, time passes for its timers, and the cycle is
entered into the books: the counters, the streak of faults, the log, and the word of the fault policy
on whether the run goes on. What is entered depends on the snapshot, the settings and the streak alone.
-/

namespace Chip8

theorem catchUp_withTimers (rate debt : Int) (state : State) :
    ∃ delay sound, (catchUp rate debt state).2 = state.withTimers delay sound := by
  fun_induction catchUp rate debt state with
  | case1 debt state _ ih =>
      obtain ⟨delay, sound, same⟩ := ih
      exact ⟨delay, sound, same⟩
  | case2 debt state => exact ⟨state.delayTimer, state.soundTimer, rfl⟩

namespace RunSettings

/-- Whether the policy ends a run over the last fault of a streak of the given length. -/
def givesUp (settings : RunSettings) (streak : Nat) : Bool :=
  match settings.faultPolicy with
  | .halt => true
  | .continue =>
      decide (settings.maxConsecutiveFaults ≠ 0 ∧ settings.maxConsecutiveFaults ≤ streak)

theorem givesUp_mono {settings : RunSettings} {streak longer : Nat} (grown : streak ≤ longer)
    (gaveUp : settings.givesUp streak = true) : settings.givesUp longer = true := by
  unfold givesUp at gaveUp ⊢
  cases policy : settings.faultPolicy with
  | halt => rfl
  | «continue» =>
      rw [policy] at gaveUp
      have reached := of_decide_eq_true gaveUp
      exact decide_eq_true ⟨reached.1, by omega⟩

/-- What is logged of a cycle, the streak including its fault. -/
def lines (settings : RunSettings) (streak : Nat) (snapshot : Snapshot) : List LogEntry :=
  match snapshot.fault with
  | none => [⟨.debug, .session, snapshot.symbol⟩]
  | some fault =>
      let line := s!"{fault.kind.name} at {addressText fault.pc}: {fault.message}"
      match settings.faultPolicy with
      | .halt => [⟨.error, .session, s!"Halting on {line}"⟩]
      | .continue =>
          ⟨.warning, .session, line⟩ ::
            if settings.givesUp streak then
              [⟨.error, .session, s!"Halting after {streak} consecutive faults"⟩]
            else []

theorem level_of_mem_lines {settings : RunSettings} {streak : Nat} {snapshot : Snapshot}
    {entry : LogEntry} (logged : entry ∈ settings.lines streak snapshot) : entry.level ≠ .info := by
  unfold lines at logged
  split at logged
  · rw [List.mem_singleton.mp logged]
    simp
  · split at logged
    · rw [List.mem_singleton.mp logged]
      simp
    · rcases List.mem_cons.mp logged with warning | last
      · simp [warning]
      · split at last
        · rw [List.mem_singleton.mp last]
          simp
        · cases last

end RunSettings

namespace Session

def goesOn (session : Session) : Bool := session.running && !session.exhausted

/-- The consequences of a cycle that left the given machine behind. -/
def concluded (session : Session) (machine : Machine) (snapshot : Snapshot) : Session :=
  ({ session with machine := machine, cycles := session.cycles + 1 }.passTime).account snapshot

theorem cycle_apply (session : Session) :
    cycle session =
      match Machine.step session.machine with
      | .ok snapshot machine => .ok snapshot (session.concluded machine snapshot)
      | .error problem machine => .error problem { session with machine := machine } := by
  cases ran : Machine.step session.machine with
  | ok snapshot machine =>
      simp only [cycle, Action.bind_apply, Action.within, ran, Action.modify_apply, Action.pure_apply]
      rfl
  | error problem machine =>
      simp only [cycle, Action.bind_apply, Action.within, ran]

theorem passTime_apply (session : Session) (ticking : 0 < session.settings.timerHz) :
    session.passTime =
      let caught := catchUp session.settings.timerRate
        (session.timerDebt + session.settings.timerHz) session.machine.state
      { session with timerDebt := caught.1, machine := { session.machine with state := caught.2 } } := by
  rw [passTime, if_neg (by omega)]

theorem passTime_frame (session : Session) :
    ∃ debt delay sound, session.passTime =
      { session with timerDebt := debt, machine := session.machine.withTimers delay sound } := by
  by_cases ticking : 0 < session.settings.timerHz
  · obtain ⟨delay, sound, same⟩ := catchUp_withTimers session.settings.timerRate
      (session.timerDebt + session.settings.timerHz) session.machine.state
    rw [passTime_apply session ticking]
    dsimp only
    rw [same]
    exact ⟨_, delay, sound, rfl⟩
  · rw [passTime, if_pos (Int.not_lt.mp ticking)]
    exact ⟨_, _, _, rfl⟩

def struck (fault : FaultReport) (session : Session) : Session :=
  { session with faults := session.faults + 1, streak := session.streak + 1, lastFault := some fault }

def halted (line : String) (session : Session) : Session :=
  { (session.report .error line).stop with haltedOnFault := true }

theorem countFault_apply (fault : FaultReport) (session : Session) :
    session.countFault fault =
      let line := s!"{fault.kind.name} at {addressText fault.pc}: {fault.message}"
      let limit := session.settings.maxConsecutiveFaults
      match session.settings.faultPolicy with
      | .halt => (session.struck fault).halted s!"Halting on {line}"
      | .continue =>
          if limit ≠ 0 ∧ limit ≤ ((session.streak + 1 : Nat) : Int) then
            ((session.struck fault).report .warning line).halted
              s!"Halting after {session.streak + 1} consecutive faults"
          else (session.struck fault).report .warning line := rfl

/-- The streak of faults after a cycle. -/
def streakWith (session : Session) (snapshot : Snapshot) : Nat :=
  if snapshot.fault.isSome then session.streak + 1 else 0

/-- Whether the fault policy asks for a stop after a cycle. -/
def endsWith (session : Session) (snapshot : Snapshot) : Bool :=
  snapshot.fault.isSome && session.settings.givesUp (session.streakWith snapshot)

def linesOf (session : Session) (snapshot : Snapshot) : List LogEntry :=
  session.settings.lines (session.streakWith snapshot) snapshot

/-- Everything that the account of a cycle changes. -/
theorem account_apply (snapshot : Snapshot) (session : Session) :
    session.account snapshot =
      { session with
        running := session.running && !session.endsWith snapshot
        faults := session.faults + if snapshot.fault.isSome then 1 else 0
        streak := session.streakWith snapshot
        lastFault := snapshot.fault.or session.lastFault
        haltedOnFault := session.haltedOnFault || session.endsWith snapshot
        log := session.log ++ session.linesOf snapshot } := by
  rw [account]
  cases faulted : snapshot.fault with
  | none => simp [countSuccess, report, endsWith, streakWith, linesOf, RunSettings.lines, faulted]
  | some fault =>
      dsimp only
      rw [countFault_apply]
      cases policy : session.settings.faultPolicy with
      | halt =>
          have verdict : session.settings.givesUp (session.streak + 1) = true := by
            rw [RunSettings.givesUp, policy]
          simp [struck, halted, report, stop, endsWith, streakWith, linesOf, RunSettings.lines,
            faulted, policy, verdict]
      | «continue» =>
          have verdict : session.settings.givesUp (session.streak + 1) =
              decide (session.settings.maxConsecutiveFaults ≠ 0 ∧
                session.settings.maxConsecutiveFaults ≤ ((session.streak + 1 : Nat) : Int)) := by
            rw [RunSettings.givesUp, policy]
          dsimp only
          split
          next reached =>
            rw [decide_eq_true reached] at verdict
            simp [struck, halted, report, stop, endsWith, streakWith, linesOf, RunSettings.lines,
              faulted, policy, verdict]
          next below =>
            rw [decide_eq_false below] at verdict
            simp [struck, report, endsWith, streakWith, linesOf, RunSettings.lines, faulted, policy,
              verdict]

/-- What the account of a cycle leaves alone. -/
theorem account_frame (snapshot : Snapshot) (session : Session) :
    ∃ running faults streak lastFault haltedOnFault log, session.account snapshot =
      { session with running, faults, streak, lastFault, haltedOnFault, log } :=
  ⟨_, _, _, _, _, _, account_apply snapshot session⟩

/-- Everything that a cycle changes, apart from the progress of the timers. -/
theorem concluded_apply (session : Session) (machine : Machine) (snapshot : Snapshot) :
    ∃ debt delay sound, session.concluded machine snapshot =
      { session with
        machine := machine.withTimers delay sound
        timerDebt := debt
        cycles := session.cycles + 1
        running := session.running && !session.endsWith snapshot
        faults := session.faults + if snapshot.fault.isSome then 1 else 0
        streak := session.streakWith snapshot
        lastFault := snapshot.fault.or session.lastFault
        haltedOnFault := session.haltedOnFault || session.endsWith snapshot
        log := session.log ++ session.linesOf snapshot } := by
  obtain ⟨debt, delay, sound, passed⟩ :=
    passTime_frame { session with machine := machine, cycles := session.cycles + 1 }
  refine ⟨debt, delay, sound, ?_⟩
  rw [concluded, account_apply, passed]
  rfl

end Session

end Chip8
