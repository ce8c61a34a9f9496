import Mathlib.Data.List.Basic
import Chip8.Proofs.Hazards
import Chip8.Proofs.Simulation

/-!
The books of a session as functions of its past. However runs, single cycles and stops are mixed, the
counters, the last fault, the mark of a halt and the log say what the snapshots so far say, and the fault
policy asks for a stop by the snapshots alone.
-/

namespace Chip8

/-- The number of faults in a row at the end. -/
def faultStreak (seen : List Snapshot) : Nat :=
  (seen.reverse.takeWhile fun snapshot => snapshot.fault.isSome).length

theorem faultStreak_append (seen : List Snapshot) (snapshot : Snapshot) :
    faultStreak (seen ++ [snapshot]) =
      if snapshot.fault.isSome then faultStreak seen + 1 else 0 := by
  cases faulted : snapshot.fault with
  | none => simp [faultStreak, faulted]
  | some fault => simp [faultStreak, faulted]

/-- The streak is the length of the longest block of faults that ends now. -/
theorem le_faultStreak_iff (seen : List Snapshot) (length : Nat) :
    length ≤ faultStreak seen ↔ ∃ block, block <:+ seen ∧ block.length = length ∧
      ∀ snapshot ∈ block, snapshot.fault.isSome = true := by
  let faulty := seen.reverse.takeWhile fun snapshot => snapshot.fault.isSome
  constructor
  · intro long
    refine ⟨(faulty.take length).reverse, ?_, ?_, ?_⟩
    · have isPrefix : faulty.take length <+: seen.reverse :=
        (List.take_prefix length faulty).trans (List.takeWhile_prefix _)
      rw [← List.reverse_suffix] at isPrefix
      simpa using isPrefix
    · rw [List.length_reverse, List.length_take]
      exact Nat.min_eq_left long
    · intro snapshot member
      have kept := List.mem_of_mem_take (List.mem_reverse.mp member)
      exact List.all_eq_true.mp (List.all_takeWhile) snapshot kept
  · rintro ⟨block, ⟨earlier, rfl⟩, rfl, faults⟩
    have reversed : ∀ snapshot ∈ block.reverse, snapshot.fault.isSome = true := by
      intro snapshot member
      exact faults snapshot (List.mem_reverse.mp member)
    rw [faultStreak, List.reverse_append, List.takeWhile_append_of_pos reversed, List.length_append,
      List.length_reverse]
    omega

namespace RunSettings

/-- Whether the policy has ended a run over one of the snapshots. -/
def HaltedOn (settings : RunSettings) (seen : List Snapshot) : Prop :=
  match settings.faultPolicy with
  | .halt => ∃ snapshot ∈ seen, snapshot.fault.isSome
  | .continue =>
      0 < settings.maxConsecutiveFaults ∧ ∃ block, block <:+: seen ∧
        (block.length : Int) = settings.maxConsecutiveFaults ∧
        ∀ snapshot ∈ block, snapshot.fault.isSome

/-- Whether the policy asks for a stop after the last of some snapshots. -/
def StopsAfter (settings : RunSettings) (seen : List Snapshot) (last : Snapshot) : Prop :=
  last.fault.isSome ∧ (settings.faultPolicy = .halt ∨
    0 < settings.maxConsecutiveFaults ∧
      settings.maxConsecutiveFaults ≤ faultStreak (seen ++ [last]))

/-- What the cycles log, each with the streak up to it. -/
def journal (settings : RunSettings) (seen : List Snapshot) : List LogEntry :=
  seen.zipIdx.flatMap fun cycle =>
    settings.lines (faultStreak (seen.take (cycle.2 + 1))) cycle.1

variable {settings : RunSettings} {seen : List Snapshot} {snapshot : Snapshot}

theorem journal_append :
    settings.journal (seen ++ [snapshot]) =
      settings.journal seen ++ settings.lines (faultStreak (seen ++ [snapshot])) snapshot := by
  rw [journal, List.zipIdx_append, List.flatMap_append]
  congr 1
  · apply List.flatMap_congr
    intro cycle member
    have place := (List.mem_zipIdx member).2.1
    rw [List.take_append_of_le_length (by omega)]
  · have whole : (seen ++ [snapshot]).take (0 + seen.length + 1) = seen ++ [snapshot] :=
      List.take_of_length_le (by simp)
    rw [List.zipIdx_singleton, List.flatMap_singleton, whole]

theorem haltedOn_append :
    settings.HaltedOn (seen ++ [snapshot]) ↔
      settings.HaltedOn seen ∨ settings.StopsAfter seen snapshot := by
  cases policy : settings.faultPolicy with
  | halt =>
      simp only [HaltedOn, StopsAfter, policy, List.mem_append, List.mem_singleton, true_or, and_true]
      constructor
      · rintro ⟨other, member | rfl, faulted⟩
        · exact .inl ⟨other, member, faulted⟩
        · exact .inr faulted
      · rintro (⟨other, member, faulted⟩ | faulted)
        · exact ⟨other, .inl member, faulted⟩
        · exact ⟨snapshot, .inr rfl, faulted⟩
  | «continue» =>
      simp only [HaltedOn, StopsAfter, policy, reduceCtorEq, false_or]
      constructor
      · rintro ⟨positive, block, within, long, faults⟩
        rcases List.infix_concat_iff.mp within with atEnd | earlier
        · right
          have streak := (le_faultStreak_iff _ _).mpr ⟨block, atEnd, rfl, faults⟩
          refine ⟨?_, positive, by omega⟩
          -- A streak that is not empty ends with a fault.
          rw [faultStreak_append] at streak
          refine Classical.byContradiction fun succeeded => ?_
          rw [if_neg succeeded] at streak
          omega
        · exact .inl ⟨positive, block, earlier, long, faults⟩
      · rintro (⟨positive, block, within, long, faults⟩ | ⟨_, positive, reached⟩)
        · exact ⟨positive, block, within.trans (List.infix_append' [] seen [snapshot]), long, faults⟩
        · obtain ⟨block, atEnd, long, faults⟩ :=
            (le_faultStreak_iff (seen ++ [snapshot]) settings.maxConsecutiveFaults.toNat).mp (by omega)
          exact ⟨positive, block, atEnd.isInfix, by omega, faults⟩

theorem givesUp_iff (limit : settings.faultPolicy = .continue → 0 ≤ settings.maxConsecutiveFaults)
    (streak : Nat) :
    settings.givesUp streak = true ↔ settings.faultPolicy = .halt ∨
      0 < settings.maxConsecutiveFaults ∧ settings.maxConsecutiveFaults ≤ streak := by
  rw [givesUp]
  cases policy : settings.faultPolicy with
  | halt => simp
  | «continue» =>
      have nonnegative := limit policy
      simp only [decide_eq_true_eq, reduceCtorEq, false_or]
      constructor
      · rintro ⟨nonzero, reached⟩
        exact ⟨by omega, reached⟩
      · rintro ⟨positive, reached⟩
        exact ⟨by omega, reached⟩

end RunSettings

namespace Session

/-- The books say what the snapshots so far say. -/
structure Booked (settings : RunSettings) (seen : List Snapshot) (session : Session) : Prop where
  configured : session.settings = settings
  cycles : session.cycles = seen.length
  faults : session.faults = seen.countP fun snapshot => snapshot.fault.isSome
  streak : session.streak = faultStreak seen
  lastFault : session.lastFault = (seen.filterMap fun snapshot => snapshot.fault).getLast?
  halted : session.haltedOnFault = true ↔ settings.HaltedOn seen
  log : (session.log.toList.filter fun entry => entry.level ≠ .info) = settings.journal seen

namespace Booked

variable {settings : RunSettings} {seen : List Snapshot} {session after : Session}
  {snapshot : Snapshot}

theorem created (machine : Machine) : Booked settings [] { machine, settings } := by
  refine ⟨rfl, rfl, rfl, rfl, rfl, ?_, rfl⟩
  rw [RunSettings.HaltedOn]
  cases settings.faultPolicy with
  | halt => simp
  | «continue» =>
      simp only [Bool.false_eq_true, false_iff]
      rintro ⟨positive, block, within, long, _⟩
      rw [List.infix_nil.mp within, List.length_nil] at long
      omega

theorem streakWith (booked : Booked settings seen session) :
    session.streakWith snapshot = faultStreak (seen ++ [snapshot]) := by
  rw [Session.streakWith, faultStreak_append, booked.streak]

theorem stopsAfter (booked : Booked settings seen session)
    (limit : settings.faultPolicy = .continue → 0 ≤ settings.maxConsecutiveFaults) :
    session.endsWith snapshot = true ↔ settings.StopsAfter seen snapshot := by
  rw [Session.endsWith, Bool.and_eq_true, booked.configured, booked.streakWith,
    RunSettings.givesUp_iff limit, RunSettings.StopsAfter]

theorem endsWith (booked : Booked settings seen session)
    (limit : 0 ≤ settings.maxConsecutiveFaults) :
    session.endsWith snapshot = true ↔ settings.StopsAfter seen snapshot :=
  booked.stopsAfter fun _ => limit

theorem concluded (booked : Booked settings seen session)
    (limit : settings.faultPolicy = .continue → 0 ≤ settings.maxConsecutiveFaults)
    (machine : Machine) (snapshot : Snapshot) :
    Booked settings (seen ++ [snapshot]) (session.concluded machine snapshot) := by
  obtain ⟨debt, delay, sound, same⟩ := session.concluded_apply machine snapshot
  have lines : session.linesOf snapshot =
      settings.lines (faultStreak (seen ++ [snapshot])) snapshot := by
    rw [linesOf, booked.configured, booked.streakWith]
  have notable : ((session.linesOf snapshot).filter fun entry => entry.level ≠ .info) =
      session.linesOf snapshot := by
    apply List.filter_eq_self.mpr
    intro entry member
    exact decide_eq_true (RunSettings.level_of_mem_lines member)
  rw [same]
  constructor
  case configured => exact booked.configured
  case cycles => simp [booked.cycles]
  case faults => simp [booked.faults, List.countP_append, List.countP_singleton]
  case streak => exact booked.streakWith
  case lastFault =>
    dsimp only
    rw [booked.lastFault, List.filterMap_append, List.getLast?_append]
    cases faulted : snapshot.fault <;> simp [faulted]
  case halted =>
    dsimp only
    rw [Bool.or_eq_true, RunSettings.haltedOn_append, ← booked.stopsAfter limit, ← booked.halted]
  case log =>
    dsimp only
    rw [Array.toList_appendList, List.filter_append, booked.log, notable, lines,
      RunSettings.journal_append]

theorem cycled (booked : Booked settings seen session)
    (limit : settings.faultPolicy = .continue → 0 ≤ settings.maxConsecutiveFaults)
    (ran : cycle session = .ok snapshot after) :
    Booked settings (seen ++ [snapshot]) after := by
  rw [cycle_apply] at ran
  cases stepped : Machine.step session.machine with
  | error problem machine =>
      rw [stepped] at ran
      cases ran
  | ok shown machine =>
      rw [stepped] at ran
      cases ran
      exact booked.concluded limit machine snapshot

theorem onMachine (booked : Booked settings seen session) (machine : Machine) :
    Booked settings seen { session with machine := machine } :=
  ⟨booked.configured, booked.cycles, booked.faults, booked.streak, booked.lastFault, booked.halted,
    booked.log⟩

theorem flagged (booked : Booked settings seen session) (running : Bool) :
    Booked settings seen { session with running := running } :=
  ⟨booked.configured, booked.cycles, booked.faults, booked.streak, booked.lastFault, booked.halted,
    booked.log⟩

theorem failed (booked : Booked settings seen session) {problem : Problem}
    (ran : cycle session = .error problem after) : Booked settings seen after := by
  rw [cycle_apply] at ran
  cases stepped : Machine.step session.machine with
  | ok shown machine =>
      rw [stepped] at ran
      cases ran
  | error cause machine =>
      rw [stepped] at ran
      cases ran
      exact booked.onMachine machine

theorem told (booked : Booked settings seen session) (running : Bool) {entries : List LogEntry}
    (informal : ∀ entry ∈ entries, entry.level = .info) :
    Booked settings seen
      { session with running := running, log := session.log ++ entries } := by
  refine ⟨booked.configured, booked.cycles, booked.faults, booked.streak, booked.lastFault,
    booked.halted, ?_⟩
  have silent : (entries.filter fun entry => entry.level ≠ .info) = [] := by
    apply List.filter_eq_nil_iff.mpr
    intro entry member
    simp [informal entry member]
  dsimp only
  rw [Array.toList_appendList, List.filter_append, booked.log, silent, List.append_nil]

end Booked

/-- The machine has counted the cycles without a fault. -/
def Counted (start : Nat) (session : Session) : Prop :=
  session.machine.cycleCount + session.faults = start + session.cycles

theorem kept_counted (start : Nat) : Kept (Counted start) := by
  constructor
  case cycled =>
    intro session counted
    rw [Action.left, cycle_apply]
    cases stepped : Machine.step session.machine with
    | error problem machine =>
        obtain ⟨accesses, rfl⟩ := Machine.step_error stepped
        exact counted
    | ok snapshot machine =>
        have ended := Machine.cycle_of_step stepped
        obtain ⟨debt, delay, sound, same⟩ := session.concluded_apply machine snapshot
        dsimp only
        rw [same]
        unfold Counted at counted ⊢
        dsimp only [Machine.withTimers]
        cases faulted : snapshot.fault with
        | none =>
            have oneMore := ended.counted faulted
            simp only [Option.isSome_none, Bool.false_eq_true, if_false]
            omega
        | some report =>
            have uncounted : machine.cycleCount = session.machine.cycleCount := by
              rw [(ended.faultTrace faulted).rest]
            simp only [Option.isSome_some, if_true]
            omega
  case told =>
    intro session running log counted
    exact counted

end Session

namespace Run

variable {κ ρ : Type}

/-- The snapshot that the next cycle produces, if it gets that far. -/
def produced (run : Run κ ρ) : List Snapshot :=
  match Session.cycle run.session with
  | .ok snapshot _ => [snapshot]
  | .error _ _ => []

/-- What calls have made of a run since it was created, with the snapshots that they have produced. A run
that is out of fuel stands for one that is still under way. -/
inductive Chronicle (clock : Clock κ) (view : Viewer ρ) (allowed : Machine → Machine → Prop)
    (first : Run κ ρ) : List Snapshot → Run κ ρ → Prop
  | created : Chronicle clock view allowed first [] first
  | run {seen : List Snapshot} {before : Run κ ρ} (fuel : Nat) :
      Chronicle clock view allowed first seen before →
      Chronicle clock view allowed first (seen ++ shown clock view fuel before)
        (left (run clock view fuel) before)
  | cycle {seen : List Snapshot} {before : Run κ ρ} :
      Chronicle clock view allowed first seen before →
      Chronicle clock view allowed first (seen ++ before.produced) (left (cycle view) before)
  | stop {seen : List Snapshot} {before : Run κ ρ} :
      Chronicle clock view allowed first seen before →
      Chronicle clock view allowed first seen { before with session := before.session.stop }
  | outside {seen : List Snapshot} {before : Run κ ρ} {machine : Machine} (time : κ) :
      Chronicle clock view allowed first seen before → allowed before.session.machine machine →
      Chronicle clock view allowed first seen
        { before with session := { before.session with machine := machine }, clock := time }

variable {clock : Clock κ} {view : Viewer ρ} {allowed : Machine → Machine → Prop}
  {first run : Run κ ρ} {seen : List Snapshot}

theorem Chronicle.history (chronicle : Chronicle clock view allowed first seen run) :
    History clock view allowed first run := by
  induction chronicle with
  | created => exact .created
  | run fuel _ ih => exact .run fuel ih
  | cycle _ ih => exact .cycle ih
  | stop _ ih => exact .stop ih
  | outside time _ changes ih => exact .outside time ih changes

theorem kept_booked {settings : RunSettings} (limit : 0 ≤ settings.maxConsecutiveFaults)
    (view : Viewer ρ) (earlier : List Snapshot) :
    Kept view.recording fun session viewer => session.Booked settings (earlier ++ viewer.2) := by
  constructor
  case cycled =>
    intro session viewer snapshot after booked ran
    have longer := booked.cycled (fun _ => limit) ran
    rwa [List.append_assoc] at longer
  case failed =>
    intro session viewer problem after booked ran
    exact booked.failed ran
  case told =>
    intro session viewer running entries booked informal
    exact booked.told running informal

theorem Chronicle.booked {settings : RunSettings} (limit : 0 ≤ settings.maxConsecutiveFaults)
    (chronicle : Chronicle clock view allowed first seen run)
    (initial : first.session.Booked settings []) : run.session.Booked settings seen := by
  induction chronicle with
  | created => exact initial
  | @run seen before fuel _ ih =>
      -- The run is followed with a recorder at its viewer, which makes no difference to it.
      have booked : before.recording.session.Booked settings (seen ++ before.recording.viewer.2) := by
        rw [recording, List.append_nil]
        exact ih
      have after := run_kept (kept_booked limit view seen) clock fuel before.recording booked
      have recorded : (left (Run.run clock view fuel) before).session =
          (left (Run.run clock view.recording fuel) before.recording).session :=
        (run_recording clock view fuel before).reached.1
      rw [recorded]
      exact after
  | @cycle seen before _ ih =>
      rw [left, Run.cycle, produced]
      cases ran : Session.cycle before.session with
      | error problem session =>
          rw [List.append_nil]
          exact ih.failed ran
      | ok snapshot session =>
          have after := ih.cycled (fun _ => limit) ran
          dsimp only
          cases (view session.machine snapshot before.viewer).1 with
          | proceed | interrupt => exact after
          | stop => exact after.flagged false
  | stop _ ih => exact ih.flagged false
  | outside time _ changes ih => exact ih.onMachine _

/-- The books follow the snapshots. After any calls the summary and the log say what the snapshots say,
and the machine has counted those without a fault, unless it was driven from outside. The fault policy
asks for a stop in a cycle if that cycle faults and its policy is to halt or its streak is too long. -/
theorem books_follow_snapshots (clock : Clock κ) (view : Viewer ρ)
    (allowed : Machine → Machine → Prop) (machine : Machine) (settings : RunSettings) (time : κ)
    (viewer : ρ) (limit : 0 ≤ settings.maxConsecutiveFaults) {seen : List Snapshot} {run : Run κ ρ}
    (chronicle : Chronicle clock view allowed
      { session := { machine, settings }, clock := time, viewer } seen run) :
    let faults := seen.countP fun snapshot => snapshot.fault.isSome
    (run.session.summary.cycles = seen.length ∧ run.session.summary.faults = faults ∧
      run.session.summary.lastFault = (seen.filterMap fun snapshot => snapshot.fault).getLast? ∧
      (run.session.summary.haltedOnFault = true ↔ settings.HaltedOn seen)) ∧
    ((∀ before after, allowed before after → after.cycleCount = before.cycleCount) →
      (run.session.machine.cycleCount : Int) = machine.cycleCount + (seen.length - faults)) ∧
    (run.session.log.toList.filter fun entry => entry.level ≠ .info) = settings.journal seen ∧
    ∀ snapshot after, Session.cycle { run.session with running := true } = .ok snapshot after →
      (after.running = false ↔ settings.StopsAfter seen snapshot) := by
  have booked := chronicle.booked limit (.created machine)
  refine ⟨⟨booked.cycles, booked.faults, booked.lastFault, booked.halted⟩, ?_, booked.log, ?_⟩
  · intro undriven
    have counted : Session.Counted machine.cycleCount run.session := by
      refine history_kept (Session.kept_counted machine.cycleCount) ?_ chronicle.history rfl
      intro session after counted changes
      rw [Session.Counted] at counted ⊢
      rw [undriven _ _ changes, counted]
    rw [Session.Counted, booked.faults, booked.cycles] at counted
    omega
  · intro snapshot after ran
    have running := booked.flagged true
    rw [Session.cycle_apply] at ran
    cases stepped : Machine.step run.session.machine with
    | error problem machine =>
        rw [stepped] at ran
        cases ran
    | ok shown machine =>
        rw [stepped] at ran
        cases ran
        obtain ⟨debt, delay, sound, same⟩ :=
          Session.concluded_apply { run.session with running := true } machine snapshot
        rw [same, ← running.endsWith limit]
        simp

/-- A loop with a fault in every other cycle, under a policy that lets none pass. -/
def strictLoop : Run Unit Unit where
  session := {
    machine := (faultingLoop 10 4 0 60).machine
    settings := { cyclesPerSecond := 0, maxConsecutiveFaults := 1 } }
  clock := ()
  viewer := ()

/-- A run that is halted in its first cycle, and one more cycle. -/
theorem books_follow_snapshots_strict_loop :
    let halted := left (Run.run frozenClock absentViewer 8) strictLoop
    let seen := shown frozenClock absentViewer 8 strictLoop ++ halted.produced
    let last := left (Run.cycle absentViewer) halted
    Chronicle frozenClock absentViewer (fun _ _ => False) strictLoop seen last ∧
      last.session.summary.cycles = 2 ∧ last.session.summary.faults = 1 ∧
      last.session.machine.cycleCount = 1 ∧ strictLoop.session.settings.HaltedOn seen ∧
      (strictLoop.session.settings.journal seen).map LogEntry.level = [.warning, .error, .debug] := by
  intro halted seen last
  have chronicle : Chronicle frozenClock absentViewer (fun _ _ => False) strictLoop
      ([] ++ shown frozenClock absentViewer 8 strictLoop ++ halted.produced) last :=
    .cycle (.run 8 .created)
  rw [List.nil_append] at chronicle
  obtain ⟨⟨cycles, faults, _, mark⟩, counted, log, _⟩ :=
    books_follow_snapshots frozenClock absentViewer (fun _ _ => False) strictLoop.session.machine
      strictLoop.session.settings () () (by decide) chronicle
  have made : seen.length = 2 ∧ (seen.countP fun snapshot => snapshot.fault.isSome) = 1 := by
    decide +kernel
  have marked : last.session.summary.haltedOnFault = true := by decide +kernel
  have levels : (last.session.log.toList.filter fun entry => entry.level ≠ .info).map
      LogEntry.level = [.warning, .error, .debug] := by decide +kernel
  have grown := counted fun _ _ impossible => impossible.elim
  have fresh : strictLoop.session.machine.cycleCount = 0 := rfl
  rw [made.1, made.2, fresh] at grown
  rw [log] at levels
  exact ⟨chronicle, cycles.trans made.1, faults.trans made.2, Int.ofNat.inj grown, mark.mp marked,
    levels⟩

end Run

end Chip8
