import Chip8.Proofs.BusTrace
import Chip8.Proofs.Runs

/-!
How long a run goes on. It makes as many cycles as it takes until the limit on cycles is reached or a
cycle asks for a stop, and leaves behind what that many single cycles leave behind; only its log also
tells of its start and its end.
-/

namespace Chip8

namespace Session

/-- The session with another flag and another log. Cycles take no notice of either. -/
def told (running : Bool) (log : Array LogEntry) (session : Session) : Session :=
  { session with running := running, log := log }

theorem passTime_told (session : Session) (running : Bool) (log : Array LogEntry) :
    (session.told running log).passTime = session.passTime.told running log := by
  by_cases ticking : 0 < session.settings.timerHz
  · have alsoTicking : 0 < (session.told running log).settings.timerHz := ticking
    rw [passTime_apply session ticking, passTime_apply _ alsoTicking]
    rfl
  · have still : session.settings.timerHz ≤ 0 := Int.not_lt.mp ticking
    have alsoStill : (session.told running log).settings.timerHz ≤ 0 := still
    rw [passTime, passTime, if_pos still, if_pos alsoStill]

theorem concluded_told (session : Session) (machine : Machine) (snapshot : Snapshot)
    (running : Bool) (log : Array LogEntry) :
    (session.told running log).concluded machine snapshot =
      (session.concluded machine snapshot).told (running && !session.endsWith snapshot)
        (log ++ session.linesOf snapshot) := by
  let ready : Session := { session with machine := machine, cycles := session.cycles + 1 }
  obtain ⟨debt, delay, sound, passed⟩ := ready.passTime_frame
  have passedTold := ready.passTime_told running log
  rw [passed] at passedTold
  change (ready.told running log).passTime.account snapshot = (ready.passTime.account snapshot).told _ _
  rw [passedTold, passed, account_apply, account_apply]
  rfl

end Session

/-- Whether a viewer never breaks a run off. -/
def Viewer.Patient {ρ : Type} (view : Viewer ρ) : Prop :=
  ∀ machine snapshot viewer, (view machine snapshot viewer).1 ≠ .interrupt

namespace Run

variable {κ ρ : Type}

def told (running : Bool) (log : Array LogEntry) (run : Run κ ρ) : Run κ ρ :=
  { run with session := run.session.told running log }

/-- Whether the fault policy asks for a stop after the next cycle. -/
def policyStops (run : Run κ ρ) : Bool :=
  match Session.cycle run.session with
  | .ok snapshot _ => run.session.endsWith snapshot
  | .error _ _ => false

/-- Whether the viewer asks for a stop after the next cycle. -/
def viewerStops (view : Viewer ρ) (run : Run κ ρ) : Bool :=
  match Session.cycle run.session with
  | .ok snapshot session => decide ((view session.machine snapshot run.viewer).1 = .stop)
  | .error _ _ => false

def asksToStop (view : Viewer ρ) (run : Run κ ρ) : Bool := run.policyStops || run.viewerStops view

/-- What the next cycle logs. -/
def linesNext (run : Run κ ρ) : List LogEntry :=
  match Session.cycle run.session with
  | .ok snapshot _ => run.session.linesOf snapshot
  | .error _ _ => []

/-- The run after a number of single cycles. -/
def cycled (view : Viewer ρ) (run : Run κ ρ) : Nat → Run κ ρ
  | 0 => run
  | count + 1 => left (cycle view) (cycled view run count)

/-- Whether a run has come to its end after a number of cycles: the limit on cycles is reached, or the
last of them asked for a stop. -/
def Due (view : Viewer ρ) (before : Run κ ρ) (count : Nat) : Prop :=
  (∃ limit, before.session.settings.maxCycles = some limit ∧
    limit ≤ (cycled view before count).session.cycles) ∨
  ∃ earlier, count = earlier + 1 ∧ asksToStop view (cycled view before earlier) = true

/-- The number of cycles after which a run ends. -/
structure Extent (view : Viewer ρ) (before : Run κ ρ) (count : Nat) : Prop where
  due : Due view before count
  first : ∀ earlier, earlier < count → ¬ Due view before earlier

/-- No cycle of the run is broken off. -/
def Steady (view : Viewer ρ) (before : Run κ ρ) : Prop :=
  ∀ count, ∃ snapshot after, cycle view (cycled view before count) = .ok snapshot after

/-- The result of a call with another run in it. -/
def adjusted {α : Type} (change : Run κ ρ → Run κ ρ) :
    EStateM.Result Escape (Run κ ρ) α → EStateM.Result Escape (Run κ ρ) α
  | .ok value run => .ok value (change run)
  | .error escape run => .error escape (change run)

theorem reached_adjusted {α : Type} (change : Run κ ρ → Run κ ρ)
    (result : EStateM.Result Escape (Run κ ρ) α) :
    reached (adjusted change result) = change (reached result) := by
  cases result <;> rfl

section Cycles

variable (view : Viewer ρ)

theorem cycle_atTime (run : Run κ ρ) (time : κ) :
    cycle view { run with clock := time } =
      adjusted (fun after => { after with clock := time }) (cycle view run) := by
  rw [cycle, cycle]
  dsimp only
  cases Session.cycle run.session with
  | error problem session => rfl
  | ok snapshot session =>
      dsimp only
      cases (view session.machine snapshot run.viewer).1 <;> rfl

theorem cycle_told (run : Run κ ρ) (running : Bool) (log : Array LogEntry) :
    cycle view (run.told running log) =
      adjusted (told (running && !run.asksToStop view) (log ++ run.linesNext)) (cycle view run) := by
  have step := Session.cycle_apply run.session
  have sameStep := Session.cycle_apply (run.session.told running log)
  have sameMachine : (run.session.told running log).machine = run.session.machine := rfl
  have sameSession : (run.told running log).session = run.session.told running log := rfl
  rw [sameMachine] at sameStep
  rw [cycle, cycle, asksToStop, policyStops, viewerStops, linesNext, sameSession, step, sameStep]
  cases Machine.step run.session.machine with
  | error problem machine => simp [adjusted, told, Session.told]
  | ok snapshot machine =>
      dsimp only
      rw [Session.concluded_told]
      have sameView : view ((run.session.concluded machine snapshot).told
          (running && !run.session.endsWith snapshot) (log ++ run.session.linesOf snapshot)).machine
            snapshot (run.told running log).viewer =
          view (run.session.concluded machine snapshot).machine snapshot run.viewer := rfl
      rw [sameView]
      cases answer : (view (run.session.concluded machine snapshot).machine snapshot run.viewer).1 with
      | proceed | interrupt | stop => simp [adjusted, told, Session.told, Session.stop]

theorem cycled_told (run : Run κ ρ) (count : Nat) :
    ∃ entries : List LogEntry, ∀ running log,
      cycled view (run.told running log) count =
        (cycled view run count).told
          (running && (List.range count).all fun earlier => !asksToStop view (cycled view run earlier))
          (log ++ entries) := by
  induction count with
  | zero => exact ⟨[], fun running log => by simp [cycled]⟩
  | succ count ih =>
      obtain ⟨entries, same⟩ := ih
      refine ⟨entries ++ (cycled view run count).linesNext, ?_⟩
      intro running log
      have joined : log ++ entries ++ (cycled view run count).linesNext =
          log ++ (entries ++ (cycled view run count).linesNext) :=
        Array.toList_inj.mp (by simp)
      rw [cycled, same, left, cycle_told, reached_adjusted, joined]
      simp [cycled, left, List.range_succ, Bool.and_assoc]

theorem cycled_atTime (run : Run κ ρ) (time : κ) (count : Nat) :
    cycled view { run with clock := time } count = { cycled view run count with clock := time } := by
  induction count with
  | zero => rfl
  | succ count ih => rw [cycled, ih, left, cycle_atTime, reached_adjusted, cycled, left]

variable {view}

theorem cycled_next {run after : Run κ ρ} {snapshot : Snapshot}
    (ran : cycle view run = .ok snapshot after) (count : Nat) :
    cycled view after count = cycled view run (count + 1) := by
  induction count with
  | zero => rw [cycled, cycled, cycled, left, ran, reached]
  | succ count ih => rw [cycled, ih, ← cycled]

theorem Steady.next {run after : Run κ ρ} {snapshot : Snapshot} (steady : Steady view run)
    (ran : cycle view run = .ok snapshot after) : Steady view after := by
  intro count
  rw [cycled_next ran]
  exact steady (count + 1)

theorem Steady.atTime {run : Run κ ρ} (steady : Steady view run) (time : κ) :
    Steady view { run with clock := time } := by
  intro count
  obtain ⟨snapshot, after, ran⟩ := steady count
  rw [cycled_atTime, cycle_atTime, ran]
  exact ⟨_, _, rfl⟩

theorem Steady.told {run : Run κ ρ} (steady : Steady view run) (running : Bool)
    (log : Array LogEntry) : Steady view (run.told running log) := by
  intro count
  obtain ⟨snapshot, after, ran⟩ := steady count
  obtain ⟨entries, same⟩ := cycled_told view run count
  rw [same, cycle_told, ran]
  exact ⟨_, _, rfl⟩

theorem play_cycled {fuel : Nat} {run : Run κ ρ} {ending : EStateM.Result Escape (Run κ ρ) Bool}
    (played : Play view fuel run ending) (steady : Steady view run) :
    ∃ count time, (∀ earlier, earlier < count → (cycled view run earlier).session.goesOn = true) ∧
      ((count = fuel ∧ ending = .ok false { cycled view run count with clock := time }) ∨
        (count < fuel ∧ (cycled view run count).session.goesOn = false ∧
          ending = .ok true { cycled view run count with clock := time })) := by
  induction played with
  | spent run => exact ⟨0, run.clock, by omega, .inl ⟨rfl, rfl⟩⟩
  | @rests fuel run going => exact ⟨0, run.clock, by omega, .inr ⟨by omega, going, rfl⟩⟩
  | @plays fuel run after snapshot time ending going ran played ih =>
      obtain ⟨count, last, goesOn, ended⟩ := ih ((steady.next ran).atTime time)
      simp only [cycled_atTime, cycled_next ran] at goesOn ended
      refine ⟨count + 1, last, ?_, ?_⟩
      · intro earlier sooner
        cases earlier with
        | zero => exact going
        | succ earlier => exact goesOn earlier (by omega)
      · rcases ended with ⟨spent, ended⟩ | ⟨within, rests, ended⟩
        · exact .inl ⟨by omega, ended⟩
        · exact .inr ⟨by omega, rests, ended⟩
  | @escapes fuel run after escape going ran =>
      obtain ⟨snapshot, next, ok⟩ := steady 0
      rw [cycled, ran] at ok
      cases ok

theorem cycle_ok {run after : Run κ ρ} {snapshot : Snapshot}
    (ran : cycle view run = .ok snapshot after) :
    ∃ machine running, Machine.step run.session.machine = .ok snapshot machine ∧
      after.session = { run.session.concluded machine snapshot with running := running } := by
  rw [cycle, Session.cycle_apply] at ran
  cases stepped : Machine.step run.session.machine with
  | error problem machine =>
      rw [stepped] at ran
      cases ran
  | ok told machine =>
      rw [stepped] at ran
      dsimp only at ran
      cases answer : (view (run.session.concluded machine told).machine told run.viewer).1 with
      | interrupt =>
          rw [answer] at ran
          cases ran
      | proceed | stop =>
          rw [answer] at ran
          cases ran
          exact ⟨machine, _, rfl, rfl⟩

/-- Every cycle counts, and the settings stay. -/
theorem Steady.cycled_counts {before : Run κ ρ} (steady : Steady view before) (count : Nat) :
    (cycled view before count).session.cycles = before.session.cycles + count ∧
      (cycled view before count).session.settings = before.session.settings := by
  induction count with
  | zero => exact ⟨rfl, rfl⟩
  | succ count ih =>
      obtain ⟨snapshot, after, ran⟩ := steady count
      obtain ⟨machine, running, _, same⟩ := cycle_ok ran
      obtain ⟨debt, delay, sound, concluded⟩ :=
        (cycled view before count).session.concluded_apply machine snapshot
      rw [cycled, left, ran, reached, same, concluded]
      exact ⟨by dsimp only; omega, ih.2⟩

/-- A run that was started goes on after a number of cycles if no end was due until then. -/
theorem goesOn_iff {before : Run κ ρ} (steady : Steady view before) (log : Array LogEntry)
    (count : Nat) : (cycled view (before.told true log) count).session.goesOn = true ↔
      ∀ earlier, earlier ≤ count → ¬ Due view before earlier := by
  obtain ⟨entries, same⟩ := cycled_told view before count
  obtain ⟨counted, settings⟩ := steady.cycled_counts count
  have goesOn : (cycled view (before.told true log) count).session.goesOn =
      (((List.range count).all fun earlier => !asksToStop view (cycled view before earlier)) &&
        !(cycled view before count).session.exhausted) := by
    rw [same]
    rfl
  rw [goesOn, Session.exhausted, settings]
  constructor
  · intro going earlier sooner due
    simp only [Bool.and_eq_true, List.all_eq_true, List.mem_range, Bool.not_eq_true'] at going
    rcases due with ⟨limit, limited, reached⟩ | ⟨last, rfl, asked⟩
    · rw [(steady.cycled_counts earlier).1] at reached
      rw [limited, counted] at going
      simp only [decide_eq_false_iff_not] at going
      omega
    · rw [going.1 last (by omega)] at asked
      cases asked
  · intro undue
    simp only [Bool.and_eq_true, List.all_eq_true, List.mem_range, Bool.not_eq_true']
    constructor
    · intro earlier sooner
      cases asked : asksToStop view (cycled view before earlier) with
      | false => rfl
      | true => exact absurd (.inr ⟨earlier, rfl, asked⟩) (undue (earlier + 1) (by omega))
    · cases limited : before.session.settings.maxCycles with
      | none => rfl
      | some limit =>
          rw [decide_eq_false_iff_not]
          intro reached
          exact undue count (Nat.le_refl count) (.inl ⟨limit, limited, reached⟩)

/-- What a run leaves behind: what its cycles leave behind, with its start and its end in the log. Without
an end it makes as many cycles as it is given fuel. -/
theorem run_cycled (clock : Clock κ) (fuel : Nat) {before : Run κ ρ} (steady : Steady view before)
    (paced : before.session.settings.hasPeriod = true) :
    ∃ (count : Nat) (after : Run κ ρ) (entries : List LogEntry),
      (∀ earlier, earlier < count → ¬ Due view before earlier) ∧
      (cycled view before count).session.log = before.session.log ++ entries ∧
      after.viewer = (cycled view before count).viewer ∧
      let last : Session :=
        { (cycled view before count).session with log := (start before.session).log ++ entries }
      ((count = fuel ∧ after.session = last.stop ∧ run clock view fuel before = .ok none after) ∨
        (count < fuel ∧ Due view before count ∧ after.session = finish last ∧
          run clock view fuel before = .ok (some after.session.summary) after)) := by
  obtain ⟨begun, ending, played, ended⟩ := run_play clock view fuel paced
  let log := (start before.session).log
  have started : Play view fuel { before.told true log with clock := begun } ending := played
  obtain ⟨count, time, goesOn, rests⟩ :=
    play_cycled started ((steady.told true log).atTime begun)
  simp only [cycled_atTime, goesOn_iff steady] at goesOn rests
  obtain ⟨entries, same⟩ := cycled_told view before count
  have undue : ∀ earlier, earlier < count → ¬ Due view before earlier := by
    intro earlier sooner
    exact goesOn earlier sooner earlier (Nat.le_refl earlier)
  have logged : (cycled view before count).session.log = before.session.log ++ entries :=
    congrArg (fun run => run.session.log) (same before.session.running before.session.log)
  let last : Session := { (cycled view before count).session with log := log ++ entries }
  rw [ended]
  rcases rests with ⟨spent, rfl⟩ | ⟨within, rests, rfl⟩
  · refine ⟨count, { cycled view before count with clock := time, session := last.stop }, entries,
      undue, logged, rfl, .inl ⟨spent, rfl, ?_⟩⟩
    rw [same]
    rfl
  · refine ⟨count, { cycled view before count with clock := time, session := finish last }, entries,
      undue, logged, rfl, .inr ⟨within, ?_, rfl, ?_⟩⟩
    · rw [Bool.eq_false_iff, ne_eq, goesOn_iff steady] at rests
      refine Classical.byContradiction fun notDue => rests ?_
      intro earlier sooner
      rcases Nat.lt_or_eq_of_le sooner with before | rfl
      · exact undue earlier before
      · exact notDue
    · rw [same]
      rfl

theorem cycle_of_step {run : Run κ ρ} {snapshot : Snapshot} {machine : Machine}
    (patient : view.Patient) (stepped : Machine.step run.session.machine = .ok snapshot machine) :
    ∃ after, cycle view run = .ok snapshot after := by
  have noInterrupt := patient (run.session.concluded machine snapshot).machine snapshot run.viewer
  rw [cycle, Session.cycle_apply, stepped]
  dsimp only
  cases answer : (view (run.session.concluded machine snapshot).machine snapshot run.viewer).1 with
  | interrupt => exact absurd answer noInterrupt
  | proceed | stop => exact ⟨_, rfl⟩

/-- A cycle leaves the machine to which its step came, with other timers. -/
theorem cycle_machine {run after : Run κ ρ} {snapshot : Snapshot}
    (ran : cycle view run = .ok snapshot after) :
    ∃ machine delay sound, Machine.step run.session.machine = .ok snapshot machine ∧
      after.session.machine = machine.withTimers delay sound := by
  obtain ⟨machine, running, stepped, same⟩ := cycle_ok ran
  obtain ⟨debt, delay, sound, concluded⟩ := run.session.concluded_apply machine snapshot
  refine ⟨machine, delay, sound, stepped, ?_⟩
  rw [same, concluded]

/-- On memories and with a patient viewer nothing breaks a cycle off. -/
theorem steady_of_memoryOnly {before : Run κ ρ}
    (memories : before.session.machine.bus.MemoryOnly) (patient : view.Patient) :
    Steady view before := by
  have cycles (run : Run κ ρ) (memories : run.session.machine.bus.MemoryOnly) :
      ∃ snapshot after, cycle view run = .ok snapshot after := by
    obtain ⟨snapshot, machine, stepped⟩ := Machine.exists_step memories
    exact ⟨snapshot, cycle_of_step patient stepped⟩
  have kept (count : Nat) : (cycled view before count).session.machine.bus.MemoryOnly := by
    induction count with
    | zero => exact memories
    | succ count ih =>
        obtain ⟨snapshot, after, ran⟩ := cycles _ ih
        obtain ⟨machine, delay, sound, stepped, same⟩ := cycle_machine ran
        have bus : (machine.withTimers delay sound).bus = machine.bus := rfl
        rw [cycled, left, ran, reached, same, bus, (Machine.cycle_of_step stepped).bus]
        exact ih
  intro count
  exact cycles _ (kept count)

end Cycles

theorem Extent.unique {view : Viewer ρ} {before : Run κ ρ} {first second : Nat}
    (extent : Extent view before first) (due : Due view before second)
    (undue : ∀ earlier, earlier < second → ¬ Due view before earlier) : second = first := by
  rcases Nat.lt_trichotomy second first with sooner | same | later
  · exact absurd due (extent.first second sooner)
  · exact same
  · exact absurd extent.due (undue first later)

theorem exists_extent {view : Viewer ρ} {before : Run κ ρ} {count : Nat}
    (due : Due view before count) : ∃ first, first ≤ count ∧ Extent view before first := by
  induction count using Nat.strongRecOn with
  | ind count ih =>
      by_cases earliest : ∀ earlier, earlier < count → ¬ Due view before earlier
      · exact ⟨count, Nat.le_refl count, due, earliest⟩
      · simp only [Classical.not_forall, Classical.not_not] at earliest
        obtain ⟨earlier, sooner, already⟩ := earliest
        obtain ⟨first, within, extent⟩ := ih earlier sooner already
        exact ⟨first, by omega, extent⟩

/-- The extent of a run. It makes the least number of cycles after which an end is due, whatever was
asked of it before it started, and leaves behind what as many single cycles do; without such a number
it never ends. A limit on cycles always ends it, and is passed only by cycles from before. -/
theorem run_extent (clock : Clock κ) (view : Viewer ρ) (before : Run κ ρ)
    (memories : before.session.machine.bus.MemoryOnly)
    (paced : before.session.settings.hasPeriod = true) (patient : view.Patient) :
    (∀ count fuel, Extent view before count → count < fuel → ∃ after entries,
      run clock view fuel before = .ok (some after.session.summary) after ∧
      (cycled view before count).session.log = before.session.log ++ (entries : List LogEntry) ∧
      after.session = finish
        { (cycled view before count).session with log := (start before.session).log ++ entries } ∧
      after.session.running = false ∧
      after.viewer = (cycled view before count).viewer) ∧
    ((∀ count, ¬ Due view before count) → ∀ fuel, ∃ after,
      run clock view fuel before = .ok none after ∧
      after.session.cycles = before.session.cycles + fuel) ∧
    (∀ limit, before.session.settings.maxCycles = some limit → ∃ count, Extent view before count ∧
      ((cycled view before count).session.cycles : Int) ≤ max limit before.session.cycles) ∧
    ∀ fuel, run clock view fuel { before with session := before.session.stop } =
      run clock view fuel before := by
  have steady := steady_of_memoryOnly memories patient
  refine ⟨?_, ?_, ?_, ?_⟩
  · intro count fuel extent enough
    obtain ⟨made, after, entries, undue, log, viewer, ended⟩ := run_cycled clock fuel steady paced
    rcases ended with ⟨spent, _⟩ | ⟨_, due, session, ended⟩
    · exact absurd extent.due (undue count (by omega))
    · obtain rfl := extent.unique due undue
      refine ⟨after, entries, ended, log, session, ?_, viewer⟩
      rw [session]
      rfl
  · intro endless fuel
    obtain ⟨made, after, entries, _, _, _, ended⟩ := run_cycled clock fuel steady paced
    rcases ended with ⟨rfl, session, ended⟩ | ⟨_, due, _⟩
    · refine ⟨after, ended, ?_⟩
      rw [session]
      exact (steady.cycled_counts made).1
    · exact absurd due (endless made)
  · intro limit limited
    have due : Due view before (limit - before.session.cycles).toNat := by
      refine .inl ⟨limit, limited, ?_⟩
      rw [(steady.cycled_counts _).1]
      omega
    obtain ⟨count, within, extent⟩ := exists_extent due
    refine ⟨count, extent, ?_⟩
    rw [(steady.cycled_counts count).1]
    omega
  · intro fuel
    rfl

theorem absentViewer_patient : absentViewer.Patient := by
  intro machine snapshot viewer answer
  cases answer

/-- A loop that comes to its fault in its second cycle, under a policy that halts there. -/
def haltingLoop : Run Unit Unit where
  session := {
    machine := { (faultingLoop 10 4 0 60).machine with state := { pc := 2 } }
    settings := { cyclesPerSecond := 0, faultPolicy := .halt, maxCycles := some 4 } }
  clock := ()
  viewer := ()

theorem run_extent_halting_loop :
    haltingLoop.session.machine.bus.MemoryOnly ∧ haltingLoop.session.settings.hasPeriod = true ∧
      Extent absentViewer haltingLoop 2 ∧
      (∃ after, run frozenClock absentViewer 8 haltingLoop = .ok (some after.session.summary) after ∧
        after.session.cycles = 2 ∧ after.session.haltedOnFault = true ∧ after.session.running = false) ∧
      run frozenClock absentViewer 8 { haltingLoop with session := haltingLoop.session.stop } =
        run frozenClock absentViewer 8 haltingLoop := by
  have memories : haltingLoop.session.machine.bus.MemoryOnly := faultingLoop_memoryOnly 10 4 0 60
  have paced : haltingLoop.session.settings.hasPeriod = true := by decide
  have cycles : (cycled absentViewer haltingLoop 0).session.cycles = 0 ∧
      (cycled absentViewer haltingLoop 1).session.cycles = 1 ∧
      (cycled absentViewer haltingLoop 2).session.cycles = 2 := by decide +kernel
  have asks : asksToStop absentViewer (cycled absentViewer haltingLoop 0) = false ∧
      asksToStop absentViewer (cycled absentViewer haltingLoop 1) = true := by decide +kernel
  have extent : Extent absentViewer haltingLoop 2 := by
    refine ⟨.inr ⟨1, rfl, asks.2⟩, ?_⟩
    rintro earlier sooner (⟨limit, limited, reached⟩ | ⟨last, rfl, asked⟩)
    · cases limited
      obtain rfl | rfl : earlier = 0 ∨ earlier = 1 := by omega
      · rw [cycles.1] at reached
        omega
      · rw [cycles.2.1] at reached
        omega
    · obtain rfl : last = 0 := by omega
      rw [asks.1] at asked
      cases asked
  have halted : (cycled absentViewer haltingLoop 2).session.haltedOnFault = true := by decide +kernel
  obtain ⟨ends, _, _, restarts⟩ :=
    run_extent frozenClock absentViewer haltingLoop memories paced absentViewer_patient
  obtain ⟨after, entries, ran, _, session, rests, _⟩ := ends 2 8 extent (by omega)
  refine ⟨memories, paced, extent, ⟨after, ran, ?_, ?_, rests⟩, restarts 8⟩
  · rw [session]
    exact cycles.2.2
  · rw [session]
    exact halted

end Run

end Chip8
