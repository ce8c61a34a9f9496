import Mathlib.Logic.Relation
import Chip8.Proofs.Extent

/-!
A fetch that fails. It leaves the machine as it is, so that every later cycle fails in the same way, and
a run that has come to it goes on without an effect. The limit on consecutive faults is there to end it.
-/

namespace Chip8

namespace Machine

/-- Whether two machines are about to fetch from the same place of the same memory. -/
structure SamePlace (machine other : Machine) : Prop where
  pc : other.state.pc = machine.state.pc
  devices : other.bus.devices = machine.bus.devices
  mappings : other.bus.mappings = machine.bus.mappings

/-- One moment of a machine: a cycle, or any change from outside that leaves its program counter and its
memory alone. -/
inductive Lingers : Machine → Machine → Prop
  | step (machine : Machine) : Lingers machine (step.left machine)
  | outside {machine other : Machine} : machine.SamePlace other → Lingers machine other

variable {machine other : Machine}

theorem SamePlace.trans {last : Machine} (first : machine.SamePlace other)
    (second : other.SamePlace last) : machine.SamePlace last where
  pc := second.pc.trans first.pc
  devices := second.devices.trans first.devices
  mappings := second.mappings.trans first.mappings

/-- A failing fetch is reported in the same way from wherever the fetch would be the same. -/
theorem FetchFails.steps (fails : machine.FetchFails) :
    ∃ report symbol, ∀ other, machine.SamePlace other → ∃ snapshot,
      step other = .ok snapshot (other.logging []) ∧ snapshot.fault = some report ∧
        snapshot.symbol = symbol := by
  obtain ⟨problem, after, failed⟩ := fails
  rw [fetch_apply] at failed
  rcases fetched : machine.bus.block machine.state.pc 2 with ⟨accesses, cause | bytes⟩
  · obtain ⟨overreach, rfl⟩ := Bus.block_error (congrArg Prod.snd fetched)
    let report := (Fault.outOfBounds overreach).report machine.state.pc none
    refine ⟨report, (portrait machine.state.pc none (some report) machine).symbol, ?_⟩
    intro other same
    have refetched : other.bus.block other.state.pc 2 =
        (accesses, .error (.fault (.outOfBounds overreach))) := by
      rw [Bus.block_congr same.devices same.mappings, same.pc, fetched]
    refine ⟨_, step_of_cycle (.fetchFault refetched), ?_, ?_⟩
    · rw [portrait, same.pc]
    · rw [portrait, portrait, same.pc]
  · rw [fetched] at failed
    cases failed

theorem FetchFails.lingers (fails : machine.FetchFails)
    (lingers : Relation.ReflTransGen Lingers machine other) : machine.SamePlace other := by
  obtain ⟨report, symbol, steps⟩ := fails.steps
  induction lingers with
  | refl => exact ⟨rfl, rfl, rfl⟩
  | tail _ moved ih =>
      cases moved with
      | step =>
          obtain ⟨snapshot, stepped, _⟩ := steps _ ih
          rw [Action.left, stepped]
          exact ih.trans ⟨rfl, rfl, rfl⟩
      | outside same => exact ih.trans same

end Machine

namespace Run

variable {κ ρ : Type} {view : Viewer ρ} {before : Run κ ρ}

/-- A run that is stuck on a fetch: the machine is what it was, apart from timers and log, and every
cycle has added to the streak. -/
structure Stuck (before : Run κ ρ) (count : Nat) (run : Run κ ρ) : Prop where
  machine : ∃ delay sound, run.session.machine.logging [] =
    (before.session.machine.logging []).withTimers delay sound
  settings : run.session.settings = before.session.settings
  streak : run.session.streak = before.session.streak + count
  halted : run.session.haltedOnFault = true ↔ before.session.haltedOnFault = true ∨
    0 < count ∧ before.session.settings.givesUp (before.session.streak + count) = true

namespace Stuck

variable {count : Nat} {run after : Run κ ρ} {snapshot : Snapshot}

theorem refl (before : Run κ ρ) : Stuck before 0 before := by
  refine ⟨⟨_, _, rfl⟩, rfl, rfl, ?_⟩
  simp

theorem samePlace (stuck : Stuck before count run) :
    before.session.machine.SamePlace run.session.machine := by
  obtain ⟨delay, sound, same⟩ := stuck.machine
  constructor
  · exact congrArg (fun machine => machine.state.pc) same
  · exact congrArg (fun machine => machine.bus.devices) same
  · exact congrArg (fun machine => machine.bus.mappings) same

theorem stepped (stuck : Stuck before count run) (fails : before.session.machine.FetchFails) :
    ∃ snapshot, Machine.step run.session.machine =
      .ok snapshot (run.session.machine.logging []) ∧ snapshot.fault.isSome = true := by
  obtain ⟨report, symbol, steps⟩ := fails.steps
  obtain ⟨snapshot, stepped, faulted, _⟩ := steps _ stuck.samePlace
  exact ⟨snapshot, stepped, by rw [faulted]; rfl⟩

theorem endsWith (stuck : Stuck before count run) (faulted : snapshot.fault.isSome = true) :
    run.session.endsWith snapshot =
      before.session.settings.givesUp (before.session.streak + (count + 1)) := by
  rw [Session.endsWith, Session.streakWith, faulted, Bool.true_and, if_pos rfl, stuck.settings,
    stuck.streak, Nat.add_assoc]

theorem policyStops (stuck : Stuck before count run) (fails : before.session.machine.FetchFails) :
    run.policyStops = before.session.settings.givesUp (before.session.streak + (count + 1)) := by
  obtain ⟨snapshot, stepped, faulted⟩ := stuck.stepped fails
  rw [Run.policyStops, Session.cycle_apply, stepped]
  exact stuck.endsWith faulted

theorem next (stuck : Stuck before count run) (fails : before.session.machine.FetchFails)
    (ran : cycle view run = .ok snapshot after) : Stuck before (count + 1) after := by
  obtain ⟨shown, stepped, faulted⟩ := stuck.stepped fails
  obtain ⟨machine, running, stepped', same⟩ := cycle_ok ran
  rw [stepped] at stepped'
  cases stepped'
  obtain ⟨debt, delay, sound, concluded⟩ :=
    run.session.concluded_apply (run.session.machine.logging []) snapshot
  obtain ⟨_, _, machine⟩ := stuck.machine
  rw [concluded] at same
  constructor
  case machine =>
    refine ⟨delay, sound, ?_⟩
    rw [same, machine]
    rfl
  case settings =>
    rw [same]
    exact stuck.settings
  case streak =>
    rw [same]
    dsimp only
    rw [Session.streakWith, faulted, if_pos rfl, stuck.streak, Nat.add_assoc]
  case halted =>
    rw [same]
    dsimp only
    rw [Bool.or_eq_true, stuck.endsWith faulted, stuck.halted]
    constructor
    · rintro ((already | ⟨_, gaveUp⟩) | givesUp)
      · exact .inl already
      · exact .inr ⟨by omega, RunSettings.givesUp_mono (by omega) gaveUp⟩
      · exact .inr ⟨by omega, givesUp⟩
    · rintro (already | ⟨_, givesUp⟩)
      · exact .inl (.inl already)
      · exact .inr givesUp

end Stuck

theorem stuck_cycled (fails : before.session.machine.FetchFails) (patient : view.Patient)
    (count : Nat) : Stuck before count (cycled view before count) := by
  induction count with
  | zero => exact .refl before
  | succ count ih =>
      obtain ⟨snapshot, stepped, _⟩ := ih.stepped fails
      obtain ⟨after, ran⟩ := cycle_of_step patient stepped
      rw [cycled, left, ran]
      exact ih.next fails ran

theorem steady_of_fetchFails (fails : before.session.machine.FetchFails) (patient : view.Patient) :
    Steady view before := by
  intro count
  obtain ⟨snapshot, stepped, _⟩ := (stuck_cycled fails patient count).stepped fails
  exact ⟨snapshot, cycle_of_step patient stepped⟩

section Endings

variable (fails : before.session.machine.FetchFails) (patient : view.Patient)
  (continues : before.session.settings.faultPolicy = .continue)

include continues in
theorem givesUp_stuck (streak : Nat) : before.session.settings.givesUp streak = true ↔
    before.session.settings.maxConsecutiveFaults ≠ 0 ∧
      before.session.settings.maxConsecutiveFaults ≤ streak := by
  rw [RunSettings.givesUp, continues, decide_eq_true_eq]

/-- How a stuck run ends that is `count` faults away from the limit: there, or earlier for another
reason. -/
structure StuckEnd (view : Viewer ρ) (before : Run κ ρ) (count made : Nat) (last : Run κ ρ) : Prop where
  machine : ∃ delay sound, last.session.machine.logging [] =
    (before.session.machine.logging []).withTimers delay sound
  cycles : last.session.cycles = before.session.cycles + made
  within : made ≤ count
  halted : made = count → last.session.haltedOnFault = true
  early : made < count → last.session.haltedOnFault = before.session.haltedOnFault ∧
    ((∃ limit, before.session.settings.maxCycles = some limit ∧ limit ≤ last.session.cycles) ∨
      ∃ earlier, made = earlier + 1 ∧ viewerStops view (cycled view before earlier) = true)

include fails patient continues in
theorem run_stuck_limited (clock : Clock κ) (paced : before.session.settings.hasPeriod = true)
    {count fuel : Nat} (positive : 0 < count) (enough : count < fuel)
    (left : (before.session.streak + count : Int) = before.session.settings.maxConsecutiveFaults) :
    ∃ made last, run clock view fuel before = .ok (some last.session.summary) last ∧
      StuckEnd view before count made last := by
  have stuck := stuck_cycled fails patient
  have steady := steady_of_fetchFails fails patient
  have stops (earlier : Nat) : policyStops (cycled view before earlier) = true ↔
      count ≤ earlier + 1 := by
    rw [(stuck earlier).policyStops fails, givesUp_stuck continues]
    omega
  have dueByThen : Due view before count := by
    refine .inr ⟨count - 1, by omega, ?_⟩
    rw [asksToStop, (stops (count - 1)).mpr (by omega), Bool.true_or]
  obtain ⟨made, last, _, undue, _, _, ended⟩ := run_cycled clock fuel steady paced
  have within : made ≤ count := by
    refine Classical.byContradiction fun beyond => ?_
    exact undue count (by omega) dueByThen
  rcases ended with ⟨spent, _⟩ | ⟨_, due, session, ended⟩
  · omega
  · have halted := (stuck made).halted
    rw [givesUp_stuck continues] at halted
    refine ⟨made, last, ended, ?_⟩
    constructor
    case machine =>
      rw [session]
      exact (stuck made).machine
    case cycles =>
      rw [session]
      exact (steady.cycled_counts made).1
    case within => exact within
    case halted =>
      rintro rfl
      rw [session]
      exact halted.mpr (.inr ⟨positive, by omega, by omega⟩)
    case early =>
      intro early
      rw [session]
      constructor
      · rw [Bool.eq_iff_iff]
        refine halted.trans ⟨?_, .inl⟩
        rintro (already | ⟨_, _, reached⟩)
        · exact already
        · omega
      · rcases due with limited | ⟨earlier, rfl, asked⟩
        · exact .inl limited
        · rw [asksToStop, Bool.or_eq_true, stops] at asked
          rcases asked with gaveUp | stopped
          · omega
          · exact .inr ⟨earlier, rfl, stopped⟩

include fails patient continues in
theorem not_asksToStop_of_unlimited (unlimited : before.session.settings.maxConsecutiveFaults = 0)
    (unstopped : ∀ count, viewerStops view (cycled view before count) = false) (count : Nat) :
    asksToStop view (cycled view before count) = false := by
  rw [asksToStop, unstopped, Bool.or_false, Bool.eq_false_iff, ne_eq,
    (stuck_cycled fails patient count).policyStops fails, givesUp_stuck continues]
  rintro ⟨limited, _⟩
  exact limited unlimited

end Endings

/-- A fetch that fails is the end of what a machine does. As long as the program counter and the memory
stay, every later cycle fails like it and changes nothing. A run that continues over faults is then
halted by as many cycles as are left up to the limit on consecutive faults, unless it ends before that
for another reason, and without any limit it never ends. -/
theorem fetch_fault_ends_by_limit (clock : Clock κ) (view : Viewer ρ) (before : Run κ ρ)
    (patient : view.Patient) {snapshot : Snapshot} {after : Machine} {report : FaultReport}
    (stepped : Machine.step before.session.machine = .ok snapshot after)
    (faulted : snapshot.fault = some report) (unfetched : report.opcode = none) :
    (∀ later, Relation.ReflTransGen Machine.Lingers before.session.machine later → ∃ again,
      Machine.step later = .ok again (later.logging []) ∧
      again.fault = some report ∧ again.symbol = snapshot.symbol) ∧
    (before.session.settings.faultPolicy = .continue →
      before.session.settings.hasPeriod = true →
      ∀ count fuel : Nat, 0 < count → count < fuel →
        (before.session.streak + count : Int) = before.session.settings.maxConsecutiveFaults →
        ∃ made last, run clock view fuel before = .ok (some last.session.summary) last ∧
          StuckEnd view before count made last) ∧
    (before.session.settings.faultPolicy = .continue →
      before.session.settings.maxConsecutiveFaults = 0 →
      before.session.settings.maxCycles = none →
      (∀ count, viewerStops view (cycled view before count) = false) →
      (∀ count, (cycled view { before with session := start before.session } count).session.running =
        true) ∧
      (before.session.settings.hasPeriod = true → ∀ fuel, ∃ last,
        run clock view fuel before = .ok none last ∧
        last.session.cycles = before.session.cycles + fuel)) := by
  have fails : before.session.machine.FetchFails :=
    ((Machine.cycle_of_step stepped).faultTrace faulted).opcode.mp unfetched
  refine ⟨?_, ?_, ?_⟩
  · intro later lingers
    obtain ⟨found, symbol, steps⟩ := fails.steps
    obtain ⟨shown, own, sameFault, sameSymbol⟩ := steps _ ⟨rfl, rfl, rfl⟩
    obtain ⟨again, ran, faultedAgain, symbolAgain⟩ := steps _ (fails.lingers lingers)
    rw [stepped] at own
    cases own
    rw [faulted] at sameFault
    exact ⟨again, ran, faultedAgain.trans sameFault.symm, symbolAgain.trans sameSymbol.symm⟩
  · intro continues paced count fuel positive enough left
    exact run_stuck_limited fails patient continues clock paced positive enough left
  · intro continues unlimited endless unstopped
    have unasked := not_asksToStop_of_unlimited fails patient continues unlimited unstopped
    constructor
    · intro count
      obtain ⟨entries, same⟩ := cycled_told view before count
      have started := same true (start before.session).log
      rw [show { before with session := start before.session } =
        before.told true (start before.session).log from rfl, started]
      simp [told, Session.told, unasked]
    · intro paced fuel
      have steady := steady_of_fetchFails fails patient
      obtain ⟨made, last, _, _, _, _, ended⟩ := run_cycled clock fuel steady paced
      rcases ended with ⟨rfl, session, ended⟩ | ⟨_, due, _⟩
      · refine ⟨last, ended, ?_⟩
        rw [session]
        exact (steady.cycled_counts made).1
      · rcases due with ⟨limit, limited, _⟩ | ⟨earlier, _, asked⟩
        · rw [endless] at limited
          cases limited
        · rw [unasked] at asked
          cases asked

theorem viewerStops_absent (run : Run κ Unit) : run.viewerStops absentViewer = false := by
  rw [viewerStops]
  cases Session.cycle run.session <;> rfl

/-- A program that has run past its four bytes of memory, after one fault. -/
def runaway (limit : Int) : Run Unit Unit where
  session := {
    machine := { (faultingLoop 10 4 0 60).machine with state := { pc := 4, delayTimer := 10 } }
    settings := { cyclesPerSecond := 0, maxConsecutiveFaults := limit }
    streak := 1 }
  clock := ()
  viewer := ()

theorem fetch_fault_ends_by_limit_runaway :
    (∃ snapshot after report, Machine.step (runaway 3).session.machine = .ok snapshot after ∧
      snapshot.fault = some report ∧ report.opcode = none) ∧
    (∃ last, run frozenClock absentViewer 8 (runaway 3) = .ok (some last.session.summary) last ∧
      last.session.cycles = 2 ∧ last.session.haltedOnFault = true) ∧
    ∀ fuel, ∃ last, run frozenClock absentViewer fuel (runaway 0) = .ok none last ∧
      last.session.cycles = fuel := by
  have unmapped : ∃ snapshot after, Machine.step (runaway 3).session.machine = .ok snapshot after ∧
      snapshot.fault = some ((Fault.outOfBounds (.unmapped 4)).report 4 none) := ⟨_, _, rfl, rfl⟩
  obtain ⟨snapshot, after, stepped, unmapped⟩ := unmapped
  obtain ⟨_, halts, _⟩ := fetch_fault_ends_by_limit frozenClock absentViewer (runaway 3)
    absentViewer_patient stepped unmapped rfl
  obtain ⟨_, _, goesOn⟩ := fetch_fault_ends_by_limit frozenClock absentViewer (runaway 0)
    absentViewer_patient stepped unmapped rfl
  refine ⟨⟨snapshot, after, _, stepped, unmapped, rfl⟩, ?_, ?_⟩
  · obtain ⟨made, last, ran, ended⟩ := halts rfl (by decide) 2 8 (by omega) (by omega) rfl
    have whole : made = 2 := by
      refine Nat.le_antisymm ended.within (Nat.not_lt.mp fun sooner => ?_)
      rcases (ended.early sooner).2 with ⟨_, limited, _⟩ | ⟨_, _, stopped⟩
      · cases limited
      · rw [viewerStops_absent] at stopped
        cases stopped
    refine ⟨last, ran, ?_, ended.halted whole⟩
    rw [ended.cycles, whole]
    rfl
  · intro fuel
    obtain ⟨_, endless⟩ := goesOn rfl rfl rfl (fun _ => viewerStops_absent _)
    obtain ⟨last, ran, cycles⟩ := endless (by decide) fuel
    refine ⟨last, ran, ?_⟩
    rw [cycles]
    exact Nat.zero_add fuel

end Run

end Chip8
