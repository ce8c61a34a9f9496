import Chip8.Proofs.Runs
import Chip8.Proofs.Timers

/-!
The timers from the driver's side. Every cycle adds the timer rate to a debt, and every timer step takes
the rate of cycles off it again. Hence timer steps and debt together always make up the cycles so far,
over any calls, and a timer shows what the steps have left of it.
-/

namespace Chip8

/-- The loop that catches up with a debt, for a number of rounds. Only the debt ends it. -/
inductive CatchesUp (rate : Int) : Nat → Int × State → Int × State → Prop
  | done {debt : Int} {state : State} : debt < rate → CatchesUp rate 0 (debt, state) (debt, state)
  | round {rounds : Nat} {debt : Int} {state : State} {last : Int × State} : rate ≤ debt →
      CatchesUp rate rounds (debt - rate, state.ticked) last →
      CatchesUp rate (rounds + 1) (debt, state) last

theorem catchUp_catchesUp {rate debt : Int} (state : State) (positive : 0 < rate) (owed : 0 ≤ debt) :
    CatchesUp rate (debt / rate).toNat (debt, state) (catchUp rate debt state) := by
  fun_induction catchUp rate debt state with
  | case1 debt state more ih =>
      have shorter := Int.add_mul_ediv_right debt (-1) (by omega : rate ≠ 0)
      rw [Int.neg_one_mul, ← Int.sub_eq_add_neg] at shorter
      have atLeast : 0 ≤ (debt - rate) / rate := Int.ediv_nonneg (by omega) (by omega)
      have oneMore : (debt / rate).toNat = ((debt - rate) / rate).toNat + 1 := by omega
      rw [oneMore]
      exact .round more.2 (ih (by omega))
  | case2 debt state settled =>
      have below : debt < rate := by omega
      rw [Int.ediv_eq_zero_of_lt owed below]
      exact .done below

theorem toNat_stepped (timer : UInt8) :
    (if timer = 0 then 0 else timer - 1).toNat = timer.toNat - 1 := by
  by_cases zero : timer = 0
  · rw [if_pos zero, zero]
    rfl
  · have running : timer.toNat ≠ 0 := fun same => zero (UInt8.toNat_inj.mp same)
    have one : (1 : UInt8) ≤ timer := UInt8.le_iff_toNat_le.mpr (Nat.pos_of_ne_zero running)
    rw [if_neg zero, UInt8.toNat_sub_of_le timer 1 one]
    rfl

namespace CatchesUp

variable {rate : Int} {rounds : Nat} {first last : Int × State}

theorem debt (caught : CatchesUp rate rounds first last) : last.1 + rounds * rate = first.1 := by
  induction caught with
  | done => simp
  | @round rounds debt state last _ _ ih =>
      have oneMore : ((rounds + 1 : Nat) : Int) * rate = rounds * rate + rate := by
        rw [Int.natCast_succ, Int.add_mul, Int.one_mul]
      dsimp only at ih ⊢
      omega

theorem timers (caught : CatchesUp rate rounds first last) :
    last.2.delayTimer.toNat = first.2.delayTimer.toNat - rounds ∧
      last.2.soundTimer.toNat = first.2.soundTimer.toNat - rounds := by
  induction caught with
  | done => exact ⟨rfl, rfl⟩
  | round _ _ ih =>
      simp only [State.ticked, toNat_stepped] at ih ⊢
      omega

end CatchesUp

namespace Session

/-- The timers of a session are as far as its cycles want them, counted from the given registers. -/
structure OnTime (settings : RunSettings) (initial : State) (session : Session) : Prop where
  configured : session.settings = settings
  owed : 0 ≤ session.timerDebt
  below : session.timerDebt < settings.timerRate
  ticks : ∃ ticks : Nat,
    session.timerDebt + ticks * settings.timerRate = session.cycles * settings.timerHz ∧
      session.machine.state.delayTimer.toNat = initial.delayTimer.toNat - ticks ∧
      session.machine.state.soundTimer.toNat = initial.soundTimer.toNat - ticks

variable {settings : RunSettings} {initial : State} {session : Session}

/-- With one more cycle to make up for, the time of one cycle brings a session back on time. -/
theorem OnTime.passTime (onTime : OnTime settings initial session) (ticking : 0 ≤ settings.timerHz) :
    OnTime settings initial { session with cycles := session.cycles + 1 }.passTime := by
  obtain ⟨same, owed, below, ticks, made, delay, sound⟩ := onTime
  subst same
  have oneMore : ((session.cycles + 1 : Nat) : Int) * session.settings.timerHz =
      session.cycles * session.settings.timerHz + session.settings.timerHz := by
    rw [Int.natCast_succ, Int.add_mul, Int.one_mul]
  by_cases still : session.settings.timerHz ≤ 0
  · rw [Session.passTime, if_pos still]
    exact ⟨rfl, owed, below, ticks, by dsimp only; omega, delay, sound⟩
  · have positive : 0 < session.settings.timerRate := by omega
    have more : 0 ≤ session.timerDebt + session.settings.timerHz := by omega
    have rest := catchUp_debt session.machine.state positive more
    have notNegative := Int.emod_nonneg (session.timerDebt + session.settings.timerHz)
      (Int.ne_of_gt positive)
    have settled := Int.emod_lt_of_pos (session.timerDebt + session.settings.timerHz) positive
    rw [← rest] at notNegative settled
    have caught := catchUp_catchesUp session.machine.state positive more
    generalize ((session.timerDebt + session.settings.timerHz) /
      session.settings.timerRate).toNat = rounds at caught
    have paid := caught.debt
    obtain ⟨delays, sounds⟩ := caught.timers
    have both : ((ticks + rounds : Nat) : Int) * session.settings.timerRate =
        ticks * session.settings.timerRate + rounds * session.settings.timerRate := by
      rw [Int.natCast_add, Int.add_mul]
    -- The rounds of this cycle add to the timer steps so far.
    rw [passTime_apply { session with cycles := session.cycles + 1 } (Int.not_le.mp still)]
    refine ⟨rfl, notNegative, settled, ticks + rounds, ?_, ?_, ?_⟩
    · dsimp only at paid ⊢
      omega
    · dsimp only at delays ⊢
      omega
    · dsimp only at sounds ⊢
      omega

theorem kept_onTime (ticking : 0 ≤ settings.timerHz) : Kept (OnTime settings initial) := by
  constructor
  case cycled =>
    intro session onTime
    obtain ⟨same, owed, below, ticks, made, delay, sound⟩ := onTime
    -- No instruction sets a timer, so a fault makes no difference here.
    obtain ⟨keptDelay, keptSound⟩ := Machine.left_step_timers session.machine
    have stepped : OnTime settings initial
        { session with machine := Machine.step.left session.machine } :=
      ⟨same, owed, below, ticks, made, by rw [keptDelay, delay], by rw [keptSound, sound]⟩
    rw [Action.left] at stepped
    rw [Action.left, cycle_apply]
    cases ran : Machine.step session.machine with
    | error problem machine =>
        rw [ran] at stepped
        exact stepped
    | ok snapshot machine =>
        rw [ran] at stepped
        obtain ⟨same, owed, below, ticks⟩ := stepped.passTime ticking
        obtain ⟨running, faults, streak, lastFault, haltedOnFault, log, accounted⟩ :=
          account_frame snapshot
            { session with machine := machine, cycles := session.cycles + 1 }.passTime
        dsimp only [concluded]
        rw [accounted]
        exact ⟨same, owed, below, ticks⟩
  case told =>
    intro session running log onTime
    exact ⟨onTime.configured, onTime.owed, onTime.below, onTime.ticks⟩

end Session

namespace Run

variable {κ ρ : Type}

/-- The timers follow the cycles: after any calls each of them has come down by one for every full
timer step in the time of the cycles, to zero at most. Without a limit a cycle is 1/500 second. -/
theorem timers_follow_cycles (clock : Clock κ) (view : Viewer ρ) (machine : Machine)
    (settings : RunSettings) (time : κ) (viewer : ρ) (paced : 0 ≤ settings.cyclesPerSecond)
    (ticking : 0 ≤ settings.timerHz) {run : Run κ ρ}
    (history : History clock view Machine.SameTimers
      { session := { machine, settings }, clock := time, viewer } run)
    {rate steps : Int}
    (rated : rate = if settings.cyclesPerSecond = 0 then 500 else settings.cyclesPerSecond)
    (made : steps = run.session.cycles * settings.timerHz / rate) :
    ((run.session.machine.state.delayTimer.toNat : Int) =
        max 0 (machine.state.delayTimer.toNat - steps) ∧
      (run.session.machine.state.soundTimer.toNat : Int) =
        max 0 (machine.state.soundTimer.toNat - steps)) ∧
    (0 ≤ run.session.timerDebt ∧ run.session.timerDebt < rate) ∧
    ∀ state, ∃ rounds, CatchesUp rate rounds (run.session.timerDebt + settings.timerHz, state)
      (catchUp rate (run.session.timerDebt + settings.timerHz) state) := by
  have same : settings.timerRate = rate := rated.symm
  have positive : 0 < settings.timerRate := by
    rw [same, rated]
    split <;> omega
  have initially : Session.OnTime settings machine.state { machine, settings } :=
    ⟨rfl, Int.le_refl 0, positive, 0, by simp, rfl, rfl⟩
  have onTime : Session.OnTime settings machine.state run.session := by
    refine history_kept (Session.kept_onTime ticking) ?_ history initially
    intro session changed onTime same
    obtain ⟨configured, owed, below, ticks, made, delay, sound⟩ := onTime
    exact ⟨configured, owed, below, ticks, made, by rw [same.1, delay], by rw [same.2, sound]⟩
  obtain ⟨_, owed, below, ticks, balanced, delay, sound⟩ := onTime
  rw [same] at positive below balanced
  have whole : run.session.cycles * settings.timerHz / rate = ticks :=
    ((Int.ediv_emod_unique positive).mpr ⟨by rw [Int.mul_comm, balanced], owed, below⟩).1
  refine ⟨?_, ⟨owed, below⟩, fun state => ⟨_, catchUp_catchesUp state positive (by omega)⟩⟩
  rw [made, whole]
  omega

/-- Three cycles of a loop, in a run and by themselves, with timers that step five times in two cycles. -/
def fastTimers : Run Unit Unit :=
  let ran := left (run frozenClock absentViewer 2) ⟨faultingLoop 10 4 0 1250, (), ()⟩
  left (cycle absentViewer) { ran with session := ran.session.stop }

theorem timers_follow_cycles_fast_timers :
    History frozenClock absentViewer Machine.SameTimers ⟨faultingLoop 10 4 0 1250, (), ()⟩ fastTimers ∧
      fastTimers.session.cycles = 3 ∧ fastTimers.session.faults = 2 ∧
      fastTimers.session.machine.state.delayTimer = 3 ∧
      fastTimers.session.machine.state.soundTimer = 0 ∧
      0 ≤ fastTimers.session.timerDebt ∧ fastTimers.session.timerDebt < 500 := by
  have history : History frozenClock absentViewer Machine.SameTimers
      ⟨faultingLoop 10 4 0 1250, (), ()⟩ fastTimers := .cycle (.stop (.run 2 .created))
  have counted : fastTimers.session.cycles = 3 ∧ fastTimers.session.faults = 2 := by
    decide +kernel
  obtain ⟨⟨delay, sound⟩, ⟨owed, below⟩, _⟩ :=
    timers_follow_cycles frozenClock absentViewer (faultingLoop 10 4 0 1250).machine
      (faultingLoop 10 4 0 1250).settings () () (by decide) (by decide) history rfl rfl
  rw [counted.1] at delay sound
  have delayLeft : fastTimers.session.machine.state.delayTimer.toNat = 3 :=
    Int.ofNat.inj (delay.trans (by decide))
  have soundLeft : fastTimers.session.machine.state.soundTimer.toNat = 0 :=
    Int.ofNat.inj (sound.trans (by decide))
  exact ⟨history, counted.1, counted.2, UInt8.toNat_inj.mp delayLeft, UInt8.toNat_inj.mp soundLeft,
    owed, below⟩

end Run

end Chip8
