import Chip8.Proofs.Books

/-!
Runs of a session, without their clock. `Play` says how a loop of cycles goes on and ends, whatever time
it is and however long it waits; every loop is played that way. A `History` is what calls have made of a
session since it was created.
-/

namespace Chip8

namespace Session

/-- A property of sessions that every cycle keeps and that says nothing about whether the session is
running or what it has logged. -/
structure Kept (holds : Session → Prop) : Prop where
  cycled : ∀ session, holds session → holds (cycle.left session)
  told : ∀ session running log, holds session →
    holds { session with running := running, log := log }

end Session

namespace Run

variable {κ ρ α : Type}

/-- The run at the end of a call, whether the call came to its end or not. -/
def reached : EStateM.Result Escape (Run κ ρ) α → Run κ ρ
  | .ok _ run => run
  | .error _ run => run

def value? : EStateM.Result Escape (Run κ ρ) α → Option α
  | .ok value _ => some value
  | .error _ _ => none

def left (call : EStateM Escape (Run κ ρ) α) (run : Run κ ρ) : Run κ ρ := reached (call run)

theorem bind_apply {β : Type} (call : EStateM Escape (Run κ ρ) α)
    (next : α → EStateM Escape (Run κ ρ) β) (run : Run κ ρ) :
    (call >>= next) run =
      match call run with
      | .ok value after => next value after
      | .error escape after => .error escape after := by
  cases result : call run <;> simp [bind, EStateM.bind, result]

theorem await_apply (clock : Clock κ) (deadline : Float) (run : Run κ ρ) :
    ∃ next time, await clock deadline run = .ok next { run with clock := time } := by
  have reads (before : Run κ ρ) : now clock before =
      .ok (clock.now before.clock).1 { before with clock := (clock.now before.clock).2 } := rfl
  rw [await, bind_apply, reads]
  dsimp only
  split
  · exact ⟨_, _, rfl⟩
  · exact ⟨_, _, rfl⟩

inductive Turn (view : Viewer ρ) (run : Run κ ρ) :
    EStateM.Result Escape (Run κ ρ) (Option Float) → Prop
  | rests : run.session.goesOn = false → Turn view run (.ok none run)
  | plays {snapshot : Snapshot} {after : Run κ ρ} (time : κ) (next : Float) :
      run.session.goesOn = true → cycle view run = .ok snapshot after →
      Turn view run (.ok (some next) { after with clock := time })
  | escapes {escape : Escape} {after : Run κ ρ} :
      run.session.goesOn = true → cycle view run = .error escape after →
      Turn view run (.error escape after)

theorem discard_apply (call : EStateM Escape (Run κ ρ) α) (run : Run κ ρ) :
    discard call run =
      match call run with
      | .ok _ after => .ok () after
      | .error escape after => .error escape after := by
  cases result : call run <;>
    simp [discard, Functor.mapConst, EStateM.map, result]

theorem turn_turn (clock : Clock κ) (view : Viewer ρ) (deadline : Float) (run : Run κ ρ) :
    Turn view run (turn clock view deadline run) := by
  have reads : (get : EStateM Escape (Run κ ρ) (Run κ ρ)) run = .ok run run := rfl
  rw [turn, bind_apply, reads]
  dsimp only
  rw [← Session.goesOn]
  cases going : run.session.goesOn with
  | false =>
      rw [if_neg Bool.false_ne_true]
      exact .rests going
  | true =>
      rw [if_pos rfl, bind_apply, discard_apply]
      cases ran : cycle view run with
      | error escape after => exact .escapes going ran
      | ok snapshot after =>
          cases run.session.settings.period? with
          | none => exact .plays after.clock deadline going ran
          | some period =>
              -- Waiting for the deadline takes time and changes nothing else.
              obtain ⟨next, time, waits⟩ := await_apply clock (deadline + period) after
              dsimp only
              rw [bind_apply, waits]
              exact .plays time next going ran

/-- How a loop of cycles is played to its end, to an escape, or until the fuel is spent. The clock may
show any time after a cycle. -/
inductive Play (view : Viewer ρ) : Nat → Run κ ρ → EStateM.Result Escape (Run κ ρ) Bool → Prop
  | spent (run : Run κ ρ) : Play view 0 run (.ok false run)
  | rests {fuel : Nat} {run : Run κ ρ} : run.session.goesOn = false →
      Play view (fuel + 1) run (.ok true run)
  | plays {fuel : Nat} {run after : Run κ ρ} {snapshot : Snapshot} {time : κ}
      {ending : EStateM.Result Escape (Run κ ρ) Bool} :
      run.session.goesOn = true → cycle view run = .ok snapshot after →
      Play view fuel { after with clock := time } ending → Play view (fuel + 1) run ending
  | escapes {fuel : Nat} {run after : Run κ ρ} {escape : Escape} :
      run.session.goesOn = true → cycle view run = .error escape after →
      Play view (fuel + 1) run (.error escape after)

theorem play_succ {view : Viewer ρ} {fuel : Nat} {run : Run κ ρ}
    {ending : EStateM.Result Escape (Run κ ρ) Bool} (played : Play view (fuel + 1) run ending) :
    if run.session.goesOn then
      match cycle view run with
      | .ok _ after => ∃ time, Play view fuel { after with clock := time } ending
      | .error escape after => ending = .error escape after
    else ending = .ok true run := by
  cases played with
  | rests going =>
      rw [going]
      rfl
  | plays going ran played =>
      rw [going, ran, if_pos rfl]
      exact ⟨_, played⟩
  | escapes going ran =>
      rw [going, ran, if_pos rfl]

theorem loop_play (clock : Clock κ) (view : Viewer ρ) (fuel : Nat) (deadline : Float)
    (run : Run κ ρ) : Play view fuel run (loop clock view fuel deadline run) := by
  -- The deadline of a turn depends on the clock, so nothing may be assumed about it.
  induction fuel generalizing deadline run with
  | zero => exact .spent run
  | succ fuel ih =>
      rw [loop, bind_apply]
      have turned := turn_turn clock view deadline run
      generalize turn clock view deadline run = result at turned
      cases turned with
      | rests going => exact .rests going
      | plays time next going ran => exact .plays going ran (ih next _)
      | escapes going ran => exact .escapes going ran

def closed : EStateM.Result Escape (Run κ ρ) Bool →
    EStateM.Result Escape (Run κ ρ) (Option Summary)
  | .ok true after =>
      .ok (some (finish after.session).summary) { after with session := finish after.session }
  | .ok false after => .ok none { after with session := after.session.stop }
  | .error escape after => .error escape { after with session := after.session.stop }

theorem run_play (clock : Clock κ) (view : Viewer ρ) (fuel : Nat) {before : Run κ ρ}
    (paced : before.session.settings.hasPeriod = true) :
    ∃ time ending, Play view fuel { before with session := start before.session, clock := time } ending ∧
      run clock view fuel before = closed ending := by
  let started : Run κ ρ := { before with session := start before.session }
  have looped := loop_play clock view fuel (clock.now before.clock).1
    { started with clock := (clock.now before.clock).2 }
  refine ⟨_, _, looped, ?_⟩
  have reads : now clock started =
      .ok (clock.now before.clock).1 { started with clock := (clock.now before.clock).2 } := rfl
  rw [run, if_pos paced]
  dsimp only
  rw [bind_apply, reads]
  dsimp only
  cases loop clock view fuel (clock.now before.clock).1
      { started with clock := (clock.now before.clock).2 } with
  | ok ended after => cases ended <;> rfl
  | error escape after => rfl

theorem run_unpaced (clock : Clock κ) (view : Viewer ρ) (fuel : Nat) {before : Run κ ρ}
    (unpaced : ¬ before.session.settings.hasPeriod = true) :
    run clock view fuel before =
      .error .rateTooLarge { before with session := { before.session with running := true } } := by
  rw [run, if_neg unpaced]

/-- What calls have made of a run since it was created: whole runs, single cycles and requests to stop
in any order. Between two of them time passes, and the machine may be changed from outside as far as
`allowed` says. -/
inductive History (clock : Clock κ) (view : Viewer ρ) (allowed : Machine → Machine → Prop)
    (first : Run κ ρ) : Run κ ρ → Prop
  | created : History clock view allowed first first
  | run {before : Run κ ρ} (fuel : Nat) : History clock view allowed first before →
      History clock view allowed first (left (run clock view fuel) before)
  | cycle {before : Run κ ρ} : History clock view allowed first before →
      History clock view allowed first (left (cycle view) before)
  | stop {before : Run κ ρ} : History clock view allowed first before →
      History clock view allowed first { before with session := before.session.stop }
  | outside {before : Run κ ρ} {machine : Machine} (time : κ) :
      History clock view allowed first before → allowed before.session.machine machine →
      History clock view allowed first
        { before with session := { before.session with machine := machine }, clock := time }

/-- A property of a session and its viewer that every cycle keeps, also one that fails, and that does not
mind when a run starts or ends and says so. -/
structure Kept (view : Viewer ρ) (holds : Session → ρ → Prop) : Prop where
  cycled : ∀ session viewer snapshot after, holds session viewer →
    Session.cycle session = .ok snapshot after → holds after (view after.machine snapshot viewer).2
  failed : ∀ session viewer problem after, holds session viewer →
    Session.cycle session = .error problem after → holds after viewer
  told : ∀ session viewer running (entries : List LogEntry), holds session viewer →
    (∀ entry ∈ entries, entry.level = .info) →
    holds { session with running := running, log := session.log ++ entries } viewer

section Keeping

variable {view : Viewer ρ} {holds : Session → ρ → Prop}

theorem Kept.flagged (kept : Kept view holds) {session : Session} {viewer : ρ} (running : Bool)
    (before : holds session viewer) : holds { session with running := running } viewer := by
  have told := kept.told session viewer running [] before (by simp)
  simpa using told

theorem Kept.reported (kept : Kept view holds) {session : Session} {viewer : ρ} (running : Bool)
    (text : String) (before : holds session viewer) :
    holds ({ session with running := running }.report .info text) viewer := by
  refine kept.told session viewer running [⟨.info, .session, text⟩] before ?_
  intro entry logged
  rw [List.mem_singleton.mp logged]

theorem cycle_kept (kept : Kept view holds) (run : Run κ ρ) (before : holds run.session run.viewer) :
    holds (left (cycle view) run).session (left (cycle view) run).viewer := by
  rw [left, cycle]
  cases ran : Session.cycle run.session with
  | error problem session => exact kept.failed _ _ _ _ before ran
  | ok snapshot session =>
      have after := kept.cycled _ _ _ _ before ran
      dsimp only
      cases (view session.machine snapshot run.viewer).1 with
      | proceed | interrupt => exact after
      | stop => exact kept.flagged false after

theorem play_kept (kept : Kept view holds) {fuel : Nat} {run : Run κ ρ}
    {ending : EStateM.Result Escape (Run κ ρ) Bool} (played : Play view fuel run ending)
    (before : holds run.session run.viewer) :
    holds (reached ending).session (reached ending).viewer := by
  induction played with
  | spent | rests => exact before
  | @plays _ run _ _ _ _ _ ran _ ih =>
      have after := cycle_kept kept run before
      rw [left, ran] at after
      exact ih after
  | @escapes _ run _ _ _ ran =>
      have after := cycle_kept kept run before
      rw [left, ran] at after
      exact after

theorem run_kept (kept : Kept view holds) (clock : Clock κ) (fuel : Nat) (before : Run κ ρ)
    (initial : holds before.session before.viewer) :
    holds (left (run clock view fuel) before).session (left (run clock view fuel) before).viewer := by
  by_cases paced : before.session.settings.hasPeriod = true
  · obtain ⟨time, ending, played, ended⟩ := run_play clock view fuel paced
    have after := play_kept kept played (kept.reported true _ initial)
    rw [left, ended]
    rcases ending with ⟨_ | _, last⟩ | ⟨escape, last⟩
    · exact kept.flagged false after
    · exact kept.reported false _ after
    · exact kept.flagged false after
  · rw [left, run_unpaced clock view fuel paced]
    exact kept.flagged true initial

end Keeping

theorem Kept.ofSession {holds : Session → Prop} (kept : Session.Kept holds) (view : Viewer ρ) :
    Kept view fun session _ => holds session := by
  constructor
  case cycled =>
    intro session viewer snapshot after before ran
    have left := kept.cycled session before
    rwa [Action.left, ran] at left
  case failed =>
    intro session viewer problem after before ran
    have left := kept.cycled session before
    rwa [Action.left, ran] at left
  case told =>
    intro session viewer running entries before _
    exact kept.told session running _ before

theorem history_kept {holds : Session → Prop} (kept : Session.Kept holds) {clock : Clock κ}
    {view : Viewer ρ} {allowed : Machine → Machine → Prop} {first run : Run κ ρ}
    (outside : ∀ session machine, holds session → allowed session.machine machine →
      holds { session with machine := machine })
    (history : History clock view allowed first run) (initial : holds first.session) :
    holds run.session := by
  have inRun := Kept.ofSession kept view
  induction history with
  | created => exact initial
  | run fuel _ ih => exact run_kept inRun clock fuel _ ih
  | cycle _ ih => exact cycle_kept inRun _ ih
  | @stop before _ ih => exact kept.told before.session false before.session.log ih
  | outside time _ changes ih => exact outside _ _ ih changes

end Run

/-- A fault and a jump back to it, with the given timers and rates. -/
def faultingLoop (delay sound : UInt8) (cyclesPerSecond timerHz : Int) : Session where
  machine := {
    state := { pc := 0, delayTimer := delay, soundTimer := sound }
    bus := {
      devices := #[.memory #[0x00, 0x00, 0x10, 0x00]]
      mappings := [Mapping.mk 0 3 0] }
    generator := ⟨Vector.replicate 624 0, 0⟩
    drawPolicy := .wrap
    startAddress := 0
    stackLimit := 16
    cycleCount := 0 }
  settings := { cyclesPerSecond := cyclesPerSecond, timerHz := timerHz }

theorem faultingLoop_memoryOnly (delay sound : UInt8) (cyclesPerSecond timerHz : Int) :
    (faultingLoop delay sound cyclesPerSecond timerHz).machine.bus.MemoryOnly :=
  .single _ _ _

def frozenClock : Clock Unit where
  now := fun _ => (0, ())
  sleep := fun _ _ => ()

def Run.absentViewer : Viewer Unit := fun _ _ _ => (.proceed, ())

end Chip8
