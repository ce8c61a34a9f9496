import Chip8.Proofs.ExitStatus
import Chip8.Proofs.Extent
import Chip8.Proofs.Rendering

/-!
Runs on a terminal. Whatever a viewer does, a run hands it every cycle that was made, in order and with or
without a fault. A terminal as the viewer therefore writes what is due for the pictures of the cycles: each
picture that differs from the one before, or every picture if it lists the registers.
-/

namespace Chip8

namespace Run

variable {κ ρ : Type}

/-- The run has come to this by cycles, all of which the viewer has seen. -/
structure Seen (view : Viewer ρ) (before : Run κ ρ) (cycles : List (Machine × Snapshot)) (run : Run κ ρ) :
    Prop where
  past : Session.Past before.session cycles run.session
  viewer : run.viewer = cycles.foldl (fun viewer cycle => (view cycle.1 cycle.2 viewer).2) before.viewer

variable {view : Viewer ρ} {before run after : Run κ ρ} {cycles : List (Machine × Snapshot)}

theorem Seen.cycle (seen : Seen view before cycles run) {snapshot : Snapshot}
    (ran : cycle view run = .ok snapshot after) :
    Seen view before (cycles ++ [(after.session.machine, snapshot)]) after := by
  rw [Run.cycle] at ran
  cases cycled : Session.cycle run.session with
  | error problem session =>
      rw [cycled] at ran
      cases ran
  | ok told session =>
      have past := seen.past.cycled cycled
      rw [cycled] at ran
      dsimp only at ran
      have viewer : (view session.machine told run.viewer).2 =
          (cycles ++ [(session.machine, told)]).foldl
            (fun viewer cycle => (view cycle.1 cycle.2 viewer).2) before.viewer := by
        rw [List.foldl_append, ← seen.viewer]
        rfl
      cases signal : (view session.machine told run.viewer).1 with
      | interrupt =>
          rw [signal] at ran
          cases ran
      | proceed =>
          rw [signal] at ran
          cases ran
          exact ⟨past, viewer⟩
      | stop =>
          rw [signal] at ran
          cases ran
          exact ⟨past.stop, viewer⟩

theorem Play.seen {fuel : Nat} {ending : EStateM.Result Escape (Run κ ρ) Bool}
    (played : Play view fuel run ending) (seen : Seen view before cycles run) {ended : Bool}
    (closed : ending = .ok ended after) : ∃ cycles, Seen view before cycles after := by
  induction played generalizing cycles with
  | spent run | rests going =>
      cases closed
      exact ⟨cycles, seen⟩
  | plays going ran played ih =>
      have next := seen.cycle ran
      exact ih ⟨next.past, next.viewer⟩ closed
  | escapes going ran => cases closed

/-- A run that is not broken off has shown every cycle to its viewer. -/
theorem run_seen (clock : Clock κ) (fuel : Nat) {summary : Option Summary}
    (ended : Run.run clock view fuel before = .ok summary after) :
    ∃ cycles, Seen view before cycles after := by
  by_cases paced : before.session.settings.hasPeriod = true
  · obtain ⟨time, ending, played, closed⟩ := run_play clock view fuel paced
    have started : Seen view before []
        { before with session := start before.session, clock := time } :=
      ⟨Session.Past.created.reported true _, rfl⟩
    rw [closed] at ended
    rcases ending with ⟨_ | _, last⟩ | ⟨escape, last⟩
    · obtain ⟨cycles, seen⟩ := played.seen started rfl
      cases ended
      exact ⟨cycles, seen.past.stop, seen.viewer⟩
    · obtain ⟨cycles, seen⟩ := played.seen started rfl
      cases ended
      exact ⟨cycles, seen.past.reported false _, seen.viewer⟩
    · cases ended
  · rw [run_unpaced clock view fuel paced] at ended
    cases ended

end Run

namespace Terminal

/-- Shows cycles on a terminal that lists registers of the machine, and keeps what was written. A frame that
cannot be drawn breaks the run off. -/
def viewer : Viewer (Terminal Machine × Text) := fun machine snapshot (terminal, text) =>
  match render machine snapshot.display.bytes terminal with
  | .ok written after => (.proceed, after, text ++ written.getD [])
  | .error _ after => (.interrupt, after, text)

/-- The calls for cycles. -/
def shows (cycles : List (Machine × Snapshot)) : List (Machine × List UInt8) :=
  cycles.map fun cycle => (cycle.1, cycle.2.display.bytes)

theorem viewer_apply (machine : Machine) (snapshot : Snapshot) (terminal : Terminal Machine) (text : Text) :
    viewer machine snapshot (terminal, text) =
      (.proceed, terminal.next snapshot.display.bytes,
        text ++ (terminal.texts [(machine, snapshot.display.bytes)]).flatten) := by
  have sized := snapshot.display.bytes_pixels.1
  rw [viewer, render_apply, Painter.outcome_sized sized, texts, due_cons terminal machine sized, due_nil]
  dsimp only
  split <;> simp

theorem viewer_patient : viewer.Patient := by
  rintro machine snapshot ⟨terminal, text⟩
  rw [viewer_apply]
  exact Signal.noConfusion

theorem foldl_viewer (cycles : List (Machine × Snapshot)) (terminal : Terminal Machine) (text : Text) :
    cycles.foldl (fun seen cycle => (viewer cycle.1 cycle.2 seen).2) (terminal, text) =
      (terminal.after (shows cycles), text ++ (terminal.texts (shows cycles)).flatten) := by
  induction cycles generalizing terminal text with
  | nil => simp [shows, after, texts]
  | cons cycle cycles ih =>
      obtain ⟨machine, snapshot⟩ := cycle
      have sized : ∀ call ∈ [(machine, snapshot.display.bytes)], call.2.length = 2048 := by
        intro call member
        rw [List.mem_singleton.mp member]
        exact snapshot.display.bytes_pixels.1
      have first : shows ((machine, snapshot) :: cycles) =
          [(machine, snapshot.display.bytes)] ++ shows cycles := rfl
      have next : terminal.after [(machine, snapshot.display.bytes)] =
          terminal.next snapshot.display.bytes := after_concat terminal [] _
      rw [List.foldl_cons, viewer_apply, ih, first, texts_append terminal sized, next,
        List.flatten_append, List.append_assoc, List.singleton_append, after_cons]

/-- Exactly the changes are drawn. Calls with frames of the right size write what is due for them: nothing
for a frame that equals the one before, if no registers are listed, and a screen for every other. A source
of registers is called once for each frame, and the last text shows the last frame. A run that shows its
cycles on a terminal, whether they end in a fault or not, writes the same for their pictures, and on
memories it always comes to its end or uses up its fuel. -/
theorem redraws_on_change :
    (∀ {μ : Type} (terminal : Terminal μ) (calls : List (μ × List UInt8)),
      (∀ call ∈ calls, call.2.length = 2048) →
      terminal.results calls = (terminal.due calls).map .ok ∧
      (terminal.after calls).asked =
        terminal.asked + (if terminal.source.isSome then calls.length else 0) ∧
      (terminal.painter.last = none → ∀ (earlier : List (μ × List UInt8)) (moment : μ) (frame : List UInt8),
        calls = earlier ++ [(moment, frame)] → (terminal.texts calls).getLast? =
          some (terminal.painter.screen
            (terminal.source.map fun source => source moment (terminal.asked + earlier.length)) frame))) ∧
    ∀ {κ : Type} (clock : Clock κ) (fuel : Nat) (before : Run κ (Terminal Machine × Text)),
      (before.session.machine.bus.MemoryOnly → before.session.settings.hasPeriod = true →
        ∃ summary after, Run.run clock viewer fuel before = .ok summary after) ∧
      ∀ summary after, Run.run clock viewer fuel before = .ok summary after →
        ∃ cycles, Session.Past before.session cycles after.session ∧
          after.viewer.1 = before.viewer.1.after (shows cycles) ∧
          after.viewer.2 = before.viewer.2 ++ (before.viewer.1.texts (shows cycles)).flatten := by
  constructor
  · intro μ terminal calls sized
    refine ⟨terminal.results_due calls sized, terminal.after_asked sized, ?_⟩
    rintro fresh earlier moment frame rfl
    obtain ⟨first, last⟩ := List.forall_mem_append.mp sized
    exact getLast?_texts fresh first moment (last (moment, frame) (List.mem_singleton_self _))
  · intro κ clock fuel before
    constructor
    · intro memories paced
      have steady := Run.steady_of_memoryOnly memories viewer_patient
      obtain ⟨_, after, _, _, _, _, ⟨_, _, ended⟩ | ⟨_, _, _, ended⟩⟩ :=
        Run.run_cycled clock fuel steady paced
      · exact ⟨none, after, ended⟩
      · exact ⟨_, after, ended⟩
    · intro summary after ended
      obtain ⟨cycles, seen⟩ := Run.run_seen clock fuel ended
      have viewed := seen.viewer.trans (foldl_viewer cycles before.viewer.1 before.viewer.2)
      exact ⟨cycles, seen.past, congrArg Prod.fst viewed, congrArg Prod.snd viewed⟩

/-- A picture that is shown twice to a terminal, and a run over a fault. -/
theorem redraws_on_change_twice :
    let blank := Display.blank.bytes
    let terminal : Terminal Machine := {}
    let first : Run Unit (Terminal Machine × Text) :=
      { session := faultingLoop 0 0 500 60, clock := (), viewer := (terminal, []) }
    ({} : Terminal Unit).results [((), blank), ((), blank)] =
        [.ok (some (({} : Painter).screen none blank)), .ok none] ∧
      ({} : Terminal Unit).texts [((), blank), ((), blank)] = [({} : Painter).screen none blank] ∧
      ∃ summary after cycles, Run.run frozenClock viewer 1 first = .ok summary after ∧
        Session.Past first.session cycles after.session ∧
        after.viewer.2 = (terminal.texts (shows cycles)).flatten := by
  intro blank terminal first
  have sized : ∀ call ∈ [((), blank), ((), blank)], call.2.length = 2048 := by
    intro call member
    have pixels := Display.blank.bytes_pixels.1
    simp only [List.mem_cons, List.not_mem_nil, or_false, or_self] at member
    rw [member]
    exact pixels
  have drawn := redraws_on_change.1 ({} : Terminal Unit) _ sized
  refine ⟨?_, ?_, ?_⟩
  · rw [drawn.1]
    simp [due]
  · simp [texts, due]
  · have runs := redraws_on_change.2 frozenClock 1 first
    obtain ⟨summary, after, ended⟩ := runs.1 (faultingLoop_memoryOnly 0 0 500 60) (by decide)
    obtain ⟨cycles, past, _, text⟩ := runs.2 summary after ended
    exact ⟨summary, after, cycles, ended, past, text⟩

end Terminal

end Chip8
