import Chip8.Proofs.BuiltSystem
import Chip8.Proofs.Chronicle
import Chip8.Proofs.Rendering

/-!
What a call of the program tells of its run. The exit status says whether the fault policy has ended the
run, and the output is the frames of the cycles that were made, also when the run is broken off while a
frame is drawn.
-/

namespace Chip8

namespace DisplaySettings

/-- The frame of a cycle: a cleared screen, the picture, and the registers if they are listed. -/
def frame (display : DisplaySettings) (machine : Machine) (snapshot : Snapshot) : Text :=
  let brush : Brush := { lit := display.lit, dark := display.dark }
  let picture := Text.joined "\n" ((frameRows 32 snapshot.display.bytes).map brush.row)
  let listing : Text := match display.listing machine with
    | some registers => "\n" ++ registerText registers
    | none => ""
  Text.ofString clearScreen ++ picture ++ listing ++ Text.ofString "\n"

/-- Whether a cycle is drawn that follows others. Without a listing of the registers a picture is not drawn
twice in a row. -/
def draws (display : DisplaySettings) (earlier : List (Machine × Snapshot)) (snapshot : Snapshot) : Bool :=
  display.enabled && (display.showRegisters ||
    (earlier.getLast?.map fun cycle => cycle.2.display.bytes) != some snapshot.display.bytes)

def frames (display : DisplaySettings) (cycles : List (Machine × Snapshot)) : List Text :=
  cycles.zipIdx.flatMap fun cycle =>
    if display.draws (cycles.take cycle.2) cycle.1.2 then [display.frame cycle.1.1 cycle.1.2] else []

theorem frames_append (display : DisplaySettings) (cycles : List (Machine × Snapshot)) (machine : Machine)
    (snapshot : Snapshot) :
    display.frames (cycles ++ [(machine, snapshot)]) =
      display.frames cycles ++
        if display.draws cycles snapshot then [display.frame machine snapshot] else [] := by
  rw [frames, List.zipIdx_append, List.flatMap_append]
  congr 1
  · apply List.flatMap_congr
    intro cycle member
    have place := (List.mem_zipIdx member).2.1
    rw [List.take_append_of_le_length (by omega)]
  · have before : (cycles ++ [(machine, snapshot)]).take (0 + cycles.length) = cycles := by
      rw [Nat.zero_add, List.take_left]
    rw [List.zipIdx_singleton, List.flatMap_singleton, before]

end DisplaySettings

theorem Painter.paint_apply {frame : List UInt8} (sized : frame.length = 2048)
    (registers : Option (List (String × Int))) (painter : Painter) :
    paint frame registers painter =
      if painter.last = some frame ∧ registers.isNone then .ok none painter
      else
        let clearing : Text := if painter.clear then clearScreen else ""
        let listing : Text := match registers with
          | some registers => "\n" ++ registerText registers
          | none => ""
        .ok (some (clearing ++ Text.joined "\n" ((frameRows 32 frame).map painter.brush.row) ++
          listing ++ Text.ofString "\n")) { painter with last := some frame } := by
  rw [paint_outcome, outcome_sized sized]
  by_cases seen : painter.last = some frame ∧ registers.isNone = true
  · rw [if_pos seen, if_pos seen, ← seen.1]
  · rw [if_neg seen, if_neg seen]
    rfl

structure Canvas.Shows (canvas : Canvas) (display : DisplaySettings) (cycles : List (Machine × Snapshot)) :
    Prop where
  brush : canvas.painter.brush = { lit := display.lit, dark := display.dark }
  clear : canvas.painter.clear = true
  last : display.enabled = true →
    canvas.painter.last = cycles.getLast?.map fun cycle => cycle.2.display.bytes
  frames : canvas.frames.reverse = display.frames cycles

def Canvas.adding (canvas : Canvas) (picture : List UInt8) (text : Text) : Canvas where
  painter := { canvas.painter with last := some picture }
  frames := text :: canvas.frames

namespace DisplaySettings

variable {display : DisplaySettings} {cycles : List (Machine × Snapshot)} {canvas : Canvas}
  {snapshot : Snapshot} (shows : canvas.Shows display cycles) (machine : Machine)

/-- Whether the frame of a cycle is the one whose drawing is broken off. -/
def Breaks (display : DisplaySettings) (breakAfter : Option Nat) (earlier : List (Machine × Snapshot))
    (machine : Machine) (snapshot : Snapshot) : Prop :=
  display.draws earlier snapshot = true ∧
    breakAfter = some (display.frames (earlier ++ [(machine, snapshot)])).length

include shows

theorem draws_of_enabled (enabled : display.enabled = true) :
    display.draws cycles snapshot = false ↔
      canvas.painter.last = some snapshot.display.bytes ∧ (display.listing machine).isNone = true := by
  rw [draws, enabled, ← shows.last enabled, listing]
  cases display.showRegisters with
  | true => simp
  | false => simp

theorem shows_undrawn (undrawn : display.draws cycles snapshot = false) :
    canvas.Shows display (cycles ++ [(machine, snapshot)]) := by
  refine ⟨shows.brush, shows.clear, ?_, ?_⟩
  · intro enabled
    -- The picture that is not drawn is the one that the painter drew last.
    have seen := (draws_of_enabled shows machine enabled).mp undrawn
    rw [seen.1, List.getLast?_concat, Option.map_some]
  · rw [frames_append, undrawn, if_neg Bool.false_ne_true, List.append_nil]
    exact shows.frames

theorem viewer_undrawn (breakAfter : Option Nat) (undrawn : display.draws cycles snapshot = false) :
    display.viewer breakAfter machine snapshot canvas = (.proceed, canvas) := by
  cases enabled : display.enabled with
  | false => simp [viewer, enabled]
  | true =>
      have seen := (draws_of_enabled shows machine enabled).mp undrawn
      have paints := Painter.paint_apply snapshot.display.bytes_pixels.1 (display.listing machine)
        canvas.painter
      rw [if_pos seen] at paints
      simp [viewer, enabled, paints]

theorem shows_drawn (drawn : display.draws cycles snapshot = true) :
    (canvas.adding snapshot.display.bytes (display.frame machine snapshot)).Shows display
      (cycles ++ [(machine, snapshot)]) := by
  refine ⟨shows.brush, shows.clear, ?_, ?_⟩
  · intro _
    rw [List.getLast?_concat]
    rfl
  · rw [frames_append, drawn, if_pos rfl, ← shows.frames]
    exact List.reverse_cons

theorem viewer_drawn (breakAfter : Option Nat) (drawn : display.draws cycles snapshot = true) :
    let after := canvas.adding snapshot.display.bytes (display.frame machine snapshot)
    display.viewer breakAfter machine snapshot canvas =
      (if breakAfter = some after.frames.length then .interrupt else .proceed, after) := by
  have enabled : display.enabled = true := by
    rw [draws, Bool.and_eq_true] at drawn
    exact drawn.1
  have unseen : ¬ (canvas.painter.last = some snapshot.display.bytes ∧
      (display.listing machine).isNone = true) := by
    rw [← draws_of_enabled shows machine enabled, drawn]
    exact Bool.noConfusion
  have paints : Painter.paint snapshot.display.bytes (display.listing machine) canvas.painter =
      .ok (some (display.frame machine snapshot))
        { canvas.painter with last := some snapshot.display.bytes } := by
    rw [Painter.paint_apply snapshot.display.bytes_pixels.1, if_neg unseen]
    simp only [shows.clear, shows.brush, frame, if_true]
  simp only [viewer, enabled, paints, Bool.not_true, Bool.false_eq_true, if_false]
  rfl

theorem viewer_shows (breakAfter : Option Nat) (snapshot : Snapshot) :
    ∃ signal after, display.viewer breakAfter machine snapshot canvas = (signal, after) ∧
      after.Shows display (cycles ++ [(machine, snapshot)]) ∧
      (display.Breaks breakAfter cycles machine snapshot ∧ signal = .interrupt ∨
        ¬ display.Breaks breakAfter cycles machine snapshot ∧ signal = .proceed) := by
  cases drawn : display.draws cycles snapshot with
  | false =>
      refine ⟨_, _, viewer_undrawn shows machine breakAfter drawn, shows_undrawn shows machine drawn,
        .inr ⟨?_, rfl⟩⟩
      rintro ⟨other, _⟩
      cases drawn.symm.trans other
  | true =>
      have shown := shows_drawn shows machine drawn
      refine ⟨_, _, viewer_drawn shows machine breakAfter drawn, shown, ?_⟩
      rw [← List.length_reverse, shown.frames, Breaks, drawn]
      by_cases reached : breakAfter = some (display.frames (cycles ++ [(machine, snapshot)])).length
      · exact .inl ⟨⟨rfl, reached⟩, if_pos reached⟩
      · exact .inr ⟨fun breaks => reached breaks.2, if_neg reached⟩

end DisplaySettings

namespace Session

/-- What a session has come to by some cycles. Each of them is listed with the machine that it left behind
and its snapshot. Besides, the session may have been told to run or to stop, and may have said so. -/
inductive Past (first : Session) : List (Machine × Snapshot) → Session → Prop
  | created : Past first [] first
  | cycled {cycles : List (Machine × Snapshot)} {session after : Session} {snapshot : Snapshot} :
      Past first cycles session → cycle session = .ok snapshot after →
      Past first (cycles ++ [(after.machine, snapshot)]) after
  | told {cycles : List (Machine × Snapshot)} {session : Session} (running : Bool)
      (entries : List LogEntry) : Past first cycles session →
      (∀ entry ∈ entries, entry.level = .info) →
      Past first cycles { session with running := running, log := session.log ++ entries }

namespace Past

variable {first session : Session} {cycles : List (Machine × Snapshot)}

theorem booked {settings : RunSettings}
    (limit : settings.faultPolicy = .continue → 0 ≤ settings.maxConsecutiveFaults)
    (initial : first.Booked settings []) (past : Past first cycles session) :
    session.Booked settings (cycles.map Prod.snd) := by
  induction past with
  | created => exact initial
  | cycled _ ran ih =>
      rw [List.map_append, List.map_singleton]
      exact ih.cycled limit ran
  | told running entries _ informal ih => exact ih.told running informal

theorem stop (past : Past first cycles session) : Past first cycles session.stop := by
  have told := past.told false [] (by simp)
  rwa [Array.appendList_nil] at told

theorem reported (past : Past first cycles session) (running : Bool) (text : String) :
    Past first cycles ({ session with running := running }.report .info text) := by
  refine past.told running [⟨.info, .session, text⟩] ?_
  intro entry logged
  rw [List.mem_singleton.mp logged]

end Past

theorem cycle_memoryOnly {session : Session} (memories : session.machine.bus.MemoryOnly) :
    ∃ snapshot after, cycle session = .ok snapshot after ∧ after.machine.bus.MemoryOnly := by
  obtain ⟨snapshot, machine, stepped⟩ := Machine.exists_step memories
  obtain ⟨debt, delay, sound, concluded⟩ := session.concluded_apply machine snapshot
  refine ⟨snapshot, session.concluded machine snapshot, ?_, ?_⟩
  · rw [cycle_apply, stepped]
  · have bus : (machine.withTimers delay sound).bus = machine.bus := rfl
    rw [concluded, bus, (Machine.cycle_of_step stepped).bus]
    exact memories

end Session

namespace Run

variable {κ : Type} {display : DisplaySettings} {breakAfter : Option Nat} {first : Session}
  {cycles : List (Machine × Snapshot)} {run : Run κ Canvas}

structure Watched (display : DisplaySettings) (first : Session) (cycles : List (Machine × Snapshot))
    (run : Run κ Canvas) : Prop where
  past : Session.Past first cycles run.session
  memories : run.session.machine.bus.MemoryOnly
  canvas : run.viewer.Shows display cycles

theorem Watched.cycle (watched : Watched display first cycles run) (breakAfter : Option Nat) :
    ∃ snapshot after, Watched display first (cycles ++ [(after.session.machine, snapshot)]) after ∧
      (display.Breaks breakAfter cycles after.session.machine snapshot ∧
          Run.cycle (display.viewer breakAfter) run = .error .interrupted after ∨
        ¬ display.Breaks breakAfter cycles after.session.machine snapshot ∧
          Run.cycle (display.viewer breakAfter) run = .ok snapshot after) := by
  obtain ⟨snapshot, session, ran, memories⟩ := Session.cycle_memoryOnly watched.memories
  obtain ⟨signal, viewer, shown, shows, answer⟩ :=
    DisplaySettings.viewer_shows watched.canvas session.machine breakAfter snapshot
  refine ⟨snapshot, { run with session := session, viewer := viewer },
    ⟨watched.past.cycled ran, memories, shows⟩, ?_⟩
  rw [Run.cycle, ran]
  dsimp only
  rw [shown]
  obtain ⟨breaks, rfl⟩ | ⟨proceeds, rfl⟩ := answer
  · exact .inl ⟨breaks, rfl⟩
  · exact .inr ⟨proceeds, rfl⟩

/-- No frame of the cycles was broken off. -/
def Undisturbed (display : DisplaySettings) (breakAfter : Option Nat)
    (cycles : List (Machine × Snapshot)) : Prop :=
  ∀ number, breakAfter = some number → number = 0 ∨ (display.frames cycles).length < number

inductive Ended (display : DisplaySettings) (breakAfter : Option Nat) (first : Session) :
    EStateM.Result Escape (Run κ Canvas) Bool → Prop
  | spent (run : Run κ Canvas) : Ended display breakAfter first (.ok false run)
  | rested {cycles : List (Machine × Snapshot)} {run : Run κ Canvas} :
      Watched display first cycles run → Undisturbed display breakAfter cycles →
      Ended display breakAfter first (.ok true run)
  | broken {cycles : List (Machine × Snapshot)} {machine : Machine} {snapshot : Snapshot}
      {run : Run κ Canvas} : Watched display first (cycles ++ [(machine, snapshot)]) run →
      display.Breaks breakAfter cycles machine snapshot →
      Ended display breakAfter first (.error .interrupted run)

theorem Undisturbed.next (undisturbed : Undisturbed display breakAfter cycles) {machine : Machine}
    {snapshot : Snapshot} (proceeds : ¬ display.Breaks breakAfter cycles machine snapshot) :
    Undisturbed display breakAfter (cycles ++ [(machine, snapshot)]) := by
  intro number broken
  rw [DisplaySettings.Breaks, broken, Option.some.injEq] at proceeds
  rw [display.frames_append] at proceeds ⊢
  rcases undisturbed number broken with never | later
  · exact .inl never
  · cases drawn : display.draws cycles snapshot with
    | false =>
        rw [if_neg Bool.false_ne_true, List.append_nil]
        exact .inr later
    | true =>
        simp only [drawn, if_true, true_and, List.length_append, List.length_singleton] at proceeds ⊢
        omega

theorem Play.ended {fuel : Nat} {ending : EStateM.Result Escape (Run κ Canvas) Bool}
    (played : Play (display.viewer breakAfter) fuel run ending)
    (watched : Watched display first cycles run) (undisturbed : Undisturbed display breakAfter cycles) :
    Ended display breakAfter first ending := by
  induction played generalizing cycles with
  | spent run => exact .spent run
  | rests going => exact .rested watched undisturbed
  | plays going ran played ih =>
      obtain ⟨snapshot, after, next, ⟨_, broken⟩ | ⟨proceeds, cycled⟩⟩ := watched.cycle breakAfter
      · cases ran.symm.trans broken
      · cases ran.symm.trans cycled
        exact ih ⟨next.past, next.memories, next.canvas⟩ (undisturbed.next proceeds)
  | escapes going ran =>
      obtain ⟨snapshot, after, next, ⟨breaks, broken⟩ | ⟨_, cycled⟩⟩ := watched.cycle breakAfter
      · cases ran.symm.trans broken
        exact .broken next breaks
      · cases ran.symm.trans cycled

end Run

namespace Arguments

variable {arguments : Arguments} {system : Prepared}

theorem release_ready {settings : Settings} {assembly : Assembly}
    (ready : arguments.release settings assembly = .ready system) :
    system.settings = settings ∧ settings.run.hasPeriod = true ∧ assembly.machine = .ok system.machine := by
  unfold release at ready
  split at ready
  · cases ready
  · rename_i machine assembled
    split at ready
    · cases ready
    · rename_i paced
      split at ready
      · cases ready
      · cases ready
        exact ⟨rfl, by simpa using paced, assembled⟩

theorem prepare_ready {around : Surroundings Id} {seed : Int}
    (ready : Id.run (arguments.prepare around seed) = .ready system) :
    system.settings.run.hasPeriod = true ∧
      ∃ image, system.machine.Built image system.settings.loadAddress := by
  unfold prepare at ready
  simp only [Id.run_bind] at ready
  have obtained := arguments.settings_obtained around
  generalize Id.run (arguments.settings around) = found at obtained ready
  cases obtained with
  | unread | refused => cases ready
  | settings read =>
      obtain ⟨base, sound, rfl⟩ := read
      dsimp only at ready
      split at ready
      · cases ready
      · split at ready
        · cases ready
        · rename_i rate
          have applied := sound.apply arguments (Int.not_lt.mp rate)
          split at ready
          · cases ready
          · split at ready
            · cases ready
            · rw [Id.run_bind, Id.run_pure] at ready
              obtain ⟨same, paced, assembled⟩ := release_ready ready
              rw [same]
              exact ⟨paced, Settings.assemble_built applied assembled⟩

end Arguments

namespace Prepared

def begun (system : Prepared) : Run Float Canvas where
  session := { machine := system.machine, settings := system.settings.run }
  clock := 0.0
  viewer := system.settings.display.canvas

def outcome (system : Prepared) (breakAfter : Option Nat) (fuel : Nat) :
    EStateM.Result Escape (Run Float Canvas) (Option Summary) :=
  Run.run idleClock (system.settings.display.viewer breakAfter) fuel system.begun

/-- The run comes to its end or is broken off before its fuel is spent. -/
def Ends (system : Prepared) (breakAfter : Option Nat) (fuel : Nat) : Prop :=
  ∀ after, system.outcome breakAfter fuel ≠ .ok none after

theorem begun_watched {system : Prepared} (memories : system.machine.bus.MemoryOnly) :
    Run.Watched system.settings.display system.begun.session [] system.begun where
  past := .created
  memories := memories
  canvas := ⟨rfl, rfl, fun _ => rfl, rfl⟩

inductive Closes (system : Prepared) (breakAfter : Option Nat) :
    EStateM.Result Escape (Run Float Canvas) (Option Summary) → Prop
  | finished {cycles : List (Machine × Snapshot)} {last : Run Float Canvas} :
      Run.Watched system.settings.display system.begun.session cycles last →
      Run.Undisturbed system.settings.display breakAfter cycles →
      Closes system breakAfter (.ok (some (Run.finish last.session).summary)
        { last with session := Run.finish last.session })
  | broken {cycles : List (Machine × Snapshot)} {machine : Machine} {snapshot : Snapshot}
      {last : Run Float Canvas} :
      Run.Watched system.settings.display system.begun.session (cycles ++ [(machine, snapshot)]) last →
      system.settings.display.Breaks breakAfter cycles machine snapshot →
      Closes system breakAfter (.error .interrupted { last with session := last.session.stop })

theorem closes {system : Prepared} {breakAfter : Option Nat} {fuel : Nat}
    (paced : system.settings.run.hasPeriod = true) (memories : system.machine.bus.MemoryOnly)
    (ends : system.Ends breakAfter fuel) : Closes system breakAfter (system.outcome breakAfter fuel) := by
  have alsoPaced : system.begun.session.settings.hasPeriod = true := paced
  obtain ⟨time, ending, played, closed⟩ :=
    Run.run_play idleClock (system.settings.display.viewer breakAfter) fuel alsoPaced
  have begun := begun_watched memories
  have started : Run.Watched system.settings.display system.begun.session []
      { system.begun with session := Run.start system.begun.session, clock := time } :=
    ⟨begun.past.reported true _, begun.memories, begun.canvas⟩
  have undisturbed : Run.Undisturbed system.settings.display breakAfter [] := by
    intro number broken
    exact Nat.eq_zero_or_pos number
  have ended := played.ended started undisturbed
  rw [Ends, outcome, closed] at ends
  rw [outcome, closed]
  cases ended with
  | spent run => exact absurd rfl (ends _)
  | rested watched undisturbed => exact .finished watched undisturbed
  | broken watched breaks => exact .broken watched breaks

variable {system : Prepared} {breakAfter : Option Nat} {fuel : Nat} {last : Run Float Canvas}

theorem conclude_finished {summary : Option Summary}
    (finished : system.outcome breakAfter fuel = .ok summary last) :
    system.conclude breakAfter fuel = system.conclusion last := by
  unfold outcome begun at finished
  unfold conclude
  dsimp only
  rw [finished]

theorem conclude_broken (broken : system.outcome breakAfter fuel = .error .interrupted last) :
    system.conclude breakAfter fuel =
      { system.conclusion last with
        log := (system.conclusion last).log ++ [last.session.interruption] } := by
  unfold outcome begun at broken
  unfold conclude
  dsimp only
  rw [broken]
  rfl

end Prepared

/-- What a call of the program tells of its run. -/
structure Conclusion.Tells (conclusion : Conclusion) (settings : Settings)
    (cycles : List (Machine × Snapshot)) : Prop where
  halted : settings.run.HaltedOn (cycles.map Prod.snd) → conclusion.exitStatus = 1
  unhalted : ¬ settings.run.HaltedOn (cycles.map Prod.snd) → conclusion.exitStatus = 0
  output : conclusion.output = (settings.display.frames cycles).flatten
  handled : conclusion.crash = none
  understood : conclusion.usage = none

theorem Prepared.conclusion_tells {system : Prepared} {cycles : List (Machine × Snapshot)}
    {last : Run Float Canvas} (limit : system.settings.run.faultPolicy = .continue →
      0 ≤ system.settings.run.maxConsecutiveFaults)
    (past : Session.Past system.begun.session cycles last.session)
    (canvas : last.viewer.Shows system.settings.display cycles) :
    (system.conclusion last).Tells system.settings cycles := by
  have booked := past.booked limit (.created system.machine)
  have output : (system.conclusion last).output = last.viewer.frames.reverse.flatten := rfl
  have status : (system.conclusion last).exitStatus = if last.session.haltedOnFault then 1 else 0 := rfl
  refine ⟨?_, ?_, ?_, rfl, rfl⟩
  · intro halted
    rw [status, if_pos (booked.halted.mpr halted)]
  · intro never
    rw [status, if_neg (fun halted => never (booked.halted.mp halted))]
  · rw [output, canvas.frames]

theorem getLast?_shown (debug : Bool) (log : List LogEntry) {entry : LogEntry} (info : entry.level = .info) :
    ((log ++ [entry]).filter (LogEntry.shown debug)).getLast? = some entry := by
  have shown : entry.shown debug = true := by
    rw [LogEntry.shown, info]
    exact Bool.or_true debug
  simp [List.filter_append, shown]

/-- The exit status and the output of a call, also if it is broken off while a frame is drawn. Its run made
certain cycles, the one whose frame was being drawn included. The status is 1 if the fault policy has ended
the run over one of them and 0 otherwise, their frames have been written, and the log tells their number. -/
theorem exit_status_tells_halt (around : Surroundings Id) (texts : List Text) (seed : Int)
    (breakAfter : Option Nat) (fuel : Nat) {arguments : Arguments} {system : Prepared}
    (asked : Request.ofTexts texts = .ok (.start arguments))
    (ready : Id.run (arguments.prepare around seed) = .ready system)
    (limit : system.settings.run.faultPolicy = .continue →
      0 ≤ system.settings.run.maxConsecutiveFaults)
    (ends : system.Ends breakAfter fuel) :
    let conclusion := around.call texts seed breakAfter fuel
    let last := (Run.reached (system.outcome breakAfter fuel)).session
    ∃ cycles : List (Machine × Snapshot), Session.Past system.begun.session cycles last ∧
      conclusion.Tells system.settings cycles ∧
      ((∃ earlier machine snapshot, cycles = earlier ++ [(machine, snapshot)] ∧
          system.settings.display.Breaks breakAfter earlier machine snapshot ∧
          conclusion.log.getLast? =
            some ⟨.info, .commandLine, s!"Interrupted after {cycles.length} cycles"⟩) ∨
        (Run.Undisturbed system.settings.display breakAfter cycles ∧
          let faults := (cycles.map Prod.snd).countP fun snapshot => snapshot.fault.isSome
          conclusion.log.getLast? =
            some ⟨.info, .session, s!"Run finished after {cycles.length} cycles ({faults} faults)"⟩)) := by
  obtain ⟨paced, image, built⟩ := Arguments.prepare_ready ready
  obtain ⟨cells, standard⟩ := built.memory
  have closes := Prepared.closes paced standard.memoryOnly ends
  have called : around.call texts seed breakAfter fuel =
      { system.conclude breakAfter fuel with
        log := (system.conclude breakAfter fuel).log.filter (LogEntry.shown arguments.debug) } := by
    unfold Surroundings.call
    rw [asked]
    dsimp only
    rw [ready]
    rfl
  dsimp only
  rw [called]
  generalize ended : system.outcome breakAfter fuel = result at closes
  cases closes with
  | @finished cycles last watched undisturbed =>
      let final : Run Float Canvas := { last with session := Run.finish last.session }
      have booked := watched.past.booked limit (.created system.machine)
      have past : Session.Past system.begun.session cycles final.session := watched.past.reported false _
      have tells : (system.conclusion final).Tells system.settings cycles :=
        Prepared.conclusion_tells limit past watched.canvas
      have log : (system.conclusion final).log = (system.log ++ last.session.log.toList) ++
          [⟨.info, .session,
            s!"Run finished after {last.session.cycles} cycles ({last.session.faults} faults)"⟩] := by
        simp [Prepared.conclusion, final, Run.finish, Session.report, Session.stop]
      rw [Prepared.conclude_finished ended]
      refine ⟨cycles, past, ⟨tells.halted, tells.unhalted, tells.output, rfl, rfl⟩, .inr ⟨undisturbed, ?_⟩⟩
      dsimp only
      rw [log, getLast?_shown _ _ rfl, booked.cycles, booked.faults, List.length_map]
  | @broken cycles machine snapshot last watched breaks =>
      let final : Run Float Canvas := { last with session := last.session.stop }
      have booked := watched.past.booked limit (.created system.machine)
      have tells : (system.conclusion final).Tells system.settings (cycles ++ [(machine, snapshot)]) :=
        Prepared.conclusion_tells limit watched.past.stop watched.canvas
      have entry : final.session.interruption = ⟨.info, .commandLine,
          s!"Interrupted after {(cycles ++ [(machine, snapshot)]).length} cycles"⟩ := by
        have count : final.session.cycles = (cycles ++ [(machine, snapshot)]).length := by
          rw [← List.length_map Prod.snd]
          exact booked.cycles
        rw [Session.interruption, count]
      rw [Prepared.conclude_broken ended]
      refine ⟨_, watched.past.stop, ⟨tells.halted, tells.unhalted, tells.output, rfl, rfl⟩,
        .inl ⟨cycles, machine, snapshot, rfl, breaks, ?_⟩⟩
      rw [← entry]
      exact getLast?_shown _ _ rfl

def Preparation.ready? : Preparation → Option Prepared
  | ready system => some system
  | usage _ | failed _ _ => none

/-- A folder with a program that starts with a fault. -/
def faulty : Folder where
  files := [("p.ch8".toUTF8.toList, [0x00, 0x00])]

/-- A run that is broken off while the frame of the cycle is drawn that also ends it. -/
theorem exit_status_tells_halt_broken_off :
    let conclusion :=
      faulty.surroundings.call ["p.ch8", "--hz", "0", "--halt-on-fault", "--show-registers"] 0 (some 1) 1
    conclusion.exitStatus = 1 ∧
      (∃ settings cycles, conclusion.Tells settings cycles ∧ settings.run.HaltedOn (cycles.map Prod.snd)) ∧
      conclusion.log.getLast? = some ⟨.info, .commandLine, "Interrupted after 1 cycles"⟩ := by
  intro conclusion
  let arguments : Arguments :=
    { program := some "p.ch8", hz := some 0, haltOnFault := true, showRegisters := true }
  have asked : Request.ofTexts ["p.ch8", "--hz", "0", "--halt-on-fault", "--show-registers"] =
      .ok (.start arguments) := rfl
  have facts : (Id.run (arguments.prepare faulty.surroundings 0)).ready?.any (fun system =>
      decide (system.settings.run.faultPolicy = .halt) &&
        decide (Run.value? (system.outcome (some 1) 1) = none)) = true := by
    decide +kernel
  have told : conclusion.exitStatus = 1 ∧
      conclusion.log.getLast? = some ⟨.info, .commandLine, "Interrupted after 1 cycles"⟩ := by
    decide +kernel
  refine ⟨told.1, ?_, told.2⟩
  cases ready : Id.run (arguments.prepare faulty.surroundings 0) with
  | usage cause | failed cause log =>
      rw [ready] at facts
      cases facts
  | ready system =>
      rw [ready] at facts
      simp only [Preparation.ready?, Option.any_some, Bool.and_eq_true, decide_eq_true_eq] at facts
      obtain ⟨policy, broken⟩ := facts
      have limit : system.settings.run.faultPolicy = .continue →
          0 ≤ system.settings.run.maxConsecutiveFaults := by
        intro other
        cases policy.symm.trans other
      have ends : system.Ends (some 1) 1 := by
        intro after spent
        rw [spent] at broken
        cases broken
      obtain ⟨cycles, _, tells, _⟩ := exit_status_tells_halt faulty.surroundings
        ["p.ch8", "--hz", "0", "--halt-on-fault", "--show-registers"] 0 (some 1) 1 asked ready limit ends
      refine ⟨system.settings, cycles, tells, ?_⟩
      refine Classical.byContradiction fun unhalted => ?_
      have other := tells.unhalted unhalted
      rw [told.1] at other
      cases other

end Chip8
