import Chip8.Proofs.BusTrace
import Chip8.Proofs.CallStack
import Chip8.Proofs.Dependence
import Chip8.Proofs.Sprites

/-!
The picture over whole runs. Only the instructions that clear and that draw change it, and a sprite that
is drawn flips the points that it covers. So without clearing a pixel depends on nothing but the parity of
the number of drawings that cover it: their order makes no difference, and two equal ones cancel.
-/

namespace Chip8

theorem Display.eq_of_lit {first second : Display}
    (same : ∀ point, first.lit point = second.lit point) : first = second := by
  obtain ⟨pixels⟩ := first
  obtain ⟨pixels'⟩ := second
  refine congrArg Display.mk (Vector.ext fun number bound => ?_)
  have here := same ⟨⟨number % 64, by omega⟩, ⟨number / 64, by omega⟩⟩
  have position : number / 64 * 64 + number % 64 = number := by omega
  simpa only [lit, Point.number, Fin.getElem_fin, position] using here

theorem length_addressesFrom (first : Int) (count : Nat) :
    (addressesFrom first count).length = count := by
  induction count generalizing first with
  | zero => rfl
  | succ count ih => rw [addressesFrom, List.length_cons, ih]

namespace Bus.MemoryOnly

variable {bus : Bus}

theorem answer_stored (memories : bus.MemoryOnly) {address data : Int}
    (found : bus.answer address = .ok data) : data = (bus.stored address).toNat := by
  rw [answer] at found
  cases located : bus.locate? address with
  | none =>
      rw [located] at found
      cases found
  | some place =>
      obtain ⟨mapping, device⟩ := place
      obtain ⟨covering, attached⟩ := find?_of_locate? located
      obtain ⟨cells, rfl⟩ := memories mapping (List.mem_of_find?_eq_some covering) device attached
      rw [located] at found
      simp only [Device.read] at found
      split at found
      · simp only [stored, covering, attached]
        exact (Except.ok.inj found).symm
      · cases found

theorem block_stored (memories : bus.MemoryOnly) {address : Int} {count : Nat}
    {accesses : List Access} {data : List Int} (read : bus.block address count = (accesses, .ok data)) :
    data = (addressesFrom address count).map fun place => ((bus.stored place).toNat : Int) := by
  induction count generalizing address accesses data with
  | zero =>
      cases read
      rfl
  | succ count ih =>
      obtain ⟨byte, more, rest, first, following, rfl⟩ := block_succ read
      rw [addressesFrom, List.map_cons, ← ih following, ← memories.answer_stored first]

end Bus.MemoryOnly

theorem ofNat_data (byte : UInt8) : UInt8.ofNat ((byte.toNat : Int) % 256).toNat = byte := by
  have bound := byte.toNat_lt
  have small : ((byte.toNat : Int) % 256).toNat = byte.toNat := by omega
  rw [small, UInt8.ofNat_toNat]

/-- A sprite with its origin. -/
structure Drawing where
  x : UInt8
  y : UInt8
  rows : List UInt8
  few : rows.length < 16
  deriving DecidableEq

namespace Drawing

variable {policy : DrawPolicy} {drawing : Drawing} {point : Point}

def Covers (drawing : Drawing) (policy : DrawPolicy) (point : Point) : Prop :=
  policy.Covers drawing.x.toNat drawing.y.toNat drawing.rows.length
    (fun row => (drawing.rows.getD row 0).toNat) point

def points (drawing : Drawing) (policy : DrawPolicy) : List Point :=
  spritePoints policy drawing.x.toNat drawing.y.toNat drawing.rows

theorem mem_points : point ∈ drawing.points policy ↔ drawing.Covers policy point := by
  have rows : ((List.range drawing.rows.length).map fun row =>
      ((drawing.rows.getD row 0).toNat : Int)).map (fun data => UInt8.ofNat (data % 256).toNat) =
        drawing.rows := by
    rw [List.map_map]
    refine List.ext_getElem (by simp) fun row _ inside => ?_
    simp [ofNat_data, inside]
  rw [Covers, ← mem_spritePoints_iff_covers, rows, points]

instance : Decidable (drawing.Covers policy point) := decidable_of_iff _ mem_points

theorem nodup_points (drawing : Drawing) (policy : DrawPolicy) : (drawing.points policy).Nodup :=
  nodup_spritePoints (Nat.le_of_lt (Nat.lt_of_lt_of_le drawing.few (by omega)))

end Drawing

namespace Operation

variable {operation : Operation} {x y : Register} {rows : Fin 16}

/-- The registers with the origin and the number of rows of an operation that draws. -/
def draw? (operation : Operation) : Option (Register × Register × Fin 16) :=
  let fields := Fields.ofWord operation.opcode
  if operation.pattern = "Dxyn" then some (fields.x, fields.y, fields.n) else none

theorem draw?_eq_some_iff :
    operation.draw? = some (x, y, rows) ↔ operation.instruction? = some (.draw x y rows) := by
  have listed :
      Instruction.ofPattern? (Instruction.draw x y rows).pattern (Fields.ofWord operation.opcode) =
        some (.draw (Fields.ofWord operation.opcode).x (Fields.ofWord operation.opcode).y
          (Fields.ofWord operation.opcode).n) := rfl
  rw [instruction?_eq_some_iff, listed]
  simp [draw?, Instruction.pattern]

end Operation

theorem Instruction.Effect.display_kept {instruction : Instruction} {machine after : Machine}
    (effect : Effect machine instruction after) (noClear : instruction.mnemonic ≠ "CLS")
    (noDraw : instruction.mnemonic ≠ "DRW") : after.state.display = machine.state.display := by
  cases effect with
  | clear => exact absurd rfl noClear
  | draw x y rows read => exact absurd rfl noDraw
  | _ => rfl

namespace Machine

/-- What a machine draws with given operands: the bytes from I on, at the origin in the registers. -/
def drawingWith (machine : Machine) : Register × Register × Fin 16 → Drawing
  | (x, y, rows) => {
      x := machine.state.value x
      y := machine.state.value y
      rows := (addressesFrom machine.state.i.toNat rows.val).map machine.bus.stored
      few := by rw [List.length_map, length_addressesFrom]; omega }

/-- What a move draws, if it is a cycle that completes a drawing. -/
def drawing? (machine : Machine) : Move → Option Drawing
  | .step =>
      match step machine with
      | .ok snapshot _ => (snapshot.completed?.bind Operation.draw?).map machine.drawingWith
      | .error .. => none
  | _ => none

/-- What the moves before a time draw, in order. -/
def drawings (machine : Machine) (moves : Nat → Move) (time : Nat) : List Drawing :=
  (List.range time).filterMap fun moment => (machine.timeline moves moment).drawing? (moves moment)

/-- What a move does to the picture, and how that shows. -/
inductive PictureChange (machine : Machine) (move : Move) : Prop
  | keeps : machine.completes "CLS" move = false → machine.drawing? move = none →
      (machine.moved move).state.display = machine.state.display → PictureChange machine move
  | clears : machine.completes "CLS" move = true → machine.drawing? move = none →
      (machine.moved move).state.display = .blank → PictureChange machine move
  | draws (drawing : Drawing) : machine.completes "CLS" move = false →
      machine.drawing? move = some drawing →
      (machine.moved move).state.display =
        (machine.state.display.flipAll (drawing.points machine.drawPolicy)).1 →
      (machine.moved move).state.value Register.flag =
        (if (machine.state.display.flipAll (drawing.points machine.drawPolicy)).2 then 1 else 0) →
      PictureChange machine move

theorem drawn_eq (machine : Machine) (policy : DrawPolicy) (x y : Register) (rows : Fin 16)
    {sprite : List Int}
    (read : sprite = (addressesFrom machine.state.i.toNat rows.val).map fun place =>
      ((machine.bus.stored place).toNat : Int)) :
    machine.state.drawn policy x y sprite =
      let flipped := machine.state.display.flipAll ((machine.drawingWith (x, y, rows)).points policy)
      { machine.state with display := flipped.1 }.withValue Register.flag
        (if flipped.2 then 1 else 0) := by
  have bytes : sprite.map (fun data => UInt8.ofNat (data % 256).toNat) =
      (addressesFrom machine.state.i.toNat rows.val).map machine.bus.stored := by
    rw [read, List.map_map]
    exact List.map_congr_left fun _ _ => ofNat_data _
  rw [State.drawn, bytes]
  rfl

theorem pictureChange_of_cycle {machine after : Machine} {snapshot : Snapshot}
    (memories : machine.bus.MemoryOnly) (ran : step machine = .ok snapshot after) :
    machine.PictureChange .step := by
  have left := moved_step ran
  have shown (name : String) : machine.completes name .step =
      (snapshot.ok && snapshot.operation.any (·.mnemonic == name)) := by
    simp only [completes, ran]
  have drawn : machine.drawing? .step =
      (snapshot.completed?.bind Operation.draw?).map machine.drawingWith := by
    rw [drawing?, ran]
  cases cycle_of_step ran with
  | fetchFault failed => exact .keeps (shown _) drawn (by rw [left]; rfl)
  | decodeFault read failed => exact .keeps (shown _) drawn (by rw [left]; rfl)
  | executionFault read decoded failed =>
      obtain ⟨_, more, _, rfl⟩ := Operation.execute_error failed
      exact .keeps (shown _) drawn (by rw [left]; rfl)
  | completed read decoded executed =>
      obtain ⟨instruction, encodes, rfl⟩ := Operation.exists_encodes_of_decode decoded
      have found := Operation.instruction?_ofInstruction encodes
      rw [Operation.execute_ofInstruction encodes] at executed
      have named (name : String) : machine.completes name .step = (instruction.mnemonic == name) :=
        shown name
      have undrawn (other : ∀ x y rows, instruction ≠ .draw x y rows) :
          machine.drawing? .step = none := by
        refine drawn.trans (Option.map_eq_none_iff.mpr (Option.eq_none_iff_forall_ne_some.mpr ?_))
        rintro ⟨x, y, rows⟩ draws
        have same := found.symm.trans (Operation.draw?_eq_some_iff.mp draws)
        exact other x y rows (Option.some.inj same)
      cases instruction with
      | clear =>
          cases executed
          exact .clears (named _) (undrawn (by simp)) (by rw [left]; rfl)
      | draw x y rows =>
          rw [Instruction.execute_draw] at executed
          split at executed <;> cases executed
          rename_i reads
          have memoriesNow (log : List Access) : (machine.logging log).advanced.bus.MemoryOnly := memories
          have pictured := drawn_eq (machine.logging _).advanced machine.drawPolicy x y rows
            ((memoriesNow _).block_stored reads)
          refine .draws (machine.drawingWith (x, y, rows)) (named _) ?_ ?_ ?_
          · refine drawn.trans (Option.map_eq_some_iff.mpr ⟨(x, y, rows), ?_, rfl⟩)
            exact Operation.draw?_eq_some_iff.mpr found
          · rw [left]
            exact congrArg State.display pictured
          · rw [left]
            refine (congrArg (State.value · Register.flag) pictured).trans ?_
            exact (State.value_withValue _ _ _ _).trans (if_pos rfl)
      | _ =>
          have kept := (Instruction.effect_of_execute executed).display_kept
            (by simp [Instruction.mnemonic]) (by simp [Instruction.mnemonic])
          refine .keeps (named _) (undrawn (by simp)) ?_
          rw [left]
          exact kept

variable {machine : Machine} {moves : Nat → Move}

theorem pictureChange (memories : machine.bus.MemoryOnly) (move : Move) : machine.PictureChange move := by
  cases move with
  | step =>
      obtain ⟨snapshot, after, ran⟩ := exists_step memories
      exact pictureChange_of_cycle memories ran
  | tick => exact .keeps rfl rfl rfl
  | _ =>
      refine .keeps rfl rfl ?_
      rw [moved_state machine (by simp) (by simp)]

theorem moved_drawPolicy (machine : Machine) (move : Move) :
    (machine.moved move).drawPolicy = machine.drawPolicy := by
  cases move with
  | step => exact (step_inherits machine).drawPolicy
  | tick => rfl
  | read | peek | write | load | drain => rw [moved, left_onBus]

theorem timeline_drawPolicy (machine : Machine) (moves : Nat → Move) (time : Nat) :
    (machine.timeline moves time).drawPolicy = machine.drawPolicy := by
  induction time with
  | zero => rfl
  | succ time ih => exact (moved_drawPolicy _ (moves time)).trans ih

/-- How many drawings cover a point. -/
def coverings (policy : DrawPolicy) (point : Point) (drawings : List Drawing) : Nat :=
  drawings.countP fun drawing => decide (drawing.Covers policy point)

/-- Whether no move before a time clears the display. -/
def Uncleared (machine : Machine) (moves : Nat → Move) (time : Nat) : Prop :=
  ∀ moment < time, (machine.timeline moves moment).completes "CLS" (moves moment) = false

theorem drawings_succ (machine : Machine) (moves : Nat → Move) (time : Nat) :
    machine.drawings moves (time + 1) = machine.drawings moves time ++
      ((machine.timeline moves time).drawing? (moves time)).toList := by
  rw [drawings, drawings, List.range_succ, List.filterMap_append]
  cases drawn : (machine.timeline moves time).drawing? (moves time) <;> simp [drawn]

theorem odd_succ (count : Nat) : ((count + 1) % 2 == 1) = !(count % 2 == 1) := by
  rcases Nat.mod_two_eq_zero_or_one count with even | odd
  · simp [Nat.add_mod, even]
  · simp [Nat.add_mod, odd]

theorem lit_timeline (memories : machine.bus.MemoryOnly) {time : Nat}
    (uncleared : machine.Uncleared moves time) (point : Point) :
    (machine.timeline moves time).state.display.lit point =
      (machine.state.display.lit point ^^
        (coverings machine.drawPolicy point (machine.drawings moves time) % 2 == 1)) := by
  -- The invariant is the parity of the drawings so far that cover the point.
  induction time with
  | zero => simp [timeline, drawings, coverings]
  | succ time ih =>
      have before := ih fun moment sooner => uncleared moment (by omega)
      have policy := machine.timeline_drawPolicy moves time
      rw [drawings_succ, coverings, List.countP_append, ← coverings]
      cases pictureChange (timeline_memoryOnly memories moves time) (moves time) with
      | keeps _ undrawn kept =>
          rw [timeline, kept, before, undrawn, Option.toList_none, List.countP_nil, Nat.add_zero]
      | clears cleared => exact absurd cleared (by simp [uncleared time (by omega)])
      | draws drawing _ drawn flipped =>
          rw [timeline, flipped, Display.lit_flipAll_of_nodup (drawing.nodup_points _), before, drawn, policy,
            Option.toList_some, List.countP_singleton]
          by_cases covered : drawing.Covers machine.drawPolicy point
          · rw [if_pos (Drawing.mem_points.mpr covered), if_pos (decide_eq_true covered), odd_succ,
              Bool.xor_not]
          · rw [if_neg fun member => covered (Drawing.mem_points.mp member),
              if_neg (by simp [covered]), Nat.add_zero]

/-- Runs from one picture end with one picture if every point is covered as often, up to pairs. -/
theorem display_of_coverings {first second : Machine} {moves moves' : Nat → Move} {time time' : Nat}
    (memories : first.bus.MemoryOnly) (memories' : second.bus.MemoryOnly)
    (uncleared : first.Uncleared moves time) (uncleared' : second.Uncleared moves' time')
    (policy : second.drawPolicy = first.drawPolicy)
    (display : second.state.display = first.state.display)
    (parities : ∀ point, coverings first.drawPolicy point (second.drawings moves' time') % 2 =
      coverings first.drawPolicy point (first.drawings moves time) % 2) :
    (second.timeline moves' time').state.display = (first.timeline moves time).state.display := by
  refine Display.eq_of_lit fun point => ?_
  rw [lit_timeline memories uncleared, lit_timeline memories' uncleared', policy, display, parities]

theorem coverings_perm {policy : DrawPolicy} {point : Point} {first second : List Drawing}
    (perm : first.Perm second) : coverings policy point first = coverings policy point second :=
  perm.countP_eq _

theorem coverings_twice (policy : DrawPolicy) (point : Point) (drawing : Drawing)
    (drawings : List Drawing) : coverings policy point (drawing :: drawing :: drawings) % 2 =
      coverings policy point drawings % 2 := by
  rw [coverings, List.countP_cons, List.countP_cons, coverings]
  omega

theorem timeline_undrawn (memories : machine.bus.MemoryOnly) {start time : Nat} (later : start ≤ time)
    (uncleared : machine.Uncleared moves time)
    (undrawn : ∀ moment, start ≤ moment → moment < time →
      (machine.timeline moves moment).drawing? (moves moment) = none) :
    (machine.timeline moves time).state.display = (machine.timeline moves start).state.display := by
  induction later with
  | refl => rfl
  | @step time later ih =>
      have before := ih (fun moment sooner => uncleared moment (Nat.lt_succ_of_lt sooner))
        fun moment begun sooner => undrawn moment begun (Nat.lt_succ_of_lt sooner)
      have nothing := undrawn time later (Nat.lt_succ_self time)
      cases pictureChange (timeline_memoryOnly memories moves time) (moves time) with
      | keeps _ _ kept => exact kept.trans before
      | clears cleared => exact absurd cleared (by simp [uncleared time (Nat.lt_succ_self time)])
      | draws drawing _ drawn => exact absurd (drawn.symm.trans nothing) (by simp)

theorem moved_draws (memories : machine.bus.MemoryOnly) {move : Move} {drawing : Drawing}
    (draws : machine.drawing? move = some drawing) :
    (machine.moved move).state.display =
        (machine.state.display.flipAll (drawing.points machine.drawPolicy)).1 ∧
      (machine.moved move).state.value Register.flag =
        if (machine.state.display.flipAll (drawing.points machine.drawPolicy)).2 then 1 else 0 := by
  cases pictureChange memories move with
  | keeps _ undrawn => exact absurd (undrawn.symm.trans draws) (by simp)
  | clears _ undrawn => exact absurd (undrawn.symm.trans draws) (by simp)
  | draws other _ drawn flipped flag =>
      cases Option.some.inj (drawn.symm.trans draws)
      exact ⟨flipped, flag⟩

end Machine

/-- A sprite drawn twice leaves the picture, and the second time it meets what was dark at first. -/
theorem Display.flipAll_twice {points : List Point} (distinct : points.Nodup) (display : Display) :
    ((display.flipAll points).1.flipAll points).1 = display ∧
      (((display.flipAll points).1.flipAll points).2 = true ↔
        ∃ point ∈ points, display.lit point = false) := by
  constructor
  · refine eq_of_lit fun point => ?_
    rw [lit_flipAll_of_nodup distinct, lit_flipAll_of_nodup distinct]
    by_cases member : point ∈ points
    · rw [if_pos member, if_pos member, Bool.not_not]
    · rw [if_neg member, if_neg member]
  · rw [flipAll_collides distinct]
    refine exists_congr fun point => and_congr_right fun member => ?_
    rw [lit_flipAll_of_nodup distinct, if_pos member, Bool.not_eq_true']

namespace Machine

/-- Drawing is a commuting exclusive or. As long as nothing clears the display, a pixel has changed by the
parity of the number of completed drawings that cover it. Hence runs with the same drawings in any order,
or with a pair of equal ones more, come to the same picture; and the second of two equal drawings in a row
takes the first back, with VF telling whether a covered pixel was dark before them. -/
theorem pictures_are_parities (machine : Machine) (memories : machine.bus.MemoryOnly)
    (moves : Nat → Move) (last : Nat) (uncleared : machine.Uncleared moves last) :
    (∀ point, (machine.timeline moves last).state.display.lit point =
      (machine.state.display.lit point ^^
        (coverings machine.drawPolicy point (machine.drawings moves last) % 2 == 1))) ∧
    (∀ (other : Machine) (moves' : Nat → Move) (last' : Nat), other.bus.MemoryOnly →
      other.Uncleared moves' last' → other.drawPolicy = machine.drawPolicy →
      other.state.display = machine.state.display →
      ((other.drawings moves' last').Perm (machine.drawings moves last) →
        (other.timeline moves' last').state.display = (machine.timeline moves last).state.display) ∧
      ∀ drawing,
        (other.drawings moves' last').Perm (drawing :: drawing :: machine.drawings moves last) →
        (other.timeline moves' last').state.display = (machine.timeline moves last).state.display) ∧
    ∀ first second drawing, first < second → second < last →
      (machine.timeline moves first).drawing? (moves first) = some drawing →
      (machine.timeline moves second).drawing? (moves second) = some drawing →
      (∀ between, first < between → between < second →
        (machine.timeline moves between).drawing? (moves between) = none) →
      let before := (machine.timeline moves first).state.display
      let after := (machine.timeline moves (second + 1)).state
      after.display = before ∧
        (after.value Register.flag = 1 ↔
          ∃ point, drawing.Covers machine.drawPolicy point ∧ before.lit point = false) ∧
        (after.value Register.flag = 0 ∨ after.value Register.flag = 1) := by
  refine ⟨fun point => lit_timeline memories uncleared point, ?_, ?_⟩
  · intro other moves' last' memories' uncleared' policy display
    have reaches := display_of_coverings memories memories' uncleared uncleared' policy display
    refine ⟨?_, ?_⟩
    · intro perm
      exact reaches fun point => by rw [coverings_perm perm]
    · intro drawing perm
      exact reaches fun point => by rw [coverings_perm perm, coverings_twice]
  · intro first second drawing order inside draws draws' undrawn before after
    have flipped := (moved_draws (timeline_memoryOnly memories moves first) draws).1
    have between : (machine.timeline moves second).state.display =
        (machine.timeline moves (first + 1)).state.display :=
      timeline_undrawn memories order (fun moment sooner => uncleared moment (by omega))
        fun moment begun sooner => undrawn moment begun sooner
    obtain ⟨display, flag⟩ := moved_draws (timeline_memoryOnly memories moves second) draws'
    have picture : (machine.timeline moves second).state.display =
        (before.flipAll (drawing.points machine.drawPolicy)).1 := by
      rw [between, timeline, flipped, timeline_drawPolicy]
    obtain ⟨restored, meets⟩ :=
      Display.flipAll_twice (drawing.nodup_points machine.drawPolicy) before
    rw [timeline_drawPolicy, picture] at display flag
    simp only [Drawing.mem_points] at meets
    have value : after.value Register.flag =
        if ((before.flipAll (drawing.points machine.drawPolicy)).1.flipAll
          (drawing.points machine.drawPolicy)).2 then 1 else 0 := flag
    rw [value, ← meets]
    refine ⟨display.trans restored, ?_⟩
    cases ((before.flipAll (drawing.points machine.drawPolicy)).1.flipAll
        (drawing.points machine.drawPolicy)).2 with
    | true => exact ⟨by simp, .inr rfl⟩
    | false => exact ⟨by simp, .inl rfl⟩

/-- A program that draws one row of four pixels twice. -/
def blinking : Machine where
  state := { pc := 0 }
  bus := {
    devices := #[.memory #[0xA0, 0x06, 0xD0, 0x11, 0xD0, 0x11, 0xF0, 0x00]]
    mappings := [Mapping.mk 0 7 0] }
  generator := ⟨Vector.replicate 624 0, 0⟩
  drawPolicy := .clip
  startAddress := 0
  stackLimit := 16
  cycleCount := 0

def fourPixels : Drawing := ⟨0, 0, [0xF0], by decide⟩

theorem pictures_are_parities_blinking :
    blinking.bus.MemoryOnly ∧ blinking.Uncleared onlySteps 3 ∧
      blinking.drawings onlySteps 3 = [fourPixels, fourPixels] ∧
      (blinking.timeline onlySteps 2).state.display.lit ⟨3, 0⟩ = true ∧
      (blinking.timeline onlySteps 3).state.display = blinking.state.display ∧
      (blinking.timeline onlySteps 3).state.value Register.flag = 1 := by
  have memories : blinking.bus.MemoryOnly := .single _ _ _
  have uncleared : blinking.Uncleared onlySteps 3 := by
    intro moment sooner
    obtain rfl | rfl | rfl : moment = 0 ∨ moment = 1 ∨ moment = 2 := by omega
    all_goals decide +kernel
  have drawn : blinking.drawings onlySteps 3 = [fourPixels, fourPixels] := by decide +kernel
  have first : (blinking.timeline onlySteps 1).drawing? (onlySteps 1) = some fourPixels := by
    decide +kernel
  have second : (blinking.timeline onlySteps 2).drawing? (onlySteps 2) = some fourPixels := by
    decide +kernel
  have once : coverings blinking.drawPolicy ⟨3, 0⟩ (blinking.drawings onlySteps 2) = 1 := by
    decide +kernel
  have dark : (blinking.timeline onlySteps 1).state.display.lit ⟨3, 0⟩ = false := by decide +kernel
  obtain ⟨parity, _, _⟩ := pictures_are_parities blinking memories onlySteps 2
    fun moment sooner => uncleared moment (by omega)
  obtain ⟨_, cancels, _⟩ := pictures_are_parities blinking memories onlySteps 0
    fun moment sooner => absurd sooner (Nat.not_lt_zero moment)
  obtain ⟨_, _, twice⟩ := pictures_are_parities blinking memories onlySteps 3 uncleared
  have restored := (cancels blinking onlySteps 3 memories uncleared rfl rfl).2 fourPixels
    (drawn ▸ List.Perm.refl _)
  obtain ⟨_, met, _⟩ := twice 1 2 fourPixels (by omega) (by omega) first second
    fun between later sooner => absurd later (by omega)
  have blank : blinking.state.display.lit ⟨3, 0⟩ = false := by decide +kernel
  refine ⟨memories, uncleared, drawn, ?_, restored, met.mpr ⟨⟨3, 0⟩, ?_, dark⟩⟩
  · rw [parity, once, blank]
    rfl
  · exact ⟨0, 3, by decide, by decide, by decide, by decide⟩

end Machine

end Chip8
