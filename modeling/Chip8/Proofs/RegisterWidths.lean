import Chip8.Proofs.Cycles
import Chip8.Proofs.Timeline
import Mathlib.Algebra.Ring.Int.Defs

/-!
The widths that are declared for showing the registers. The layout lists the registers of the map, each
once, and every value keeps to its width, with one exception: eight bits are declared for the depth of the
call stack, which may grow to any limit that a machine was built with.
-/

namespace Chip8

namespace State

/-- The registers of the layout with their widths, without the groups. -/
def widths : List (String × Nat) := registerLayout.flatMap Prod.snd

/-- Whether a value fits into the width that is declared for its register. -/
def Fits (entry : String × Int) : Prop :=
  ∃ width, widths.lookup entry.1 = some width ∧ 0 ≤ entry.2 ∧ entry.2 < 2 ^ width

theorem names_widths (state : State) : widths.map Prod.fst = state.registerMap.map Prod.fst := by
  simp [widths, registerLayout, registerMap, Function.comp_def]

theorem nodup_widths : (widths.map Prod.fst).Nodup := by decide +kernel

theorem fits_iff {name : String} {width : Nat} (declared : widths.lookup name = some width) (value : Int) :
    Fits (name, value) ↔ 0 ≤ value ∧ value < 2 ^ width := by
  simp [Fits, declared]

theorem lookup_widths :
    (∀ register : Register, widths.lookup register.name = some 8 ∧ register.name ≠ "SP") ∧
      widths.lookup "I" = some 16 ∧ widths.lookup "PC" = some 16 ∧ widths.lookup "SP" = some 8 ∧
      widths.lookup "DT" = some 8 ∧ widths.lookup "ST" = some 8 := by
  decide +kernel

/-- What bounds the registers that no type bounds: the program counter, and the depth of the stack by the
given limit. -/
structure Bounded (state : State) (limit : Int) : Prop where
  pc : 0 ≤ state.pc ∧ state.pc ≤ 0xFFFF
  depth : (state.sp : Int) ≤ limit
  stackLimit : state.stackLimit = limit

/-- What may happen to these parts: the program counter stays or moves to a number of sixteen bits, and the
call stack grows by one entry at most, and only below its limit. -/
structure Guarded (before after : State) : Prop where
  pc : after.pc = before.pc ∨ 0 ≤ after.pc ∧ after.pc ≤ 0xFFFF
  depth : after.sp ≤ before.sp ∨ after.sp = before.sp + 1 ∧ (before.sp : Int) < before.stackLimit
  stackLimit : after.stackLimit = before.stackLimit

theorem Guarded.of_same {before after : State} (pc : after.pc = before.pc)
    (stack : after.stack = before.stack) (stackLimit : after.stackLimit = before.stackLimit) :
    before.Guarded after := by
  have depth : after.sp = before.sp := by rw [sp, sp, stack]
  exact ⟨.inl pc, .inl (Nat.le_of_eq depth), stackLimit⟩

theorem Bounded.guarded {before after : State} {limit : Int} (bounded : before.Bounded limit)
    (guarded : before.Guarded after) : after.Bounded limit := by
  refine ⟨?_, ?_, guarded.stackLimit.trans bounded.stackLimit⟩
  · rcases guarded.pc with same | inside
    · rw [same]
      exact bounded.pc
    · exact inside
  · have bound := bounded.depth
    rcases guarded.depth with shrunk | ⟨grown, room⟩
    · omega
    · rw [bounded.stackLimit] at room
      omega

/-- The bounds of the registers and the declared widths agree, but for the depth of the stack. -/
theorem Bounded.fits_iff {state : State} {limit : Int} (bounded : state.Bounded limit)
    {entry : String × Int} (listed : entry ∈ state.registerMap) :
    Fits entry ↔ (entry.1 = "SP" → state.sp < 256) := by
  obtain ⟨declared, declaredIndex, declaredPc, declaredSp, declaredDelay, declaredSound⟩ := lookup_widths
  rw [registerMap, List.mem_append, List.mem_map] at listed
  rcases listed with ⟨register, _, rfl⟩ | special
  · have small := (state.value register).toNat_lt
    rw [State.fits_iff (declared register).1]
    exact iff_of_true (by omega) (absurd · (declared register).2)
  · have index := state.i.toNat_lt
    have pc := bounded.pc
    have delay := state.delayTimer.toNat_lt
    have sound := state.soundTimer.toNat_lt
    simp only [List.mem_cons, List.not_mem_nil, or_false] at special
    rcases special with rfl | rfl | rfl | rfl | rfl
    · rw [State.fits_iff declaredIndex]
      exact iff_of_true (by omega) (by simp)
    · rw [State.fits_iff declaredPc]
      exact iff_of_true (by omega) (by simp)
    · rw [State.fits_iff declaredSp]
      simp only [forall_const]
      omega
    · rw [State.fits_iff declaredDelay]
      exact iff_of_true (by omega) (by simp)
    · rw [State.fits_iff declaredSound]
      exact iff_of_true (by omega) (by simp)

end State

/-- Instructions do not pass through the checked operations everywhere, but they keep to the same guards. -/
theorem Instruction.Effect.guarded {instruction : Instruction} {machine after : Machine}
    (effect : Effect machine instruction after) : machine.state.Guarded after.state := by
  cases effect with
  | @ret address rest stack =>
      have small := address.toNat_lt
      refine ⟨.inr ?_, .inl ?_, rfl⟩
      · dsimp only
        omega
      · rw [State.sp, State.sp, stack, List.length_cons]
        exact Nat.le_succ _
  | call target room =>
      refine ⟨.inr ?_, .inr ⟨List.length_cons, room⟩, rfl⟩
      dsimp only
      omega
  | moves low high =>
      refine ⟨.inr ?_, .inl (Nat.le_refl _), rfl⟩
      dsimp only
      omega
  | clear | stays | index | registers | random | draw => exact .of_same rfl rfl rfl

namespace Machine

theorem advanced_guarded (machine : Machine) : machine.state.Guarded machine.advanced.state := by
  refine ⟨.inr ?_, .inl (Nat.le_refl _), rfl⟩
  dsimp only [advanced]
  omega

theorem cycle_bounded {machine after : Machine} {snapshot : Snapshot} {limit : Int}
    (bounded : machine.state.Bounded limit) (cycle : Cycle machine snapshot after) :
    after.state.Bounded limit := by
  have ready : machine.advanced.state.Bounded limit := bounded.guarded machine.advanced_guarded
  cases cycle with
  | fetchFault failed => exact bounded
  | decodeFault read failed => exact ready
  | executionFault read decoded failed =>
      obtain ⟨_, more, _, rfl⟩ := Operation.execute_error failed
      exact ready
  | @completed accesses bytes operation last read decoded ran =>
      obtain ⟨instruction, encodes, rfl⟩ := Operation.exists_encodes_of_decode decoded
      rw [Operation.execute_ofInstruction encodes] at ran
      have also : ((machine.logging accesses).advanced).state.Bounded limit := ready
      exact also.guarded (Instruction.effect_of_execute ran).guarded

theorem moved_bounded {machine : Machine} {limit : Int} (bounded : machine.state.Bounded limit)
    (move : Move) : (machine.moved move).state.Bounded limit := by
  cases move with
  | step =>
      cases ran : step machine with
      | ok snapshot after =>
          rw [moved_step ran]
          exact cycle_bounded bounded (cycle_of_step ran)
      | error problem after =>
          obtain ⟨accesses, rfl⟩ := step_error ran
          rw [moved, Action.left, ran]
          exact bounded.guarded machine.advanced_guarded
  | tick => exact bounded.guarded (.of_same rfl rfl rfl)
  | _ =>
      rw [moved_state machine (by simp) (by simp)]
      exact bounded

theorem timeline_bounded {machine : Machine} {limit : Int} (bounded : machine.state.Bounded limit)
    (moves : Nat → Move) (time : Nat) : (machine.timeline moves time).state.Bounded limit := by
  induction time with
  | zero => exact bounded
  | succ time ih => exact moved_bounded ih (moves time)

theorem build_bounded {bus : Bus} {generator : Generator} {policy : DrawPolicy} {limit start : Int}
    {machine : Machine} (built : build bus generator policy limit start = .ok machine) :
    machine.state.Bounded limit := by
  unfold build at built
  split at built
  · cases built
  · split at built
    · cases built
    · cases built
      refine ⟨?_, ?_, rfl⟩
      · simp only [freshState, memorySize] at *
        omega
      · simp only [freshState, State.sp, List.length_nil]
        omega

/-- A program that calls itself, so many calls deep. -/
def callLoop (limit : Int) (depth : Nat) : Machine where
  state := { pc := 0x200, stack := List.replicate depth 0x202, stackLimit := limit }
  bus := {
    devices := #[.memory #[0x22, 0x00]]
    mappings := [Mapping.mk 0x200 0x201 0] }
  generator := ⟨Vector.replicate 624 0, 0⟩
  drawPolicy := .wrap
  startAddress := 0x200
  stackLimit := limit
  cycleCount := depth

theorem callLoop_built {limit : Int} (room : 0 < limit) :
    build (callLoop limit 0).bus (callLoop limit 0).generator .wrap limit 0x200 =
      .ok (callLoop limit 0) := by
  rw [build, if_neg (by omega), if_neg (by simp [memorySize])]
  rfl

theorem callLoop_moved {limit : Int} {depth : Nat} (room : (depth : Int) < limit) :
    (callLoop limit depth).moved .step = callLoop limit (depth + 1) := by
  obtain ⟨accesses, read⟩ : ∃ accesses, (callLoop limit depth).bus.block 0x200 2 =
      (accesses, .ok [0x22, 0x00]) := ⟨_, rfl⟩
  have encodes : (Instruction.call 0x200).Encodes (bigEndian [0x22, 0x00]) := rfl
  have room' : (((callLoop limit depth).logging accesses).advanced.state.sp : Int) <
      ((callLoop limit depth).logging accesses).advanced.state.stackLimit := by
    simpa [callLoop, logging, advanced, State.sp] using room
  have executed := Operation.execute_ofInstruction encodes
  have called := @Instruction.execute_call ((callLoop limit depth).logging accesses).advanced 0x200
  rw [if_pos room', ← executed] at called
  rw [moved_step (step_of_cycle (.completed read (Operation.decode_encodes encodes) called))]
  rfl

theorem callLoop_timeline {limit : Int} {time : Nat} (room : (time : Int) ≤ limit) :
    (callLoop limit 0).timeline onlySteps time = callLoop limit time := by
  induction time with
  | zero => rfl
  | succ time ih => rw [timeline, ih (by omega), onlySteps, callLoop_moved (by omega)]

theorem callLoop_overflows {limit : Int} (deep : 256 ≤ limit) :
    ¬ ∀ entry ∈ ((callLoop limit 0).timeline onlySteps 256).state.registerMap, State.Fits entry := by
  intro fits
  rw [callLoop_timeline (by omega)] at fits
  have depth : (callLoop limit 256).state.sp = 256 := List.length_replicate
  have listed : ("SP", ((callLoop limit 256).state.sp : Int)) ∈ (callLoop limit 256).state.registerMap := by
    simp [State.registerMap]
  have fitted := ((State.fits_iff State.lookup_widths.2.2.2.1 _).mp (fits _ listed)).2
  omega

/-- A state that some machine with the given limit of its stack comes to. -/
def Reached (limit : Int) (state : State) : Prop :=
  ∃ bus generator policy start machine moves time,
    build bus generator policy limit start = .ok machine ∧ state = (machine.timeline moves time).state

theorem Reached.bounded {limit : Int} {state : State} (reached : Reached limit state) :
    state.Bounded limit := by
  obtain ⟨bus, generator, policy, start, machine, moves, time, built, rfl⟩ := reached
  exact timeline_bounded (build_bounded built) moves time

/-- The layout lists the registers of the map in every state, each once, and all values except the depth
of the stack keep to their widths whatever happens. The depth does so in every run exactly if its limit
does. -/
theorem registers_fit_widths (limit : Int) :
    (State.widths.map Prod.fst).Nodup ∧
    (∀ state, Reached limit state →
      State.widths.map Prod.fst = state.registerMap.map Prod.fst ∧
      ∀ entry ∈ state.registerMap, entry.1 ≠ "SP" → State.Fits entry) ∧
    ((∀ state, Reached limit state → ∀ entry ∈ state.registerMap, State.Fits entry) ↔ limit < 256) := by
  refine ⟨State.nodup_widths, ?_, ?_⟩
  · intro state reached
    refine ⟨state.names_widths, ?_⟩
    intro entry listed other
    exact (reached.bounded.fits_iff listed).mpr (absurd · other)
  · constructor
    · intro fits
      refine Int.not_le.mp fun deep => callLoop_overflows deep (fits _ ?_)
      exact ⟨_, _, _, _, callLoop limit 0, onlySteps, 256, callLoop_built (by omega), rfl⟩
    · intro small state reached entry listed
      have depth := reached.bounded.depth
      refine (reached.bounded.fits_iff listed).mpr fun _ => ?_
      omega

/-- A program that calls itself 256 times. -/
theorem registers_fit_widths_not_deep :
    build (callLoop 256 0).bus (callLoop 256 0).generator .wrap 256 0x200 = .ok (callLoop 256 0) ∧
      ¬ ∀ entry ∈ ((callLoop 256 0).timeline onlySteps 256).state.registerMap, State.Fits entry :=
  ⟨callLoop_built (by decide), callLoop_overflows (by decide)⟩

end Machine

end Chip8
