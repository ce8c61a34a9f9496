import Chip8.Cycle
import Chip8.Proofs.BusReads
import Chip8.Proofs.Decoding

/-!
The result of each instruction as one equation. An instruction that fails does so with a fault and
before its first change: all that may have happened are reads, which stay in the log.
-/

namespace Chip8

namespace Machine

theorem put_apply (register : Register) (value : UInt8) (machine : Machine) :
    put register value machine =
      .ok () { machine with state := machine.state.withValue register value } := rfl

theorem skipIf_apply (condition : Bool) (machine : Machine) :
    skipIf condition machine =
      if condition then
        if 0 ≤ machine.state.pc + 2 ∧ machine.state.pc + 2 < 4096 then
          .ok () { machine with state := { machine.state with pc := machine.state.pc + 2 } }
        else .error (.fault (.outOfBounds (.target (machine.state.pc + 2)))) machine
      else .ok () machine := by
  cases condition with
  | false => simp [skipIf]
  | true =>
      by_cases inside : 0 ≤ machine.state.pc + 2 ∧ machine.state.pc + 2 < 4096 <;>
        simp [skipIf, State.skip_apply, State.jump_apply, inside]

end Machine

/-- The registers after a sprite was drawn at the coordinates in two registers. -/
def State.drawn (policy : DrawPolicy) (x y : Register) (sprite : List Int) (state : State) : State :=
  let points := spritePoints policy (state.value x).toNat (state.value y).toNat
    (sprite.map fun data => UInt8.ofNat (data % 256).toNat)
  let flipped := state.display.flipAll points
  { state with display := flipped.1 }.withValue Register.flag (if flipped.2 then 1 else 0)

/-- Everything that an instruction can do when it completes. -/
inductive Instruction.Effect (machine : Machine) : Instruction → Machine → Prop
  | clear :
      Effect machine .clear { machine with state := { machine.state with display := .blank } }
  | ret {address : UInt16} {rest : List UInt16} : machine.state.stack = address :: rest →
      Effect machine .ret { machine with
        state := { machine.state with pc := (address.toNat : Int), stack := rest } }
  | call (target : Fin 4096) : (machine.state.sp : Int) < machine.state.stackLimit →
      Effect machine (.call target) { machine with
        state := { machine.state with
          pc := (target.val : Int)
          stack := UInt16.ofInt machine.state.pc :: machine.state.stack } }
  | moves {instruction : Instruction} {target : Int} : 0 ≤ target → target < 4096 →
      Effect machine instruction { machine with state := { machine.state with pc := target } }
  | stays {instruction : Instruction} : Effect machine instruction machine
  | index (address : Fin 4096) :
      Effect machine (.loadIndex address) { machine with
        state := { machine.state with i := UInt16.ofNat address.val } }
  | registers {instruction : Instruction} (v : Vector UInt8 16) :
      Effect machine instruction { machine with state := { machine.state with v := v } }
  | random (x : Register) (mask : UInt8) :
      Effect machine (.random x mask) { machine with
        state := machine.state.withValue x (machine.generator.nextByte.1 &&& mask)
        generator := machine.generator.nextByte.2 }
  | draw (x y : Register) (rows : Fin 16) {accesses : List Access} {sprite : List Int} :
      machine.bus.block machine.state.i.toNat rows.val = (accesses, .ok sprite) →
      Effect machine (.draw x y rows) { machine with
        state := machine.state.drawn machine.drawPolicy x y sprite
        bus := machine.bus.noting accesses }

/-- What no instruction touches: the contents of the memory, the timers and the machine's settings. -/
structure Machine.Kept (before after : Machine) : Prop where
  bus : ∃ accesses, after.bus = before.bus.noting accesses
  delayTimer : after.state.delayTimer = before.state.delayTimer
  soundTimer : after.state.soundTimer = before.state.soundTimer
  depthLimit : after.state.stackLimit = before.state.stackLimit
  drawPolicy : after.drawPolicy = before.drawPolicy
  startAddress : after.startAddress = before.startAddress
  stackLimit : after.stackLimit = before.stackLimit
  cycleCount : after.cycleCount = before.cycleCount

namespace Instruction

open Machine

variable (machine : Machine)

theorem execute_clear :
    clear.execute machine = .ok () { machine with state := { machine.state with display := .blank } } := by
  simp [execute]

theorem execute_ret :
    ret.execute machine =
      match machine.state.stack with
      | [] => .error (.fault .stackUnderflow) machine
      | address :: rest =>
          .ok () { machine with
            state := { machine.state with pc := (address.toNat : Int), stack := rest } } := by
  cases stack : machine.state.stack <;> simp [execute, State.pop_apply, stack]

theorem execute_jump (target : Fin 4096) :
    (jump target).execute machine =
      .ok () { machine with state := { machine.state with pc := (target.val : Int) } } := by
  simp [execute]

theorem execute_call (target : Fin 4096) :
    (call target).execute machine =
      if (machine.state.sp : Int) < machine.state.stackLimit then
        .ok () { machine with
          state := { machine.state with
            pc := (target.val : Int)
            stack := UInt16.ofInt machine.state.pc :: machine.state.stack } }
      else .error (.fault (.stackOverflow machine.state.stackLimit)) machine := by
  by_cases room : (machine.state.sp : Int) < machine.state.stackLimit <;>
    simp [execute, State.push_apply, room]

theorem execute_skipIfByte (x : Register) (byte : UInt8) :
    (skipIfByte x byte).execute machine = skipIf (machine.state.value x == byte) machine := rfl

theorem execute_skipUnlessByte (x : Register) (byte : UInt8) :
    (skipUnlessByte x byte).execute machine = skipIf (machine.state.value x != byte) machine := rfl

theorem execute_skipIfEqual (x y : Register) :
    (skipIfEqual x y).execute machine =
      skipIf (machine.state.value x == machine.state.value y) machine := rfl

theorem execute_skipUnlessEqual (x y : Register) :
    (skipUnlessEqual x y).execute machine =
      skipIf (machine.state.value x != machine.state.value y) machine := rfl

theorem execute_loadIndex (address : Fin 4096) :
    (loadIndex address).execute machine =
      .ok () { machine with state := { machine.state with i := UInt16.ofNat address.val } } := by
  simp [execute]

theorem execute_jumpOffset (address : Fin 4096) :
    (jumpOffset address).execute machine =
      if (address.val : Int) + (machine.state.value Register.offset).toNat < 4096 then
        .ok () { machine with
          state := { machine.state with
            pc := (address.val : Int) + (machine.state.value Register.offset).toNat } }
      else
        .error (.fault (.outOfBounds
          (.offsetTarget ((address.val : Int) + (machine.state.value Register.offset).toNat)))) machine := by
  by_cases inside : (address.val : Int) + (machine.state.value Register.offset).toNat < 4096
  · have low : 0 ≤ (address.val : Int) + (machine.state.value Register.offset).toNat := by omega
    simp [execute, memorySize, State.jump_apply, inside, low]
  · simp [execute, memorySize, inside]

theorem execute_random (x : Register) (mask : UInt8) :
    (random x mask).execute machine =
      .ok () { machine with
        state := machine.state.withValue x (machine.generator.nextByte.1 &&& mask)
        generator := machine.generator.nextByte.2 } := by
  simp [execute, put_apply]

theorem execute_draw (x y : Register) (rows : Fin 16) :
    (draw x y rows).execute machine =
      match machine.bus.block machine.state.i.toNat rows.val with
      | (accesses, .ok sprite) =>
          .ok () { machine with
            state := machine.state.drawn machine.drawPolicy x y sprite
            bus := machine.bus.noting accesses }
      | (accesses, .error problem) =>
          .error problem { machine with bus := machine.bus.noting accesses } := by
  rcases reads : machine.bus.block machine.state.i.toNat rows.val with ⟨accesses, problem | sprite⟩
  · simp [execute, Bus.readBlock_apply, reads]
  · simp [execute, Bus.readBlock_apply, reads, put_apply, State.drawn]

variable {machine}

/-- An instruction that fails has changed nothing; the reads it made before stay in the log. -/
theorem execute_error {instruction : Instruction} {problem : Problem} {after : Machine}
    (failed : instruction.execute machine = .error problem after) :
    ∃ cause accesses, problem = .fault cause ∧
      after = { machine with bus := machine.bus.noting accesses } := by
  have nothingRead (cause : Fault) : ∃ cause' accesses, Problem.fault cause = .fault cause' ∧
      machine = { machine with bus := machine.bus.noting accesses } :=
    ⟨cause, [], rfl, by rw [Bus.noting_nil]⟩
  cases instruction with
  | ret =>
      rw [execute_ret] at failed
      split at failed <;> cases failed
      exact nothingRead _
  | call target =>
      rw [execute_call] at failed
      split at failed <;> cases failed
      exact nothingRead _
  | jumpOffset address =>
      rw [execute_jumpOffset] at failed
      split at failed <;> cases failed
      exact nothingRead _
  | skipIfByte | skipUnlessByte | skipIfEqual | skipUnlessEqual =>
      simp only [execute_skipIfByte, execute_skipUnlessByte, execute_skipIfEqual,
        execute_skipUnlessEqual, skipIf_apply] at failed
      split at failed
      · split at failed <;> cases failed
        exact nothingRead _
      · cases failed
  | draw x y rows =>
      rw [execute_draw] at failed
      split at failed
      · cases failed
      · rename_i accesses cause reads
        cases failed
        obtain ⟨overreach, rfl⟩ := Bus.block_error (congrArg Prod.snd reads)
        exact ⟨.outOfBounds overreach, accesses, rfl, rfl⟩
  | jump | loadIndex => simp [execute] at failed
  | _ => cases failed

/-- An instruction that completes has had one of the effects. -/
theorem effect_of_execute {instruction : Instruction} {after : Machine}
    (ran : instruction.execute machine = .ok () after) : Effect machine instruction after := by
  cases instruction with
  | clear =>
      cases ran
      exact .clear
  | ret =>
      rw [execute_ret] at ran
      split at ran <;> cases ran
      rename_i stack
      exact .ret stack
  | call target =>
      rw [execute_call] at ran
      split at ran <;> cases ran
      rename_i room
      exact .call target room
  | jump target =>
      rw [execute_jump] at ran
      cases ran
      exact .moves (by omega) (by omega)
  | jumpOffset address =>
      rw [execute_jumpOffset] at ran
      split at ran <;> cases ran
      exact .moves (by omega) (by omega)
  | skipIfByte | skipUnlessByte | skipIfEqual | skipUnlessEqual =>
      simp only [execute_skipIfByte, execute_skipUnlessByte, execute_skipIfEqual,
        execute_skipUnlessEqual, skipIf_apply] at ran
      split at ran
      · split at ran <;> cases ran
        exact .moves (by omega) (by omega)
      · cases ran
        exact .stays
  | loadIndex address =>
      rw [execute_loadIndex] at ran
      cases ran
      exact .index address
  | random x mask =>
      rw [execute_random] at ran
      cases ran
      exact .random x mask
  | draw x y rows =>
      rw [execute_draw] at ran
      split at ran <;> cases ran
      rename_i reads
      exact .draw x y rows reads
  | _ =>
      cases ran
      exact .registers _

theorem Effect.kept {instruction : Instruction} {after : Machine}
    (effect : Effect machine instruction after) : machine.Kept after := by
  have unread : ∃ accesses, machine.bus = machine.bus.noting accesses :=
    ⟨[], by rw [Bus.noting_nil]⟩
  cases effect with
  | draw x y rows reads => exact ⟨⟨_, rfl⟩, rfl, rfl, rfl, rfl, rfl, rfl, rfl⟩
  | _ => exact ⟨unread, rfl, rfl, rfl, rfl, rfl, rfl, rfl⟩

end Instruction

namespace Operation

/-- What a decoded word runs is the instruction that it was decoded to. -/
theorem execute_ofInstruction {word : Int} {instruction : Instruction}
    (encodes : instruction.Encodes word) :
    (ofInstruction word instruction).execute = instruction.execute := by
  simp only [Operation.execute, instruction?_ofInstruction encodes]

theorem execute_error {operation : Operation} {machine after : Machine} {problem : Problem}
    (failed : operation.execute machine = .error problem after) :
    ∃ cause accesses, problem = .fault cause ∧
      after = { machine with bus := machine.bus.noting accesses } := by
  cases found : operation.instruction? with
  | some instruction =>
      simp only [Operation.execute, found] at failed
      exact Instruction.execute_error failed
  | none =>
      simp only [Operation.execute, found, Action.fault_apply] at failed
      cases failed
      exact ⟨_, [], rfl, by rw [Bus.noting_nil]⟩

end Operation

namespace Machine

theorem execute_apply (word : Int) (machine : Machine) :
    execute word machine =
      match Operation.decode word with
      | .error problem => .error problem machine
      | .ok operation =>
          match operation.execute machine with
          | .ok _ after => .ok operation after
          | .error problem after => .error problem after := by
  cases decoded : Operation.decode word with
  | error problem => simp [execute, decoded]
  | ok operation => cases ran : operation.execute machine <;> simp [execute, decoded, ran]

theorem execute_encodes {word : Int} {instruction : Instruction}
    (encodes : instruction.Encodes word) (machine : Machine) :
    execute word machine =
      match instruction.execute machine with
      | .ok _ after => .ok (Operation.ofInstruction word instruction) after
      | .error problem after => .error problem after := by
  rw [execute_apply, Operation.decode_encodes encodes]
  simp only [Operation.execute_ofInstruction encodes]

end Machine

end Chip8
