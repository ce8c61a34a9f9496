import Chip8.Instruction.Basic
import Chip8.Machine

/-!
The effect of each instruction. Whatever can fail in an instruction comes before its first change, so
an instruction that faults leaves the machine as it was, apart from the reads it noted on the bus.
-/

namespace Chip8

namespace Machine

/-- Sets a register. -/
def put (register : Register) (value : UInt8) : Action Machine Unit :=
  onState (modify (State.withValue register value))

/-- Sets a register and then VF, so that a result in VF gives way to the flag. -/
def putWithFlag (register : Register) (value : UInt8) (flag : Bool) : Action Machine Unit := do
  put register value
  put Register.flag (if flag then 1 else 0)

/-- Skips the next instruction if the condition holds. -/
def skipIf (condition : Bool) : Action Machine Unit :=
  if condition then onState State.skip else pure ()

end Machine

open Machine in
/-- Runs an instruction. The program counter already points to the next one. Flags are computed from
the values before the instruction. -/
def Instruction.execute (instruction : Instruction) : Action Machine Unit := do
  let machine ← get
  let value := machine.state.value
  match instruction with
  | clear => onState State.clearDisplay
  | ret =>
      let address ← onState State.pop
      onState (modify fun state => { state with pc := (address.toNat : Int) })
  | jump target => onState (State.jump target.val)
  | call target =>
      onState (State.push machine.state.pc)
      onState (modify fun state => { state with pc := (target.val : Int) })
  | skipIfByte x byte => skipIf (value x == byte)
  | skipUnlessByte x byte => skipIf (value x != byte)
  | skipIfEqual x y => skipIf (value x == value y)
  | skipUnlessEqual x y => skipIf (value x != value y)
  | loadByte x byte => put x byte
  | addByte x byte => put x (value x + byte)
  | copy x y => put x (value y)
  | bitOr x y => put x (value x ||| value y)
  | bitAnd x y => put x (value x &&& value y)
  | bitXor x y => put x (value x ^^^ value y)
  | add x y => putWithFlag x (value x + value y) (decide (255 < (value x).toNat + (value y).toNat))
  | subtract x y => putWithFlag x (value x - value y) (decide (value y ≤ value x))
  | shiftRight x => putWithFlag x (value x >>> 1) ((value x).toNat.testBit 0)
  | subtractFrom x y => putWithFlag x (value y - value x) (decide (value x ≤ value y))
  | shiftLeft x => putWithFlag x (value x <<< 1) ((value x).toNat.testBit 7)
  | loadIndex address => onState (State.setIndex address.val)
  | jumpOffset address =>
      let target : Int := address.val + (value Register.offset).toNat
      if target < memorySize then onState (State.jump target)
      else Action.fault (.outOfBounds (.offsetTarget target))
  | random x mask => put x ((← drawByte) &&& mask)
  | draw x y rows =>
      let sprite ← onBus (Bus.readBlock machine.state.i.toNat rows.val)
      let points := spritePoints machine.drawPolicy (value x).toNat (value y).toNat
        (sprite.map fun data => UInt8.ofNat (data % 256).toNat)
      let (display, collided) := machine.state.display.flipAll points
      onState (modify fun state => { state with display := display })
      put Register.flag (if collided then 1 else 0)

namespace Operation

/-- Runs an operation through its pattern. A pattern that names nothing is an unsupported opcode. -/
def execute (operation : Operation) : Action Machine Unit :=
  match operation.instruction? with
  | some instruction => instruction.execute
  | none => Action.fault (.unsupportedOpcode operation.opcode)

end Operation

end Chip8
