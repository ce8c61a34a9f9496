import Chip8.Display
import Chip8.Fault

/-!
The registers of the machine: sixteen byte registers, the index register, the program counter, two
timers, the call stack and the display. The actions here check their arguments and change nothing when
they refuse; the program counter may also be assigned freely.
-/

namespace Chip8

/-- Addresses run from 0 to 4095. -/
def memorySize : Nat := 4096

/-- Where programs are loaded and started unless said otherwise. -/
def programStart : Nat := 0x200

/-- One of V0 to VF. -/
abbrev Register := Fin 16

/-- V0, which is added to the target of a jump with offset. -/
def Register.offset : Register := 0

/-- VF, which also carries the flag of an operation. -/
def Register.flag : Register := 15

/-- The name of a register, from `V0` to `VF`. -/
def Register.name (register : Register) : String := s!"V{upperHex 1 register}"

structure State where
  pc : Int := programStart
  v : Vector UInt8 16 := Vector.replicate 16 0
  i : UInt16 := 0
  delayTimer : UInt8 := 0
  soundTimer : UInt8 := 0
  /-- Return addresses, the innermost call first. -/
  stack : List UInt16 := []
  stackLimit : Int := 16
  display : Display := .blank
  deriving DecidableEq

namespace State

/-- The depth of the call stack. -/
def sp (state : State) : Nat := state.stack.length

/-- The content of a register. -/
def value (state : State) (register : Register) : UInt8 := state.v[register]

/-- The state with one register replaced. -/
def withValue (register : Register) (value : UInt8) (state : State) : State :=
  { state with v := state.v.set register value }

theorem value_withValue (state : State) (written register : Register) (byte : UInt8) :
    (state.withValue written byte).value register =
      if register = written then byte else state.value register := by
  by_cases same : register = written
  · subst same
    simp [value, withValue]
  · have apart : (written : Nat) ≠ register := fun equal => same (Fin.ext equal.symm)
    simp [value, withValue, same, apart]

/-- The byte of a number that was found to be in range. -/
def byteOf (value : Int) (inside : 0 ≤ value ∧ value ≤ 0xFF) : UInt8 :=
  UInt8.ofNatLT value.toNat (by simp only [UInt8.size]; omega)

/-- The number of sixteen bits of a number that was found to be in range. -/
def wordOf (value : Int) (inside : 0 ≤ value ∧ value ≤ 0xFFFF) : UInt16 :=
  UInt16.ofNatLT value.toNat (by simp only [UInt16.size]; omega)

@[simp] theorem toNat_byteOf {value : Int} (inside : 0 ≤ value ∧ value ≤ 0xFF) :
    ((byteOf value inside).toNat : Int) = value := by
  rw [byteOf, UInt8.toNat_ofNatLT, Int.toNat_of_nonneg inside.1]

@[simp] theorem toNat_wordOf {value : Int} (inside : 0 ≤ value ∧ value ≤ 0xFFFF) :
    ((wordOf value inside).toNat : Int) = value := by
  rw [wordOf, UInt16.toNat_ofNatLT, Int.toNat_of_nonneg inside.1]

/-- One timer step: a timer that is not zero loses one. -/
def ticked (state : State) : State :=
  { state with
    delayTimer := if state.delayTimer = 0 then 0 else state.delayTimer - 1
    soundTimer := if state.soundTimer = 0 then 0 else state.soundTimer - 1 }

/-- The register of a number. -/
def registerOf (index : Int) : Action State Register :=
  if inside : 0 ≤ index ∧ index < 16 then pure ⟨index.toNat, by omega⟩
  else Action.misuse (.noSuchRegister index)

def readRegister (index : Int) : Action State UInt8 := do
  let register ← registerOf index
  return (← get).value register

/-- The number of the register is checked before the value. -/
def writeRegister (index value : Int) : Action State Unit := do
  let register ← registerOf index
  if inside : 0 ≤ value ∧ value ≤ 0xFF then
    modify (withValue register (byteOf value inside))
  else
    Action.misuse (.registerOutOfRange value)

def setIndex (value : Int) : Action State Unit :=
  if inside : 0 ≤ value ∧ value ≤ 0xFFFF then
    modify fun state => { state with i := wordOf value inside }
  else
    Action.misuse (.indexOutOfRange value)

/-- Sets the program counter, to an address of the memory only. -/
def jump (target : Int) : Action State Unit :=
  if 0 ≤ target ∧ target < memorySize then
    modify fun state => { state with pc := target }
  else
    Action.fault (.outOfBounds (.target target))

/-- Passes over one instruction. -/
def skip : Action State Unit := do
  jump ((← get).pc + 2)

/-- Pushes a return address, of which sixteen bits are kept. -/
def push (address : Int) : Action State Unit := do
  let state ← get
  if (state.stack.length : Int) < state.stackLimit then
    set { state with stack := wordOf (address % 65536) (by omega) :: state.stack }
  else
    Action.fault (.stackOverflow state.stackLimit)

/-- Takes the innermost return address off the stack. -/
def pop : Action State UInt16 := do
  let state ← get
  match state.stack with
  | [] => Action.fault .stackUnderflow
  | address :: rest =>
      set { state with stack := rest }
      return address

def setDelayTimer (value : Int) : Action State Unit :=
  if inside : 0 ≤ value ∧ value ≤ 0xFF then
    modify fun state => { state with delayTimer := byteOf value inside }
  else
    Action.misuse (.timerOutOfRange value)

def setSoundTimer (value : Int) : Action State Unit :=
  if inside : 0 ≤ value ∧ value ≤ 0xFF then
    modify fun state => { state with soundTimer := byteOf value inside }
  else
    Action.misuse (.timerOutOfRange value)

/-- The point of two coordinates, or a fault beside the display. -/
def pointOf (x y : Int) : Action State Point :=
  if inside : (0 ≤ x ∧ x < 64) ∧ 0 ≤ y ∧ y < 32 then
    pure ⟨⟨x.toNat, by omega⟩, ⟨y.toNat, by omega⟩⟩
  else
    Action.fault (.outOfBounds (.pixel x y))

def readPixel (x y : Int) : Action State Bool := do
  let point ← pointOf x y
  return (← get).display.lit point

/-- Flips a pixel and says whether it was lit. -/
def flipPixel (x y : Int) : Action State Bool := do
  let point ← pointOf x y
  let state ← get
  set { state with display := state.display.flip point }
  return state.display.lit point

def clearDisplay : Action State Unit :=
  modify fun state => { state with display := .blank }

/-- The registers by name, in the order in which they are listed. -/
def registerMap (state : State) : List (String × Int) :=
  (List.finRange 16).map (fun register => (Register.name register, ((state.value register).toNat : Int))) ++
    [("I", (state.i.toNat : Int)), ("PC", state.pc), ("SP", (state.sp : Int)),
      ("DT", (state.delayTimer.toNat : Int)), ("ST", (state.soundTimer.toNat : Int))]

/-- The registers in groups, each with the width in bits that is kept for showing it. -/
def registerLayout : List (String × List (String × Nat)) :=
  [("General", (List.finRange 16).map fun register => (Register.name register, 8)),
    ("Pointers", [("I", 16), ("PC", 16), ("SP", 8)]),
    ("Timers", [("DT", 8), ("ST", 8)])]

/-- The flags by name: the lowest bit of VF. -/
def flags (state : State) : List (String × Bool) :=
  [("VF", (state.value Register.flag).toNat % 2 == 1)]

end State

end Chip8
