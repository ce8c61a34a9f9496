import Chip8.Bus
import Chip8.Generator
import Chip8.State

/-!
The machine: registers, bus and random bytes, with the settings that it keeps through a reset.
-/

namespace Chip8

structure Machine where
  state : State
  bus : Bus
  generator : Generator
  drawPolicy : DrawPolicy
  startAddress : Int
  stackLimit : Int
  /-- Cycles that ended without a fault. -/
  cycleCount : Nat
  deriving DecidableEq

namespace Machine

/-- The registers after a start or a reset. -/
def freshState (startAddress stackLimit : Int) : State :=
  { pc := startAddress, stackLimit := stackLimit }

/-- A machine on a bus. The stack limit is checked before the start address. -/
def build (bus : Bus) (generator : Generator) (drawPolicy : DrawPolicy)
    (stackLimit startAddress : Int) : Except Problem Machine :=
  if stackLimit ≤ 0 then .error (.misuse .stackLimitNotPositive)
  else if ¬ (0 ≤ startAddress ∧ startAddress < memorySize) then
    .error (.misuse (.startOutsideMemory startAddress))
  else
    .ok {
      state := freshState startAddress stackLimit
      bus := bus
      generator := generator
      drawPolicy := drawPolicy
      startAddress := startAddress
      stackLimit := stackLimit
      cycleCount := 0 }

/-- Sets the registers back. The bus and the generator stay as they are. -/
def reset (machine : Machine) : Machine :=
  { machine with
    state := freshState machine.startAddress machine.stackLimit
    cycleCount := 0 }

/-- An action on the registers. -/
def onState {α : Type} (action : Action State α) : Action Machine α :=
  action.within Machine.state fun state machine => { machine with state := state }

/-- An action on the bus. -/
def onBus {α : Type} (action : Action Bus α) : Action Machine α :=
  action.within Machine.bus fun bus machine => { machine with bus := bus }

/-- Takes the next random byte. -/
def drawByte : Action Machine UInt8 :=
  modifyGet fun machine =>
    let (byte, generator) := machine.generator.nextByte
    (byte, { machine with generator := generator })

end Machine

end Chip8
