import Chip8.Proofs.Cycles

/-!
Runs of a machine. Between cycles the timers may be stepped and the bus may be used from outside; a run
is given by what happens at each moment, and faults do not end it.
-/

namespace Chip8

/-- What can happen to a machine at one moment, other than an assignment to its registers. -/
inductive Move where
  | step
  | tick
  | read (address : Int)
  | peek (address : Int)
  | write (address data : Int)
  | load (address : Int) (block : List UInt8)
  | drain

/-- Whether a move is meant to change the memory. -/
def Move.writes : Move → Bool
  | .write .. | .load .. => true
  | .step | .tick | .read _ | .peek _ | .drain => false

def onlySteps (_ : Nat) : Move := .step

namespace Machine

/-- The machine after a move, whether the move completed or failed. -/
def moved (machine : Machine) : Move → Machine
  | .step => step.left machine
  | .tick => { machine with state := machine.state.ticked }
  | .read address => (onBus (Bus.read address)).left machine
  | .peek address => (onBus (Bus.peek address)).left machine
  | .write address data => (onBus (Bus.write address data)).left machine
  | .load address block => (onBus (Bus.load address block)).left machine
  | .drain => (onBus Bus.drain).left machine

/-- The machine at a time of the run that starts with it and makes the given moves. -/
def timeline (machine : Machine) (moves : Nat → Move) : Nat → Machine
  | 0 => machine
  | time + 1 => (machine.timeline moves time).moved (moves time)

theorem moved_step {machine after : Machine} {snapshot : Snapshot}
    (ran : step machine = .ok snapshot after) : machine.moved .step = after := by
  simp only [moved, Action.left, ran]

theorem moved_state (machine : Machine) {move : Move} (noStep : move ≠ .step) (noTick : move ≠ .tick) :
    (machine.moved move).state = machine.state := by
  cases move with
  | step => exact absurd rfl noStep
  | tick => exact absurd rfl noTick
  | read | peek | write | load | drain => rw [moved, left_onBus]

end Machine

end Chip8
