import Chip8.Instruction.Execution

/-!
The instruction cycle: fetch, decode, execute. `step` runs one cycle and always describes it in a
snapshot; a fault ends the cycle and becomes part of the snapshot.
-/

namespace Chip8

/-- What one cycle did. -/
structure Snapshot where
  /-- The operation, unless the fetch or the decoding failed. -/
  operation : Option Operation
  /-- Cycles of the machine that ended without a fault, this one included. -/
  cycleCount : Nat
  /-- The address of the instruction and its text. -/
  symbol : String
  /-- The accesses of this cycle, oldest first. -/
  activity : List Access
  /-- The program counter after the cycle. -/
  pc : Int
  /-- The display after the cycle. -/
  display : Display
  fault : Option FaultReport
  deriving DecidableEq

/-- Whether the cycle ended without a fault. -/
def Snapshot.ok (snapshot : Snapshot) : Bool := snapshot.fault.isNone

namespace Machine

/-- Two answers of the bus as one word: the first, moved up by eight bits, and the second. What a bus answers
is never negative. -/
def joined (high low : Int) : Int := (high.toNat <<< 8 ||| low.toNat : Nat)

/-- Reads the word at the program counter, high byte first, and moves on by two bytes. A read that
fails leaves the program counter where it is. -/
def fetch : Action Machine Int := do
  let pc := (← get).state.pc
  let high ← onBus (Bus.read pc)
  let low ← onBus (Bus.read (pc + 1))
  onState (modify fun state => { state with pc := (pc + 2) % 65536 })
  return joined high low

/-- Decodes a word and runs it. -/
def execute (word : Int) : Action Machine Operation := do
  let operation ← ofExcept (Operation.decode word)
  operation.execute
  return operation

/-- Closes a cycle: takes the accesses off the bus and describes what happened. -/
def describe (start : Int) (operation : Option Operation) (fault : Option FaultReport) :
    Action Machine Snapshot := do
  let activity ← onBus Bus.drain
  let machine ← get
  let text := match operation with
    | some operation => operation.text
    | none => "???"
  return {
    operation := operation
    cycleCount := machine.cycleCount
    symbol := s!"{addressText start}: {text}"
    activity := activity
    pc := machine.state.pc
    display := machine.state.display
    fault := fault }

/-- Closes a cycle that did not complete. A misuse is not the program's doing and is passed on. -/
def giveUp (start : Int) (word : Option Int) (operation : Option Operation) (problem : Problem) :
    Action Machine Snapshot :=
  match problem with
  | .fault cause => describe start operation (some (cause.report start word))
  | .misuse cause => Action.misuse cause

/-- Runs one cycle. Accesses from before the cycle are not part of it, and only a cycle without a
fault is counted. -/
def step : Action Machine Snapshot := do
  discard (onBus Bus.drain)
  let start := (← get).state.pc
  fun machine =>
    match fetch machine with
    | .error problem after => giveUp start none none problem after
    | .ok word after =>
        match Operation.decode word with
        | .error problem => giveUp start (some word) none problem after
        | .ok operation =>
            match operation.execute after with
            | .error problem last => giveUp start (some word) (some operation) problem last
            | .ok _ last =>
                describe start (some operation) none
                  { last with cycleCount := last.cycleCount + operation.cycleCount }

/-- Runs a number of cycles. -/
def steps : Nat → Action Machine (List Snapshot)
  | 0 => pure []
  | count + 1 => do
      let snapshot ← step
      return snapshot :: (← steps count)

end Machine

end Chip8
