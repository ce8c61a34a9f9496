import Chip8.Proofs.Cycles

/-!
What a cycle depends on. An instruction looks at the registers, at what the bus answers, at the next
random byte if it is random, and at the draw policy if it draws; it looks at nothing else. Where two
machines agree on that, an instruction changes both in the same way, and so does a whole cycle, which
also shows the same of both.
-/

namespace Chip8

theorem Bus.block_of_answers {first second : Bus} (answers : second.answer = first.answer) :
    second.block = first.block := by
  funext address count
  induction count generalizing address with
  | zero => rfl
  | succ count ih => simp only [block, answers, ih]

/-- The random bytes that an instruction draws when it completes. -/
def Instruction.bytes : Instruction → Nat
  | random .. => 1
  | _ => 0

def Operation.bytes (operation : Operation) : Nat := operation.instruction?.elim 0 Instruction.bytes

/-- The operation of a cycle that ended without a fault. -/
def Snapshot.completed? (snapshot : Snapshot) : Option Operation :=
  if snapshot.ok then snapshot.operation else none

namespace Machine

/-- The machine with other registers, after accesses were noted and random bytes were drawn. -/
def passing (machine : Machine) (state : State) (accesses : List Access) (bytes : Nat) : Machine :=
  { machine with
    state := state
    bus := machine.bus.noting accesses
    generator := machine.generator.advance bytes }

theorem passing_quiet (machine : Machine) (state : State) :
    machine.passing state [] 0 = { machine with state := state } := by
  rw [passing, Bus.noting_nil]
  rfl

/-- Two machines on which an instruction finds the same. Without an instruction the random bytes and the
draw policies play no part. -/
structure SeenAlike (first second : Machine) (instruction : Option Instruction) : Prop where
  state : second.state = first.state
  answers : second.bus.answer = first.bus.answer
  byte : ∀ x mask, instruction = some (.random x mask) →
    second.generator.nextByte.1 = first.generator.nextByte.1
  drawPolicy : ∀ x y rows, instruction = some (.draw x y rows) → second.drawPolicy = first.drawPolicy

/-- Two executions that change their machines in the same way. A fault changes nothing; the reads from
before it stay noted. -/
inductive ExecutedAlike (first second : Machine) (bytes : Nat) :
    EStateM.Result Problem Machine Unit → EStateM.Result Problem Machine Unit → Prop
  | completes (state : State) (accesses : List Access) :
      ExecutedAlike first second bytes (.ok () (first.passing state accesses bytes))
        (.ok () (second.passing state accesses bytes))
  | faults (cause : Fault) (accesses : List Access) :
      ExecutedAlike first second bytes
        (.error (.fault cause) { first with bus := first.bus.noting accesses })
        (.error (.fault cause) { second with bus := second.bus.noting accesses })

variable {first second : Machine}

theorem SeenAlike.on_bus (machine : Machine) (instruction : Option Instruction) {bus : Bus}
    (answers : bus.answer = machine.bus.answer) :
    SeenAlike machine { machine with bus := bus } instruction where
  state := rfl
  answers := answers
  byte := fun _ _ _ => rfl
  drawPolicy := fun _ _ _ _ => rfl

theorem SeenAlike.refl (machine : Machine) (instruction : Option Instruction) :
    SeenAlike machine machine instruction := .on_bus machine instruction rfl

theorem ExecutedAlike.quiet (state : State) :
    ExecutedAlike first second 0 (.ok () { first with state := state })
      (.ok () { second with state := state }) := by
  rw [← passing_quiet, ← passing_quiet]
  exact .completes state []

theorem ExecutedAlike.refused (bytes : Nat) (cause : Fault) :
    ExecutedAlike first second bytes (.error (.fault cause) first) (.error (.fault cause) second) := by
  have faults := @ExecutedAlike.faults first second bytes cause []
  rwa [Bus.noting_nil, Bus.noting_nil] at faults

theorem skipIf_alike (condition : Bool) (state : second.state = first.state) :
    ExecutedAlike first second 0 (skipIf condition first) (skipIf condition second) := by
  obtain ⟨_, bus, generator, drawPolicy, start, limit, count⟩ := second
  cases state
  rw [skipIf_apply, skipIf_apply]
  cases condition with
  | false => exact .quiet first.state
  | true =>
      by_cases inside : 0 ≤ first.state.pc + 2 ∧ first.state.pc + 2 < 4096
      · rw [if_pos rfl, if_pos rfl, if_pos inside, if_pos inside]
        exact .quiet _
      · rw [if_pos rfl, if_pos rfl, if_neg inside, if_neg inside]
        exact .refused 0 _

end Machine

open Machine in
/-- An instruction does the same on two machines on which it finds the same. -/
theorem Instruction.execute_alike {first second : Machine} {instruction : Instruction}
    (seen : SeenAlike first second (some instruction)) :
    ExecutedAlike first second instruction.bytes (instruction.execute first)
      (instruction.execute second) := by
  have blocks := Bus.block_of_answers seen.answers
  have sameByte := seen.byte
  have samePolicy := seen.drawPolicy
  have sameState := seen.state
  clear seen
  obtain ⟨_, bus, generator, drawPolicy, start, limit, count⟩ := second
  cases sameState
  cases instruction with
  | ret =>
      rw [execute_ret, execute_ret]
      dsimp only
      cases first.state.stack with
      | nil => exact .refused 0 _
      | cons address rest => exact .quiet _
  | call target =>
      rw [execute_call, execute_call]
      by_cases room : (first.state.sp : Int) < first.state.stackLimit
      · rw [if_pos room, if_pos room]
        exact .quiet _
      · rw [if_neg room, if_neg room]
        exact .refused 0 _
  | jumpOffset address =>
      rw [execute_jumpOffset, execute_jumpOffset]
      by_cases inside : (address.val : Int) + (first.state.value Register.offset).toNat < 4096
      · rw [if_pos inside, if_pos inside]
        exact .quiet _
      · rw [if_neg inside, if_neg inside]
        exact .refused 0 _
  | skipIfByte | skipUnlessByte | skipIfEqual | skipUnlessEqual => exact skipIf_alike _ rfl
  | jump target =>
      rw [execute_jump, execute_jump]
      exact .quiet _
  | loadIndex address =>
      rw [execute_loadIndex, execute_loadIndex]
      exact .quiet _
  | random x mask =>
      have byte := sameByte x mask rfl
      have drawn := @ExecutedAlike.completes first
        ⟨first.state, bus, generator, drawPolicy, start, limit, count⟩ 1
        (first.state.withValue x (first.generator.nextByte.1 &&& mask)) []
      simp only [passing, Bus.noting_nil] at drawn
      rw [execute_random, execute_random, byte]
      exact drawn
  | draw x y rows =>
      cases samePolicy x y rows rfl
      rw [execute_draw, execute_draw, blocks]
      dsimp only
      rcases reads : first.bus.block first.state.i.toNat rows.val with ⟨accesses, problem | sprite⟩
      · obtain ⟨overreach, rfl⟩ := Bus.block_error (congrArg Prod.snd reads)
        exact .faults _ accesses
      · exact .completes _ accesses
  | _ => exact .quiet _

open Machine in
theorem Operation.execute_alike {first second : Machine} {operation : Operation}
    (seen : SeenAlike first second operation.instruction?) :
    ExecutedAlike first second operation.bytes (operation.execute first) (operation.execute second) := by
  rw [execute, bytes]
  cases found : operation.instruction? with
  | none => exact .refused 0 _
  | some instruction =>
      rw [found] at seen
      exact Instruction.execute_alike seen

namespace Machine

variable {first second : Machine}

/-- The instruction that the next cycle runs, if the cycle gets that far. -/
def next? (machine : Machine) : Option Instruction :=
  match (machine.bus.block machine.state.pc 2).2 with
  | .ok bytes =>
      match Operation.decode (bigEndian bytes) with
      | .ok operation => operation.instruction?
      | .error _ => none
  | .error _ => none

/-- The machine in the course of a cycle, with other registers and with the accesses of the cycle in its
log, after random bytes were drawn and completed cycles counted. -/
def within (machine : Machine) (state : State) (accesses : List Access) (bytes cycles : Nat) : Machine :=
  { machine with
    state := state
    bus := { machine.bus with activity := accesses }
    generator := machine.generator.advance bytes
    cycleCount := machine.cycleCount + cycles }

/-- Two cycles that show the same and change their machines in the same way. -/
inductive SteppedAlike (first second : Machine) :
    EStateM.Result Problem Machine Snapshot → EStateM.Result Problem Machine Snapshot → Prop
  | described (snapshot : Snapshot) (state : State) (cycles : Nat) :
      SteppedAlike first second
        (.ok snapshot (first.within state [] (snapshot.completed?.elim 0 Operation.bytes) cycles))
        (.ok snapshot (second.within state [] (snapshot.completed?.elim 0 Operation.bytes) cycles))
  | passedOn (problem : Problem) (state : State) (accesses : List Access) :
      SteppedAlike first second (.error problem (first.within state accesses 0 0))
        (.error problem (second.within state accesses 0 0))

theorem SteppedAlike.closing (cycleCount : second.cycleCount = first.cycleCount) (start : Int)
    (operation : Option Operation) (fault : Option FaultReport) (state : State)
    (accesses : List Access) {bytes : Nat} (cycles : Nat)
    (drawn : (if fault.isNone then operation else none).elim 0 Operation.bytes = bytes) :
    SteppedAlike first second
      (describe start operation fault (first.within state accesses bytes cycles))
      (describe start operation fault (second.within state accesses bytes cycles)) := by
  have portraits : (second.within state accesses bytes cycles).portrait start operation fault =
      (first.within state accesses bytes cycles).portrait start operation fault := by
    simp only [portrait, within, cycleCount]
  have shown : ((first.within state accesses bytes cycles).portrait start operation
      fault).completed?.elim 0 Operation.bytes = bytes := drawn
  have described := @SteppedAlike.described first second
    ((first.within state accesses bytes cycles).portrait start operation fault) state cycles
  rw [describe_apply, describe_apply, portraits]
  rwa [shown] at described

theorem SeenAlike.ready {instruction : Option Instruction} (seen : SeenAlike first second instruction)
    (accesses : List Access) :
    SeenAlike (first.logging accesses).advanced (second.logging accesses).advanced instruction where
  state := congrArg (fun state : State => { state with pc := (state.pc + 2) % 65536 }) seen.state
  answers := seen.answers
  byte := seen.byte
  drawPolicy := seen.drawPolicy

/-- A cycle does the same on two machines on which its instruction finds the same. -/
theorem step_alike (seen : SeenAlike first second first.next?)
    (cycleCount : second.cycleCount = first.cycleCount) :
    SteppedAlike first second (step first) (step second) := by
  rw [step_apply, step_apply, fetch_logging, fetch_logging, Bus.block_of_answers seen.answers,
    seen.state]
  have unmoved (accesses : List Access) :
      second.logging accesses = second.within first.state accesses 0 0 := by
    rw [← seen.state]
    rfl
  have moved (accesses : List Access) : (second.logging accesses).advanced =
      second.within (first.logging accesses).advanced.state accesses 0 0 := by
    rw [← (seen.ready accesses).state]
    rfl
  rw [next?] at seen
  rcases fetched : first.bus.block first.state.pc 2 with ⟨accesses, problem | bytes⟩
  -- Without a word the program counters have not moved.
  · obtain ⟨overreach, rfl⟩ := Bus.block_error (congrArg Prod.snd fetched)
    dsimp only
    rw [unmoved]
    exact .closing cycleCount _ _ _ first.state accesses 0 rfl
  · rw [fetched] at seen
    dsimp only at seen ⊢
    cases decoded : Operation.decode (bigEndian bytes) with
    | error problem =>
        dsimp only
        rw [moved]
        cases problem with
        | misuse cause => exact .passedOn (.misuse cause) _ accesses
        | fault cause => exact .closing cycleCount _ _ _ _ accesses 0 rfl
    | ok operation =>
        rw [decoded] at seen
        have alike := Operation.execute_alike (seen.ready accesses)
        dsimp only
        generalize operation.execute (first.logging accesses).advanced = result at alike
        generalize operation.execute (second.logging accesses).advanced = result' at alike
        cases alike with
        | completes state more =>
            exact .closing cycleCount _ _ _ state (accesses ++ more) operation.cycleCount rfl
        | faults cause more =>
            rw [moved]
            exact .closing cycleCount _ _ _ _ (accesses ++ more) 0 rfl

/-- What a machine keeps whatever is done with it, and what it keeps unless its bus is used from outside. -/
structure Inherits (before after : Machine) (usesBus : Bool) : Prop where
  drawPolicy : after.drawPolicy = before.drawPolicy
  startAddress : after.startAddress = before.startAddress
  stackLimit : after.stackLimit = before.stackLimit
  answers : usesBus = false → after.bus.answer = before.bus.answer

theorem Inherits.refl (machine : Machine) (usesBus : Bool) : machine.Inherits machine usesBus :=
  ⟨rfl, rfl, rfl, fun _ => rfl⟩

theorem step_inherits (machine : Machine) : machine.Inherits (step.left machine) false := by
  have alike : SteppedAlike machine machine (step machine) (step machine) :=
    step_alike (.refl machine _) rfl
  rw [Action.left]
  generalize step machine = result at alike
  cases alike with
  | described | passedOn => exact ⟨rfl, rfl, rfl, fun _ => rfl⟩

theorem perform_inherits (operation : Operation) (machine : Machine) :
    machine.Inherits (operation.execute.left machine) false := by
  have alike : ExecutedAlike machine machine operation.bytes (operation.execute machine)
      (operation.execute machine) :=
    Operation.execute_alike (.refl machine _)
  rw [Action.left]
  generalize operation.execute machine = result at alike
  cases alike with
  | completes | faults => exact ⟨rfl, rfl, rfl, fun _ => rfl⟩

end Machine

end Chip8
