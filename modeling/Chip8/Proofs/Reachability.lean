import Chip8.Assembly
import Chip8.Proofs.BusWrites
import Chip8.Proofs.Hazards

/-!
What a standard machine can come to. Whatever is done to it from outside and whichever faults occur, its
registers stay within bounds, and every further cycle has a description. The program counter and the
return addresses reach one past the memory, since only jumps are checked.
-/

namespace Chip8

/-- The bus that machines are assembled on is the standard one, with a blank memory. -/
theorem standardBus_isStandard :
    ∃ bus, standardBus = .ok bus ∧ bus.IsStandard (Vector.replicate 4096 0) := by
  have positive : (0 : Int) < memorySize := by
    simp only [memorySize]
    omega
  have attached : (#[Device.blankMemory memorySize])[0]? = some (.blankMemory memorySize) := by simp
  unfold standardBus
  dsimp only
  rw [Action.bind_apply, Bus.attachMemory_apply memorySize (by omega)]
  dsimp only
  rw [Bus.register_memory (by omega) attached (by omega)]
  refine ⟨_, rfl, ?_, rfl⟩
  simp [Device.blankMemory, memorySize]

/-- What can be done to a machine from outside. -/
inductive Command where
  | step
  | execute (word : Int)
  | tick
  | reset
  | load (address : Int) (block : List UInt8)
  | write (address data : Int)

/-- The bounds of the registers under a limit of the call depth. -/
structure State.InBounds (state : State) (limit : Int) : Prop where
  registers : state.v.toList.length = 16 ∧ ∀ register, (state.value register).toNat ≤ 0xFF
  pc : 0 ≤ state.pc ∧ state.pc ≤ 0x1000
  index : state.i.toNat ≤ 0xFFF
  timers : state.delayTimer.toNat ≤ 0xFF ∧ state.soundTimer.toNat ≤ 0xFF
  depth : state.sp = state.stack.length ∧ (state.sp : Int) ≤ limit
  entries : ∀ address ∈ state.stack, address.toNat ≤ 0x1000
  display : state.display.bytes.length = 2048 ∧ ∀ byte ∈ state.display.bytes, byte = 0 ∨ byte = 1

/-- The bounds that the types of the registers leave open. -/
structure State.Confined (state : State) : Prop where
  pc : 0 ≤ state.pc ∧ state.pc ≤ 0x1000
  index : state.i.toNat ≤ 0xFFF
  entries : ∀ address ∈ state.stack, address.toNat ≤ 0x1000
  depth : (state.sp : Int) ≤ state.stackLimit

theorem State.Confined.inBounds {state : State} (confined : state.Confined) :
    state.InBounds state.stackLimit where
  registers := ⟨by simp, fun register => Nat.le_of_lt_succ (state.value register).toNat_lt⟩
  pc := confined.pc
  index := confined.index
  timers := ⟨Nat.le_of_lt_succ state.delayTimer.toNat_lt, Nat.le_of_lt_succ state.soundTimer.toNat_lt⟩
  depth := ⟨rfl, confined.depth⟩
  entries := confined.entries
  display := state.display.bytes_pixels

theorem State.Confined.moved {state : State} (confined : state.Confined) {target : Int}
    (low : 0 ≤ target) (high : target ≤ 0x1000) : { state with pc := target }.Confined :=
  ⟨⟨low, high⟩, confined.index, confined.entries, confined.depth⟩

theorem State.Confined.popped {state : State} (confined : state.Confined) {address : UInt16}
    {rest : List UInt16} (stack : state.stack = address :: rest) :
    { state with pc := (address.toNat : Int), stack := rest }.Confined := by
  have entries := confined.entries
  have depth := confined.depth
  rw [stack] at entries
  rw [State.sp, stack, List.length_cons] at depth
  have entry : address.toNat ≤ 0x1000 := entries address List.mem_cons_self
  refine ⟨⟨Int.natCast_nonneg _, Int.ofNat_le.mpr entry⟩, confined.index, ?_, ?_⟩
  · intro other member
    exact entries other (List.mem_cons_of_mem _ member)
  · simp only [State.sp]
    omega

theorem State.Confined.pushed {state : State} (confined : state.Confined)
    (room : (state.sp : Int) < state.stackLimit) :
    { state with stack := UInt16.ofInt state.pc :: state.stack }.Confined := by
  have pc := confined.pc
  refine ⟨confined.pc, confined.index, ?_, ?_⟩
  · intro address member
    rcases List.mem_cons.mp member with rfl | member
    · simp only [UInt16.ofInt, UInt16.toNat_ofNat']
      omega
    · exact confined.entries address member
  · simp only [State.sp, List.length_cons] at room ⊢
    omega

theorem Instruction.Effect.confined {instruction : Instruction} {machine after : Machine}
    (effect : Effect machine instruction after) (confined : machine.state.Confined) :
    after.state.Confined := by
  cases effect with
  | ret stack => exact confined.popped stack
  | call target room => exact (confined.pushed room).moved (by omega) (by omega)
  | moves low high => exact confined.moved low (by omega)
  | index address =>
      refine ⟨confined.pc, ?_, confined.entries, confined.depth⟩
      simp only [UInt16.toNat_ofNat']
      omega
  | clear | stays | registers | random | draw =>
      exact ⟨confined.pc, confined.index, confined.entries, confined.depth⟩

namespace Machine

theorem freshState_confined {start limit : Int} (inside : 0 ≤ start ∧ start ≤ 0xFFF)
    (room : 0 < limit) : (freshState start limit).Confined where
  pc := ⟨inside.1, by simp only [freshState]; omega⟩
  index := Nat.zero_le _
  entries := by
    intro address member
    cases member
  depth := Int.le_of_lt room

/-- What a machine is like after a command, whether the command completed or failed. -/
def perform (machine : Machine) : Command → Machine
  | .step => step.left machine
  | .execute word => (execute word).left machine
  | .tick => { machine with state := machine.state.ticked }
  | .reset => machine.reset
  | .load address block => (onBus (Bus.load address block)).left machine
  | .write address data => (onBus (Bus.write address data)).left machine

/-- The invariant of a standard machine that was built with a limit of the call depth. -/
structure Settled (machine : Machine) (limit : Int) : Prop where
  memory : ∃ cells, machine.bus.IsStandard cells
  confined : machine.state.Confined
  depthLimit : machine.state.stackLimit = limit
  stackLimit : machine.stackLimit = limit
  room : 0 < limit
  start : 0 ≤ machine.startAddress ∧ machine.startAddress ≤ 0xFFF

namespace Settled

variable {machine after : Machine} {limit : Int}

theorem onBus (settled : machine.Settled limit) {bus : Bus} (memory : ∃ cells, bus.IsStandard cells) :
    { machine with bus := bus }.Settled limit :=
  ⟨memory, settled.confined, settled.depthLimit, settled.stackLimit, settled.room, settled.start⟩

theorem logging (settled : machine.Settled limit) (accesses : List Access) :
    (machine.logging accesses).Settled limit := by
  obtain ⟨cells, standard⟩ := settled.memory
  exact settled.onBus ⟨cells, standard.devices, standard.mappings⟩

theorem advanced (settled : machine.Settled limit) {cells : Vector UInt8 4096} {word : Int}
    (fetched : Fetched machine.state cells word) : machine.advanced.Settled limit := by
  obtain ⟨low, high, _⟩ := fetched
  have moved : machine.advanced.state.Confined := settled.confined.moved (by omega) (by omega)
  exact ⟨settled.memory, moved, settled.depthLimit, settled.stackLimit, settled.room, settled.start⟩

theorem executed (settled : machine.Settled limit) {instruction : Instruction}
    (ran : instruction.execute machine = .ok () after) : after.Settled limit := by
  have effect := Instruction.effect_of_execute ran
  have kept := effect.kept
  obtain ⟨accesses, bus⟩ := kept.bus
  obtain ⟨cells, standard⟩ := settled.memory
  refine ⟨⟨cells, ?_⟩, effect.confined settled.confined, ?_, ?_, settled.room, ?_⟩
  · rw [bus]
    exact ⟨standard.devices, standard.mappings⟩
  · rw [kept.depthLimit, settled.depthLimit]
  · rw [kept.stackLimit, settled.stackLimit]
  · rw [kept.startAddress]
    exact settled.start

theorem refused (settled : machine.Settled limit) {operation : Operation} {problem : Problem}
    (failed : operation.execute machine = .error problem after) : after.Settled limit := by
  obtain ⟨_, accesses, _, rfl⟩ := Operation.execute_error failed
  obtain ⟨cells, standard⟩ := settled.memory
  exact settled.onBus ⟨cells, standard.devices, standard.mappings⟩

theorem cycle (settled : machine.Settled limit) {snapshot : Snapshot}
    (ended : Cycle machine snapshot after) : after.Settled limit := by
  obtain ⟨cells, standard⟩ := settled.memory
  have ready {accesses : List Access} {bytes : List Int}
      (read : machine.bus.block machine.state.pc 2 = (accesses, .ok bytes)) (log : List Access) :
      (machine.logging log).advanced.Settled limit :=
    (settled.logging log).advanced (fetched_of_block standard read)
  cases ended with
  | fetchFault failed => exact settled.logging []
  | decodeFault read failed => exact ready read []
  | executionFault read decoded failed => exact ((ready read _).refused failed).logging []
  | @completed accesses bytes operation last read decoded ran =>
      obtain ⟨instruction, encodes, rfl⟩ := Operation.exists_encodes_of_decode decoded
      rw [Operation.execute_ofInstruction encodes] at ran
      have done := ((ready read _).executed ran).logging []
      exact ⟨done.memory, done.confined, done.depthLimit, done.stackLimit, done.room, done.start⟩

/-- In a settled machine every cycle has a description. -/
theorem exists_step (settled : machine.Settled limit) :
    ∃ snapshot after, step machine = .ok snapshot after := by
  obtain ⟨cells, standard⟩ := settled.memory
  exact Machine.exists_step standard.memoryOnly

theorem perform (settled : machine.Settled limit) (command : Command) :
    (machine.perform command).Settled limit := by
  cases command with
  | step =>
      obtain ⟨snapshot, after, ran⟩ := settled.exists_step
      simp only [Machine.perform, Action.left, ran]
      exact settled.cycle (cycle_of_step ran)
  | execute word =>
      simp only [Machine.perform, Action.left, execute_apply]
      cases decoded : Operation.decode word with
      | error problem => exact settled
      | ok operation =>
          dsimp only
          cases ran : operation.execute machine with
          | error problem after => exact settled.refused ran
          | ok _ after =>
              obtain ⟨instruction, encodes, rfl⟩ := Operation.exists_encodes_of_decode decoded
              rw [Operation.execute_ofInstruction encodes] at ran
              exact settled.executed ran
  | tick =>
      have confined := settled.confined
      have ticked : machine.state.ticked.Confined :=
        ⟨confined.pc, confined.index, confined.entries, confined.depth⟩
      exact ⟨settled.memory, ticked, settled.depthLimit, settled.stackLimit, settled.room,
        settled.start⟩
  | reset =>
      have room := settled.room
      rw [← settled.stackLimit] at room
      exact ⟨settled.memory, freshState_confined settled.start room, settled.stackLimit,
        settled.stackLimit, settled.room, settled.start⟩
  | load address block =>
      obtain ⟨cells, standard⟩ := settled.memory
      rw [Machine.perform, left_onBus]
      exact settled.onBus (standard.rewritten (standard.memoryOnly.rewritten_load address block))
  | write address data =>
      obtain ⟨cells, standard⟩ := settled.memory
      rw [Machine.perform, left_onBus]
      exact settled.onBus (standard.rewritten (standard.memoryOnly.rewritten_write address data))

theorem foldl (settled : machine.Settled limit) (commands : List Command) :
    (commands.foldl Machine.perform machine).Settled limit := by
  induction commands generalizing machine with
  | nil => exact settled
  | cons command rest ih => exact ih (settled.perform command)

end Settled

theorem build_settled {bus : Bus} {cells : Vector UInt8 4096} (standard : bus.IsStandard cells)
    (generator : Generator) (drawPolicy : DrawPolicy) {limit start : Int} (room : 0 < limit)
    (inside : 0 ≤ start ∧ start ≤ 0xFFF) :
    ∃ machine, build bus generator drawPolicy limit start = .ok machine ∧ machine.Settled limit := by
  have accepted : 0 ≤ start ∧ start < (memorySize : Int) := by
    simp only [memorySize]
    omega
  rw [build, if_neg (Int.not_le.mpr room), if_neg (not_not_intro accepted)]
  exact ⟨_, rfl, ⟨cells, standard⟩, freshState_confined inside room, rfl, rfl, room, inside⟩

/-- A standard machine stays within bounds under any commands, and every further cycle has a
description. -/
theorem reachable_in_bounds (bus : Bus) (cells : Vector UInt8 4096) (standard : bus.IsStandard cells)
    (generator : Generator) (drawPolicy : DrawPolicy) (limit start : Int) (room : 1 ≤ limit)
    (inside : 0 ≤ start ∧ start ≤ 0xFFF) :
    ∃ machine, build bus generator drawPolicy limit start = .ok machine ∧
      ∀ commands : List Command,
        (commands.foldl perform machine).state.InBounds limit ∧
        ∃ snapshot after, step (commands.foldl perform machine) = .ok snapshot after := by
  obtain ⟨machine, built, settled⟩ := build_settled standard generator drawPolicy room inside
  refine ⟨machine, built, fun commands => ?_⟩
  have reached := settled.foldl commands
  have bounds := reached.confined.inBounds
  rw [reached.depthLimit] at bounds
  exact ⟨bounds, reached.exists_step⟩

/-- A machine that starts at the last word of a blank memory. -/
def atEdge : Machine where
  state := freshState 0xFFE 1
  bus := { devices := #[.blankMemory memorySize], mappings := [Mapping.mk 0 0xFFF 0] }
  generator := ⟨Vector.replicate 624 0, 0⟩
  drawPolicy := .wrap
  startAddress := 0xFFE
  stackLimit := 1
  cycleCount := 0

/-- One instruction at the edge takes the program counter past the memory, which is the bound. -/
theorem reachable_in_bounds_past_memory :
    build atEdge.bus atEdge.generator .wrap 1 0xFFE = .ok atEdge ∧
      let reached := [.load 0xFFE [0x60, 0x00], .step].foldl perform atEdge
      reached.state.pc = 0x1000 ∧ reached.state.InBounds 1 ∧
        ∃ snapshot after, step reached = .ok snapshot after := by
  have standard : atEdge.bus.IsStandard (Vector.replicate 4096 0) := by
    refine ⟨?_, rfl⟩
    simp [atEdge, Device.blankMemory, memorySize]
  have built : build atEdge.bus atEdge.generator .wrap 1 0xFFE = .ok atEdge := rfl
  obtain ⟨machine, same, bounds⟩ := reachable_in_bounds atEdge.bus (Vector.replicate 4096 0) standard
    atEdge.generator .wrap 1 0xFFE (by decide) (by decide)
  cases built.symm.trans same
  have pc : ([.load 0xFFE [0x60, 0x00], .step].foldl perform atEdge).state.pc = 0x1000 := by
    decide +kernel
  exact ⟨built, pc, bounds _⟩

end Machine

end Chip8
