import Chip8.Proofs.Execution

/-!
Everything one cycle can do. A cycle ends in one of four ways: the fetch fails, the word decodes to
nothing, the instruction faults, or it completes. From that the main theorem derives that a cycle with a
fault has changed nothing but the program counter, which a successful fetch has moved.
-/

namespace Chip8

/-- The number that bytes form, the highest first. -/
def bigEndian (bytes : List Int) : Int := bytes.foldl Machine.joined 0

theorem bigEndian_pair (high low : Int) : bigEndian [high, low] = Machine.joined high low := by
  have first : Machine.joined 0 high = high.toNat := by simp [Machine.joined]
  rw [bigEndian, List.foldl_cons, List.foldl_cons, List.foldl_nil, first]
  rfl

/-- A byte keeps to the eight bits that were made free for it. -/
theorem bigEndian_bytes {high low : Int} (first : 0 ≤ high) (second : 0 ≤ low ∧ low ≤ 0xFF) :
    bigEndian [high, low] = high * 0x100 + low := by
  have small : low.toNat < 2 ^ 8 := by omega
  rw [bigEndian_pair, Machine.joined, ← Nat.shiftLeft_add_eq_or_of_lt small, Nat.shiftLeft_eq]
  omega

theorem bigEndian_toNat (high low : UInt8) :
    bigEndian [(high.toNat : Int), (low.toNat : Int)] = high.toNat * 0x100 + low.toNat := by
  have bound := low.toNat_lt
  exact bigEndian_bytes (by omega) (by omega)

namespace Machine

/-- The machine with other accesses in the log of its bus. -/
def logging (machine : Machine) (accesses : List Access) : Machine :=
  { machine with bus := { machine.bus with activity := accesses } }

/-- The machine with its program counter at the next instruction. -/
def advanced (machine : Machine) : Machine :=
  { machine with state := { machine.state with pc := (machine.state.pc + 2) % 65536 } }

/-- The description of a machine at the end of a cycle. -/
def portrait (start : Int) (operation : Option Operation) (fault : Option FaultReport)
    (machine : Machine) : Snapshot where
  operation := operation
  cycleCount := machine.cycleCount
  symbol :=
    let text := match operation with
      | some operation => operation.text
      | none => "???"
    s!"{addressText start}: {text}"
  activity := machine.bus.activity
  pc := machine.state.pc
  display := machine.state.display
  fault := fault

theorem fetch_apply (machine : Machine) :
    fetch machine =
      match machine.bus.block machine.state.pc 2 with
      | (accesses, .ok bytes) =>
          .ok (bigEndian bytes) (advanced { machine with bus := machine.bus.noting accesses })
      | (accesses, .error problem) =>
          .error problem { machine with bus := machine.bus.noting accesses } := by
  cases high : machine.bus.answer machine.state.pc with
  | error problem => simp [fetch, Bus.read_apply, Bus.block, high]
  | ok first =>
      have second (accesses : List Access) : (machine.bus.noting accesses).answer (machine.state.pc + 1) =
          machine.bus.answer (machine.state.pc + 1) :=
        Bus.answer_congr rfl rfl _
      cases low : machine.bus.answer (machine.state.pc + 1) with
      | error problem => simp [fetch, Bus.read_apply, Bus.block, high, second, low, Except.map]
      | ok last =>
          simp [fetch, Bus.read_apply, Bus.block, high, second, low, Except.map, bigEndian_pair, advanced]

theorem describe_apply (start : Int) (operation : Option Operation) (fault : Option FaultReport)
    (machine : Machine) :
    describe start operation fault machine =
      .ok (machine.portrait start operation fault) (machine.logging []) := by
  simp only [describe, Action.bind_apply, onBus_apply, Bus.drain, Action.modifyGet_apply,
    Action.get_apply, Action.pure_apply]
  rfl

theorem fetch_logging (machine : Machine) :
    fetch (machine.logging []) =
      match machine.bus.block machine.state.pc 2 with
      | (accesses, .ok bytes) => .ok (bigEndian bytes) (machine.logging accesses).advanced
      | (accesses, .error problem) => .error problem (machine.logging accesses) := by
  have unlogged : (machine.logging []).bus.block machine.state.pc 2 =
      machine.bus.block machine.state.pc 2 :=
    Bus.block_congr rfl rfl _ _
  have relogged (accesses : List Access) :
      { machine.logging [] with bus := (machine.logging []).bus.noting accesses } =
        machine.logging accesses := by
    simp [logging, Bus.noting]
  have start : (machine.logging []).state.pc = machine.state.pc := rfl
  rw [fetch_apply, start, unlogged]
  simp only [relogged]

theorem step_apply (machine : Machine) :
    step machine =
      match fetch (machine.logging []) with
      | .error problem after => giveUp machine.state.pc none none problem after
      | .ok word after =>
          match Operation.decode word with
          | .error problem => giveUp machine.state.pc (some word) none problem after
          | .ok operation =>
              match operation.execute after with
              | .error problem last =>
                  giveUp machine.state.pc (some word) (some operation) problem last
              | .ok _ last =>
                  describe machine.state.pc (some operation) none
                    { last with cycleCount := last.cycleCount + operation.cycleCount } := by
  simp only [step, Action.bind_apply, Action.discard_apply, onBus_apply, Bus.drain,
    Action.modifyGet_apply]
  rfl

/-- The four ways in which a cycle ends. -/
inductive Cycle (machine : Machine) : Snapshot → Machine → Prop
  | fetchFault {accesses : List Access} {cause : Fault} :
      machine.bus.block machine.state.pc 2 = (accesses, .error (.fault cause)) →
      Cycle machine
        ((machine.logging accesses).portrait machine.state.pc none
          (some (cause.report machine.state.pc none)))
        (machine.logging [])
  | decodeFault {accesses : List Access} {bytes : List Int} {cause : Fault} :
      machine.bus.block machine.state.pc 2 = (accesses, .ok bytes) →
      Operation.decode (bigEndian bytes) = .error (.fault cause) →
      Cycle machine
        ((machine.logging accesses).advanced.portrait machine.state.pc none
          (some (cause.report machine.state.pc (some (bigEndian bytes)))))
        (machine.logging []).advanced
  | executionFault {accesses : List Access} {bytes : List Int} {operation : Operation}
      {cause : Fault} {last : Machine} :
      machine.bus.block machine.state.pc 2 = (accesses, .ok bytes) →
      Operation.decode (bigEndian bytes) = .ok operation →
      operation.execute (machine.logging accesses).advanced = .error (.fault cause) last →
      Cycle machine
        (last.portrait machine.state.pc (some operation)
          (some (cause.report machine.state.pc (some (bigEndian bytes)))))
        (last.logging [])
  | completed {accesses : List Access} {bytes : List Int} {operation : Operation}
      {last : Machine} :
      machine.bus.block machine.state.pc 2 = (accesses, .ok bytes) →
      Operation.decode (bigEndian bytes) = .ok operation →
      operation.execute (machine.logging accesses).advanced = .ok () last →
      Cycle machine
        (portrait machine.state.pc (some operation) none
          { last with cycleCount := last.cycleCount + operation.cycleCount })
        (logging { last with cycleCount := last.cycleCount + operation.cycleCount } [])

theorem cycle_of_step {machine after : Machine} {snapshot : Snapshot}
    (ran : step machine = .ok snapshot after) : Cycle machine snapshot after := by
  rw [step_apply, fetch_logging] at ran
  rcases fetched : machine.bus.block machine.state.pc 2 with ⟨accesses, problem | bytes⟩
  · rw [fetched] at ran
    cases problem with
    | misuse cause => cases ran
    | fault cause =>
        simp only [giveUp, describe_apply] at ran
        cases ran
        exact .fetchFault fetched
  · rw [fetched] at ran
    dsimp only at ran
    cases decoded : Operation.decode (bigEndian bytes) with
    | error problem =>
        rw [decoded] at ran
        cases problem with
        | misuse cause => cases ran
        | fault cause =>
            simp only [giveUp, describe_apply] at ran
            cases ran
            exact .decodeFault fetched decoded
    | ok operation =>
        rw [decoded] at ran
        dsimp only at ran
        cases executed : operation.execute (machine.logging accesses).advanced with
        | error problem last =>
            rw [executed] at ran
            cases problem with
            | misuse cause => cases ran
            | fault cause =>
                simp only [giveUp, describe_apply] at ran
                cases ran
                exact .executionFault fetched decoded executed
        | ok _ last =>
            rw [executed] at ran
            simp only [describe_apply] at ran
            cases ran
            exact .completed fetched decoded executed

/-- A cycle without a description has come as far as the decoding of its word. -/
theorem step_error {machine after : Machine} {problem : Problem}
    (failed : step machine = .error problem after) :
    ∃ accesses, after = (machine.logging accesses).advanced := by
  have described (start : Int) (word : Option Int) (operation : Option Operation) (cause : Fault)
      (last : Machine) : giveUp start word operation (.fault cause) last ≠ .error problem after := by
    intro passedOn
    simp only [giveUp, describe_apply] at passedOn
    cases passedOn
  rw [step_apply, fetch_logging] at failed
  rcases fetched : machine.bus.block machine.state.pc 2 with ⟨accesses, cause | bytes⟩
  · obtain ⟨overreach, rfl⟩ := Bus.block_error (congrArg Prod.snd fetched)
    rw [fetched] at failed
    exact absurd failed (described _ _ _ _ _)
  · rw [fetched] at failed
    dsimp only at failed
    cases decoded : Operation.decode (bigEndian bytes) with
    | error cause =>
        rw [decoded] at failed
        cases cause with
        | fault cause => exact absurd failed (described _ _ _ _ _)
        | misuse cause =>
            cases failed
            exact ⟨accesses, rfl⟩
    | ok operation =>
        rw [decoded] at failed
        dsimp only at failed
        cases executed : operation.execute (machine.logging accesses).advanced with
        | error cause last =>
            obtain ⟨cause, _, rfl, _⟩ := Operation.execute_error executed
            rw [executed] at failed
            exact absurd failed (described _ _ _ _ _)
        | ok _ last =>
            rw [executed] at failed
            simp only [describe_apply] at failed
            cases failed

theorem step_of_cycle {machine after : Machine} {snapshot : Snapshot}
    (cycle : Cycle machine snapshot after) : step machine = .ok snapshot after := by
  rw [step_apply, fetch_logging]
  cases cycle with
  | fetchFault fetched =>
      rw [fetched]
      exact describe_apply _ _ _ _
  | decodeFault fetched decoded =>
      simp only [fetched, decoded]
      exact describe_apply _ _ _ _
  | executionFault fetched decoded executed =>
      simp only [fetched, decoded, executed]
      exact describe_apply _ _ _ _
  | completed fetched decoded executed =>
      simp only [fetched, decoded, executed]
      exact describe_apply _ _ _ _

theorem fetched_range {machine : Machine} (memories : machine.bus.MemoryOnly)
    {accesses : List Access} {bytes : List Int}
    (fetched : machine.bus.block machine.state.pc 2 = (accesses, .ok bytes)) :
    0 ≤ bigEndian bytes ∧ bigEndian bytes ≤ 0xFFFF := by
  obtain ⟨high, low, first, second, rfl⟩ := Bus.block_two fetched
  have highByte := memories.answer_byte first
  have lowByte := memories.answer_byte second
  rw [bigEndian_bytes highByte.1 lowByte]
  omega

/-- On memories a cycle always has a description: nothing but faults can go wrong in it. -/
theorem exists_step {machine : Machine} (memories : machine.bus.MemoryOnly) :
    ∃ snapshot after, step machine = .ok snapshot after := by
  rw [step_apply, fetch_logging]
  rcases fetched : machine.bus.block machine.state.pc 2 with ⟨accesses, problem | bytes⟩
  · obtain ⟨overreach, rfl⟩ := Bus.block_error (congrArg Prod.snd fetched)
    exact ⟨_, _, describe_apply _ _ _ _⟩
  · dsimp only
    rw [Operation.decode_apply, if_pos (fetched_range memories fetched)]
    cases Instruction.ofWord? (bigEndian bytes) with
    | none => exact ⟨_, _, describe_apply _ _ _ _⟩
    | some instruction =>
        dsimp only
        cases executed : (Operation.ofInstruction (bigEndian bytes) instruction).execute
            (machine.logging accesses).advanced with
        | ok _ last => exact ⟨_, _, describe_apply _ _ _ _⟩
        | error problem last =>
            obtain ⟨cause, _, rfl, _⟩ := Operation.execute_error executed
            exact ⟨_, _, describe_apply _ _ _ _⟩

def FetchFails (machine : Machine) : Prop :=
  ∃ problem after, fetch machine = .error problem after

def DecodeFails (machine : Machine) : Prop :=
  ∃ word after problem, fetch machine = .ok word after ∧ Operation.decode word = .error problem

theorem fetchFails_of_block {machine : Machine} {accesses : List Access} {problem : Problem}
    (failed : machine.bus.block machine.state.pc 2 = (accesses, .error problem)) :
    machine.FetchFails := by
  refine ⟨problem, { machine with bus := machine.bus.noting accesses }, ?_⟩
  rw [fetch_apply, failed]

theorem fetch_of_block {machine : Machine} {accesses : List Access} {bytes : List Int}
    (fetched : machine.bus.block machine.state.pc 2 = (accesses, .ok bytes)) :
    fetch machine =
      .ok (bigEndian bytes) (advanced { machine with bus := machine.bus.noting accesses }) := by
  rw [fetch_apply, fetched]

theorem not_fetchFails_of_block {machine : Machine} {accesses : List Access} {bytes : List Int}
    (fetched : machine.bus.block machine.state.pc 2 = (accesses, .ok bytes)) :
    ¬ machine.FetchFails := by
  rintro ⟨problem, after, failed⟩
  rw [fetch_of_block fetched] at failed
  cases failed

theorem decodeFails_iff_of_block {machine : Machine} {accesses : List Access} {bytes : List Int}
    (fetched : machine.bus.block machine.state.pc 2 = (accesses, .ok bytes)) :
    machine.DecodeFails ↔ ∃ problem, Operation.decode (bigEndian bytes) = .error problem := by
  constructor
  · rintro ⟨word, after, problem, read, failed⟩
    rw [fetch_of_block fetched] at read
    cases read
    exact ⟨problem, failed⟩
  · rintro ⟨problem, failed⟩
    exact ⟨_, _, problem, fetch_of_block fetched, failed⟩

/-- What a cycle with a fault leaves behind: everything as it was, apart from the program counter after
a successful fetch and the emptied log. -/
structure FaultTrace (machine : Machine) (snapshot : Snapshot) (report : FaultReport)
    (after : Machine) : Prop where
  rest : after = { machine with
    state := { machine.state with pc := after.state.pc }
    bus := { machine.bus with activity := [] } }
  display : snapshot.display = machine.state.display
  pcKept : machine.FetchFails → after.state.pc = machine.state.pc
  pcMoved : ¬ machine.FetchFails → after.state.pc = (machine.state.pc + 2) % 65536
  operation : snapshot.operation = none ↔ machine.FetchFails ∨ machine.DecodeFails
  opcode : report.opcode = none ↔ machine.FetchFails

/-- A fault in a cycle with a word names a word. -/
theorem opcode_report_word (cause : Fault) (start word : Int) :
    (cause.report start (some word)).opcode ≠ none := by
  cases cause <;> simp [Fault.report]

theorem Cycle.faultTrace {machine after : Machine} {snapshot : Snapshot} {report : FaultReport}
    (cycle : Cycle machine snapshot after) (faulted : snapshot.fault = some report) :
    machine.FaultTrace snapshot report after := by
  cases cycle with
  | fetchFault failed =>
      have fails := fetchFails_of_block failed
      obtain ⟨overreach, same⟩ := Bus.block_error (congrArg Prod.snd failed)
      cases same
      cases faulted
      exact {
        rest := rfl
        display := rfl
        pcKept := fun _ => rfl
        pcMoved := fun succeeds => absurd fails succeeds
        operation := by simp [portrait, fails]
        opcode := by simp [Fault.report, fails] }
  | decodeFault fetched failed =>
      have succeeds := not_fetchFails_of_block fetched
      have fails := (decodeFails_iff_of_block fetched).mpr ⟨_, failed⟩
      cases faulted
      exact {
        rest := rfl
        display := rfl
        pcKept := fun fetchFails => absurd fetchFails succeeds
        pcMoved := fun _ => rfl
        operation := by simp [portrait, fails]
        opcode := by simp [opcode_report_word, succeeds] }
  | executionFault fetched decoded failed =>
      have succeeds := not_fetchFails_of_block fetched
      have decodes : ¬ machine.DecodeFails := by
        rw [decodeFails_iff_of_block fetched, decoded]
        rintro ⟨problem, failed⟩
        cases failed
      obtain ⟨_, more, _, rfl⟩ := Operation.execute_error failed
      cases faulted
      exact {
        rest := rfl
        display := rfl
        pcKept := fun fetchFails => absurd fetchFails succeeds
        pcMoved := fun _ => rfl
        operation := by simp [portrait, succeeds, decodes]
        opcode := by simp [opcode_report_word, succeeds] }
  | completed fetched decoded executed => cases faulted

/-- Faults are atomic. A cycle on memories always has a description, and if that tells of a fault, the
cycle has left behind nothing but its program counter. An operation, however its pattern and its word
came together, completes or faults, and a fault leaves everything as it was except for noted reads. -/
theorem faults_atomic :
    (∀ machine : Machine, machine.bus.MemoryOnly →
      ∃ snapshot after, step machine = .ok snapshot after ∧
        ∀ report, snapshot.fault = some report → machine.FaultTrace snapshot report after) ∧
    (∀ (operation : Operation) (machine : Machine),
      (∃ after, operation.execute machine = .ok () after) ∨
      ∃ cause accesses, operation.execute machine =
        .error (.fault cause) { machine with bus := machine.bus.noting accesses }) := by
  constructor
  · intro machine memories
    obtain ⟨snapshot, after, ran⟩ := exists_step memories
    exact ⟨snapshot, after, ran, fun report faulted => (cycle_of_step ran).faultTrace faulted⟩
  · intro operation machine
    cases ran : operation.execute machine with
    | ok _ after => exact .inl ⟨after, rfl⟩
    | error problem after =>
        obtain ⟨cause, accesses, rfl, rfl⟩ := Operation.execute_error ran
        exact .inr ⟨cause, accesses, rfl⟩

/-- A machine of two cells that is about to return, with nowhere to return to. -/
def stranded : Machine where
  state := { pc := 0 }
  bus := { devices := #[.memory #[0x00, 0xEE]], mappings := [Mapping.mk 0 1 0] }
  generator := ⟨Vector.replicate 624 0, 0⟩
  drawPolicy := .wrap
  startAddress := 0
  stackLimit := 16
  cycleCount := 0

theorem faults_atomic_stranded :
    stranded.bus.MemoryOnly ∧
      ∃ snapshot after report, step stranded = .ok snapshot after ∧ snapshot.fault = some report ∧
        report.kind = .stackUnderflow ∧ stranded.FaultTrace snapshot report after := by
  have memories : stranded.bus.MemoryOnly := by
    intro mapping mapped device present
    rw [List.mem_singleton.mp mapped] at present
    exact ⟨_, (Option.some.inj present).symm⟩
  have underflow : (match step stranded with
      | .ok snapshot _ => snapshot.fault
      | .error _ _ => none) = some (Fault.stackUnderflow.report 0 (some 0x00EE)) := by rfl
  obtain ⟨snapshot, after, ran, traces⟩ := faults_atomic.1 stranded memories
  rw [ran] at underflow
  exact ⟨memories, snapshot, after, _, ran, underflow, rfl, traces _ underflow⟩

end Machine

end Chip8
