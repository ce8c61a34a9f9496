import Chip8.Proofs.Cycles

/-!
Which faults a cycle of the standard machine reports, and when. The hazards are written down from the
registers and the memory before the cycle; the main theorem says that a cycle reports a fault exactly
when there is a hazard, with the kind, the word and the address of that hazard, and is counted otherwise.
-/

namespace Chip8

namespace Machine

/-- The word at the program counter, which has to lie in the memory with both of its bytes. -/
def Fetched (state : State) (cells : Vector UInt8 4096) (word : Int) : Prop :=
  0 ≤ state.pc ∧ state.pc ≤ 0xFFE ∧
    word = (Bus.byteAt cells state.pc).toNat * 0x100 + (Bus.byteAt cells (state.pc + 1)).toNat

/-- The words that pass over the next instruction. -/
inductive Skips (state : State) : Int → Prop
  | equalByte (x : Register) (byte : UInt8) : state.value x = byte →
      Skips state (0x3000 + 0x100 * x.val + byte.toNat)
  | unequalByte (x : Register) (byte : UInt8) : state.value x ≠ byte →
      Skips state (0x4000 + 0x100 * x.val + byte.toNat)
  | equal (x y : Register) (free : Fin 16) : state.value x = state.value y →
      Skips state (0x5000 + 0x100 * x.val + 0x10 * y.val + free.val)
  | unequal (x y : Register) (free : Fin 16) : state.value x ≠ state.value y →
      Skips state (0x9000 + 0x100 * x.val + 0x10 * y.val + free.val)

/-- The faults that lie ahead, each with its kind, its word and the address it reaches for. -/
inductive Hazard (state : State) (cells : Vector UInt8 4096) :
    FaultKind → Option Int → Option Int → Prop
  | outsideMemory : ¬ (0 ≤ state.pc ∧ state.pc ≤ 0xFFE) →
      Hazard state cells .addressOutOfBounds none
        (some (if state.pc = 0xFFF then 0x1000 else state.pc))
  | unlisted {word : Int} : Fetched state cells word → Instruction.Unlisted word →
      Hazard state cells .unsupportedOpcode (some word) none
  | emptyStack : Fetched state cells 0x00EE → state.sp = 0 →
      Hazard state cells .stackUnderflow (some 0x00EE) none
  | fullStack (target : Fin 4096) : Fetched state cells (0x2000 + target.val) →
      state.stackLimit ≤ state.sp →
      Hazard state cells .stackOverflow (some (0x2000 + target.val)) none
  | skipOutside {word : Int} : Fetched state cells word → Skips state word →
      0x1000 ≤ state.pc + 4 →
      Hazard state cells .addressOutOfBounds (some word) (some (state.pc + 4))
  | jumpOutside (address : Fin 4096) : Fetched state cells (0xB000 + address.val) →
      0x1000 ≤ address.val + (state.value Register.offset).toNat →
      Hazard state cells .addressOutOfBounds (some (0xB000 + address.val))
        (some ((address.val : Int) + (state.value Register.offset).toNat))
  | spriteOutside (x y : Register) (rows : Fin 16) :
      Fetched state cells (0xD000 + 0x100 * x.val + 0x10 * y.val + rows.val) →
      0 < rows.val → 0x1000 < state.i.toNat + rows.val →
      Hazard state cells .addressOutOfBounds
        (some (0xD000 + 0x100 * x.val + 0x10 * y.val + rows.val))
        (some (max (state.i.toNat : Int) 0x1000))

variable {machine : Machine} {cells : Vector UInt8 4096}

theorem block_two_inside (standard : machine.bus.IsStandard cells)
    (low : 0 ≤ machine.state.pc) (high : machine.state.pc ≤ 0xFFE) :
    (machine.bus.block machine.state.pc 2).2 =
      .ok [((Bus.byteAt cells machine.state.pc).toNat : Int),
        ((Bus.byteAt cells (machine.state.pc + 1)).toNat : Int)] := by
  rw [standard.block_inside machine.state.pc 2 low (by omega)]
  simp [List.range_succ]

theorem fetched_of_block (standard : machine.bus.IsStandard cells) {accesses : List Access}
    {bytes : List Int} (read : machine.bus.block machine.state.pc 2 = (accesses, .ok bytes)) :
    Fetched machine.state cells (bigEndian bytes) := by
  by_cases inside : 0 ≤ machine.state.pc ∧ machine.state.pc ≤ 0xFFE
  · have found := block_two_inside standard inside.1 inside.2
    rw [read] at found
    cases found
    exact ⟨inside.1, inside.2, bigEndian_toNat _ _⟩
  · have failed := standard.block_outside machine.state.pc 2 (by omega) (by omega)
    rw [read] at failed
    cases failed

theorem block_of_fetched (standard : machine.bus.IsStandard cells) {word : Int}
    (fetched : Fetched machine.state cells word) :
    ∃ accesses bytes, machine.bus.block machine.state.pc 2 = (accesses, .ok bytes) ∧
      bigEndian bytes = word := by
  obtain ⟨low, high, rfl⟩ := fetched
  have found := block_two_inside standard low high
  exact ⟨_, _, Prod.ext rfl found, bigEndian_toNat _ _⟩

/-- The machine between the fetch of a word of the standard memory and its execution. -/
structure Ready (machine : Machine) (cells : Vector UInt8 4096) (ready : Machine) : Prop where
  state : ready.state = { machine.state with pc := machine.state.pc + 2 }
  standard : ready.bus.IsStandard cells

namespace Ready

variable {ready : Machine}

theorem stack (poised : machine.Ready cells ready) : ready.state.stack = machine.state.stack := by
  rw [poised.state]

theorem sp (poised : machine.Ready cells ready) : ready.state.sp = machine.state.sp :=
  congrArg List.length poised.stack

theorem depthLimit (poised : machine.Ready cells ready) :
    ready.state.stackLimit = machine.state.stackLimit := by
  rw [poised.state]

theorem index (poised : machine.Ready cells ready) : ready.state.i = machine.state.i := by
  rw [poised.state]

theorem value (poised : machine.Ready cells ready) (register : Register) :
    ready.state.value register = machine.state.value register := by
  simp only [State.value, poised.state]

theorem ofFetched (standard : machine.bus.IsStandard cells) {word : Int}
    (fetched : Fetched machine.state cells word) (accesses : List Access) :
    machine.Ready cells (machine.logging accesses).advanced := by
  have moved : (machine.state.pc + 2) % 65536 = machine.state.pc + 2 := by
    obtain ⟨low, high, _⟩ := fetched
    omega
  refine ⟨?_, standard.devices, standard.mappings⟩
  rw [← moved]
  rfl

theorem skipIf_true (poised : machine.Ready cells ready) (low : 0 ≤ machine.state.pc) :
    skipIf true ready =
      if machine.state.pc + 4 < 0x1000 then
        .ok () { ready with state := { machine.state with pc := machine.state.pc + 4 } }
      else .error (.fault (.outOfBounds (.target (machine.state.pc + 4)))) ready := by
  have moved : ready.state.pc + 2 = machine.state.pc + 4 := by
    rw [poised.state]
    dsimp only
    omega
  have above : 0 ≤ machine.state.pc + 4 := by omega
  rw [skipIf_apply, if_pos rfl, moved, poised.state]
  simp only [above, true_and]

end Ready

/-- The cycle of a fetched word ends with the fault of the instruction that the word stands for. -/
theorem fault_of_execute (standard : machine.bus.IsStandard cells) {word : Int}
    (fetched : Fetched machine.state cells word) {instruction : Instruction}
    (encodes : instruction.Encodes word) (cause : Fault)
    (failed : ∀ ready, machine.Ready cells ready →
      ∃ last, instruction.execute ready = .error (.fault cause) last) :
    ∃ snapshot after, step machine = .ok snapshot after ∧
      snapshot.fault = some (cause.report machine.state.pc (some word)) := by
  have poised := Ready.ofFetched standard fetched
  obtain ⟨accesses, bytes, read, rfl⟩ := block_of_fetched standard fetched
  obtain ⟨last, failed⟩ := failed _ (poised accesses)
  rw [← Operation.execute_ofInstruction encodes] at failed
  exact ⟨_, _, step_of_cycle (.executionFault read (Operation.decode_encodes encodes) failed), rfl⟩

theorem Skips.instruction {state : State} {word : Int} (skips : Skips state word) :
    ∃ instruction : Instruction, instruction.Encodes word ∧
      ∀ machine : Machine, (∀ register, machine.state.value register = state.value register) →
        instruction.execute machine = skipIf true machine := by
  cases skips with
  | equalByte x byte equal =>
      refine ⟨.skipIfByte x byte, rfl, fun machine same => ?_⟩
      rw [Instruction.execute_skipIfByte, same, beq_iff_eq.mpr equal]
  | unequalByte x byte unequal =>
      refine ⟨.skipUnlessByte x byte, rfl, fun machine same => ?_⟩
      rw [Instruction.execute_skipUnlessByte, same, bne_iff_ne.mpr unequal]
  | equal x y free equal =>
      refine ⟨.skipIfEqual x y, ⟨free, rfl⟩, fun machine same => ?_⟩
      rw [Instruction.execute_skipIfEqual, same, same, beq_iff_eq.mpr equal]
  | unequal x y free unequal =>
      refine ⟨.skipUnlessEqual x y, ⟨free, rfl⟩, fun machine same => ?_⟩
      rw [Instruction.execute_skipUnlessEqual, same, same, bne_iff_ne.mpr unequal]

/-- Where a read fails that starts at the program counter. -/
theorem block_two_outside (standard : machine.bus.IsStandard cells)
    (outside : ¬ (0 ≤ machine.state.pc ∧ machine.state.pc ≤ 0xFFE)) :
    (machine.bus.block machine.state.pc 2).2 = .error (.fault (.outOfBounds
      (.unmapped (if machine.state.pc = 0xFFF then 0x1000 else machine.state.pc)))) := by
  rw [standard.block_outside machine.state.pc 2 (by omega) (by omega)]
  by_cases last : machine.state.pc = 0xFFF
  · rw [last]
    rfl
  · rw [if_neg last]
    by_cases below : machine.state.pc < 0
    · rw [if_pos below]
    · rw [if_neg below, Int.max_eq_left (by omega)]

/-- Every hazard shows in the cycle. -/
theorem Hazard.shows (standard : machine.bus.IsStandard cells) {kind : FaultKind}
    {opcode address : Option Int} (hazard : Hazard machine.state cells kind opcode address) :
    ∃ snapshot after message, step machine = .ok snapshot after ∧
      snapshot.fault = some ⟨kind, message, machine.state.pc, opcode, address⟩ := by
  cases hazard with
  | outsideMemory outside =>
      have failed := block_two_outside standard outside
      exact ⟨_, _, _, step_of_cycle (.fetchFault (Prod.ext rfl failed)), rfl⟩
  | unlisted fetched unlisted =>
      obtain ⟨accesses, bytes, read, rfl⟩ := block_of_fetched standard fetched
      have range := fetched_range standard.memoryOnly read
      have refused : Operation.decode (bigEndian bytes) =
          .error (.fault (.unsupportedOpcode (bigEndian bytes))) := by
        rw [Operation.decode_apply, if_pos range,
          (Instruction.ofWord?_eq_none_iff range.1 range.2).mpr unlisted]
      exact ⟨_, _, _, step_of_cycle (.decodeFault read refused), rfl⟩
  | emptyStack fetched empty =>
      have encodes : Instruction.ret.Encodes 0x00EE := rfl
      have failed (ready : Machine) (poised : machine.Ready cells ready) :
          ∃ last, Instruction.ret.execute ready = .error (.fault .stackUnderflow) last := by
        rw [Instruction.execute_ret, poised.stack, List.length_eq_zero_iff.mp empty]
        exact ⟨_, rfl⟩
      obtain ⟨snapshot, after, ran, fault⟩ := fault_of_execute standard fetched encodes _ failed
      exact ⟨snapshot, after, _, ran, fault⟩
  | fullStack target fetched full =>
      have encodes : (Instruction.call target).Encodes (0x2000 + target.val) := rfl
      have failed (ready : Machine) (poised : machine.Ready cells ready) :
          ∃ last, (Instruction.call target).execute ready =
            .error (.fault (.stackOverflow machine.state.stackLimit)) last := by
        rw [Instruction.execute_call, poised.sp, poised.depthLimit, if_neg (Int.not_lt.mpr full)]
        exact ⟨_, rfl⟩
      obtain ⟨snapshot, after, ran, fault⟩ := fault_of_execute standard fetched encodes _ failed
      exact ⟨snapshot, after, _, ran, fault⟩
  | skipOutside fetched skips outside =>
      obtain ⟨instruction, encodes, run⟩ := skips.instruction
      have failed (ready : Machine) (poised : machine.Ready cells ready) :
          ∃ last, instruction.execute ready =
            .error (.fault (.outOfBounds (.target (machine.state.pc + 4)))) last := by
        rw [run ready poised.value, poised.skipIf_true fetched.1, if_neg (by omega)]
        exact ⟨_, rfl⟩
      obtain ⟨snapshot, after, ran, fault⟩ := fault_of_execute standard fetched encodes _ failed
      exact ⟨snapshot, after, _, ran, fault⟩
  | jumpOutside address fetched outside =>
      have encodes : (Instruction.jumpOffset address).Encodes (0xB000 + address.val) := rfl
      have failed (ready : Machine) (poised : machine.Ready cells ready) :
          ∃ last, (Instruction.jumpOffset address).execute ready =
            .error (.fault (.outOfBounds (.offsetTarget
              ((address.val : Int) + (machine.state.value Register.offset).toNat)))) last := by
        rw [Instruction.execute_jumpOffset, poised.value, if_neg (by omega)]
        exact ⟨_, rfl⟩
      obtain ⟨snapshot, after, ran, fault⟩ := fault_of_execute standard fetched encodes _ failed
      exact ⟨snapshot, after, _, ran, fault⟩
  | spriteOutside x y rows fetched nonempty outside =>
      have encodes : (Instruction.draw x y rows).Encodes
          (0xD000 + 0x100 * x.val + 0x10 * y.val + rows.val) := rfl
      have failed (ready : Machine) (poised : machine.Ready cells ready) :
          ∃ last, (Instruction.draw x y rows).execute ready =
            .error (.fault (.outOfBounds (.unmapped (max (machine.state.i.toNat : Int) 0x1000)))) last := by
        have missing := poised.standard.block_outside machine.state.i.toNat rows.val nonempty (by omega)
        rw [if_neg (by omega)] at missing
        rw [Instruction.execute_draw, poised.index]
        rcases reads : ready.bus.block machine.state.i.toNat rows.val with ⟨accesses, result⟩
        rw [reads] at missing
        dsimp only at missing
        subst missing
        exact ⟨{ ready with bus := ready.bus.noting accesses }, rfl⟩
      obtain ⟨snapshot, after, ran, fault⟩ := fault_of_execute standard fetched encodes _ failed
      exact ⟨snapshot, after, _, ran, fault⟩

/-- The fault of an instruction on the fetched word was one of the hazards. -/
theorem hazard_of_execute {word : Int} (fetched : Fetched machine.state cells word)
    {instruction : Instruction} (encodes : instruction.Encodes word) {ready last : Machine}
    (poised : machine.Ready cells ready) {cause : Fault}
    (failed : instruction.execute ready = .error (.fault cause) last) (start : Int) :
    Hazard machine.state cells cause.kind (cause.report start (some word)).opcode
      (cause.report start (some word)).address := by
  have skip (holds : Bool) (skips : holds = true → Skips machine.state word)
      (failed : skipIf holds ready = .error (.fault cause) last) :
      Hazard machine.state cells cause.kind (cause.report start (some word)).opcode
        (cause.report start (some word)).address := by
    cases holds with
    | false => cases failed
    | true =>
        rw [poised.skipIf_true fetched.1] at failed
        split at failed <;> cases failed
        exact .skipOutside fetched (skips rfl) (by omega)
  cases instruction with
  | ret =>
      rw [Instruction.execute_ret, poised.stack] at failed
      split at failed <;> cases failed
      rename_i empty
      cases encodes
      exact .emptyStack fetched (by rw [State.sp, empty]; rfl)
  | call target =>
      rw [Instruction.execute_call, poised.sp, poised.depthLimit] at failed
      split at failed <;> cases failed
      rename_i full
      cases encodes
      exact .fullStack target fetched (Int.not_lt.mp full)
  | skipIfByte x byte =>
      rw [Instruction.execute_skipIfByte, poised.value] at failed
      cases encodes
      exact skip _ (fun holds => .equalByte x byte (beq_iff_eq.mp holds)) failed
  | skipUnlessByte x byte =>
      rw [Instruction.execute_skipUnlessByte, poised.value] at failed
      cases encodes
      exact skip _ (fun holds => .unequalByte x byte (bne_iff_ne.mp holds)) failed
  | skipIfEqual x y =>
      rw [Instruction.execute_skipIfEqual, poised.value, poised.value] at failed
      obtain ⟨free, rfl⟩ := encodes
      exact skip _ (fun holds => .equal x y free (beq_iff_eq.mp holds)) failed
  | skipUnlessEqual x y =>
      rw [Instruction.execute_skipUnlessEqual, poised.value, poised.value] at failed
      obtain ⟨free, rfl⟩ := encodes
      exact skip _ (fun holds => .unequal x y free (bne_iff_ne.mp holds)) failed
  | jumpOffset address =>
      rw [Instruction.execute_jumpOffset, poised.value] at failed
      split at failed <;> cases failed
      cases encodes
      exact .jumpOutside address fetched (by omega)
  | draw x y rows =>
      rw [Instruction.execute_draw, poised.index] at failed
      rcases reads : ready.bus.block machine.state.i.toNat rows.val with ⟨accesses, problem | sprite⟩
      · rw [reads] at failed
        cases failed
        cases encodes
        have nonempty : 0 < rows.val := by
          refine Nat.pos_of_ne_zero fun none => ?_
          rw [none] at reads
          cases reads
        by_cases inside : machine.state.i.toNat + rows.val ≤ 0x1000
        · have found := poised.standard.block_inside machine.state.i.toNat rows.val (by omega) (by omega)
          rw [reads] at found
          cases found
        · have missing :=
            poised.standard.block_outside machine.state.i.toNat rows.val nonempty (by omega)
          rw [reads, if_neg (by omega)] at missing
          cases missing
          exact .spriteOutside x y rows fetched nonempty (by omega)
      · rw [reads] at failed
        cases failed
  | jump | loadIndex => simp [Instruction.execute] at failed
  | _ => cases failed

theorem Cycle.hazard (standard : machine.bus.IsStandard cells) {snapshot : Snapshot}
    {after : Machine} (cycle : Cycle machine snapshot after) {report : FaultReport}
    (faulted : snapshot.fault = some report) :
    report.pc = machine.state.pc ∧
      Hazard machine.state cells report.kind report.opcode report.address := by
  cases cycle with
  | fetchFault failed =>
      have outside : ¬ (0 ≤ machine.state.pc ∧ machine.state.pc ≤ 0xFFE) := by
        intro inside
        have found := block_two_inside standard inside.1 inside.2
        rw [failed] at found
        cases found
      have missing := block_two_outside standard outside
      rw [failed] at missing
      cases missing
      cases faulted
      exact ⟨rfl, .outsideMemory outside⟩
  | decodeFault read refused =>
      have range := fetched_range standard.memoryOnly read
      cases known : Instruction.ofWord? (bigEndian _) with
      | some instruction =>
          rw [Operation.decode_apply, if_pos range, known] at refused
          cases refused
      | none =>
          rw [Operation.decode_apply, if_pos range, known] at refused
          cases refused
          cases faulted
          exact ⟨rfl, .unlisted (fetched_of_block standard read)
            (Instruction.unlisted_of_ofWord? range.1 range.2 known)⟩
  | executionFault read decoded failed =>
      obtain ⟨instruction, encodes, rfl⟩ := Operation.exists_encodes_of_decode decoded
      have fetched := fetched_of_block standard read
      rw [Operation.execute_ofInstruction encodes] at failed
      cases faulted
      exact ⟨rfl, hazard_of_execute fetched encodes (Ready.ofFetched standard fetched _) failed _⟩
  | completed read decoded executed => cases faulted

theorem Cycle.counted {snapshot : Snapshot} {after : Machine} (cycle : Cycle machine snapshot after)
    (succeeded : snapshot.fault = none) : after.cycleCount = machine.cycleCount + 1 := by
  cases cycle with
  | completed read decoded executed =>
      obtain ⟨instruction, encodes, rfl⟩ := Operation.exists_encodes_of_decode decoded
      rw [Operation.execute_ofInstruction encodes] at executed
      exact congrArg (· + 1) (Instruction.effect_of_execute executed).kept.cycleCount
  | fetchFault | decodeFault | executionFault => cases succeeded

/-- Faults are classified exactly. A cycle of the standard machine reports a fault if and only if there
is a hazard, and then under the address of the instruction and with the data of that hazard. Without a
hazard the cycle succeeds and is counted. -/
theorem step_faults_iff_hazard (machine : Machine) (cells : Vector UInt8 4096)
    (standard : machine.bus.IsStandard cells) :
    ∃ snapshot after, step machine = .ok snapshot after ∧
      (∀ kind pc opcode address,
        (∃ message, snapshot.fault = some ⟨kind, message, pc, opcode, address⟩) ↔
          pc = machine.state.pc ∧ Hazard machine.state cells kind opcode address) ∧
      ((∀ kind opcode address, ¬ Hazard machine.state cells kind opcode address) →
        snapshot.fault = none ∧ after.cycleCount = machine.cycleCount + 1) := by
  obtain ⟨snapshot, after, ran⟩ := exists_step standard.memoryOnly
  have cycle := cycle_of_step ran
  refine ⟨snapshot, after, ran, ?_, ?_⟩
  · intro kind pc opcode address
    constructor
    · rintro ⟨message, faulted⟩
      exact cycle.hazard standard faulted
    · rintro ⟨rfl, hazard⟩
      obtain ⟨snapshot', after', message, ran', faulted⟩ := hazard.shows standard
      rw [ran] at ran'
      cases ran'
      exact ⟨message, faulted⟩
  · intro safe
    have succeeded : snapshot.fault = none := by
      cases faulted : snapshot.fault with
      | none => rfl
      | some report => exact absurd (cycle.hazard standard faulted).2 (safe _ _ _)
    exact ⟨succeeded, cycle.counted succeeded⟩

/-- A fetch that starts on the last byte of the memory fails at the byte after it. -/
theorem step_faults_iff_hazard_last_byte :
    let cells : Vector UInt8 4096 := Vector.replicate 4096 0
    let machine : Machine :=
      { state := { pc := 0xFFF }
        bus := { devices := #[.memory cells.toArray], mappings := [Mapping.mk 0 0xFFF 0] }
        generator := ⟨Vector.replicate 624 0, 0⟩, drawPolicy := .wrap
        startAddress := 0x200, stackLimit := 16, cycleCount := 0 }
    machine.bus.IsStandard cells ∧
      ∃ snapshot after message, step machine = .ok snapshot after ∧
        snapshot.fault = some ⟨.addressOutOfBounds, message, 0xFFF, none, some 0x1000⟩ := by
  intro cells machine
  have standard : machine.bus.IsStandard cells := ⟨rfl, rfl⟩
  obtain ⟨snapshot, after, ran, faults, _⟩ := step_faults_iff_hazard machine cells standard
  have outside : ¬ (0 ≤ machine.state.pc ∧ machine.state.pc ≤ 0xFFE) := by decide
  obtain ⟨message, faulted⟩ := (faults _ _ _ _).mpr ⟨rfl, .outsideMemory outside⟩
  exact ⟨standard, snapshot, after, message, ran, faulted⟩

end Machine

end Chip8
