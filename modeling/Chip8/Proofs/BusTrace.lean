import Chip8.Proofs.Memory
import Chip8.Proofs.Timeline

/-!
What a cycle does on the bus. It reads the two bytes of its word and, if that draws, the rows of the
sprite, up to the first address that is not mapped; it writes nothing. The main theorem follows this
through whole runs, with accesses from outside between the cycles.
-/

namespace Chip8

/-- The addresses of the sprite that a word draws. Only the words from D000 to DFFF draw. -/
def spriteAddresses (word : Int) (index : UInt16) : List Int :=
  if 0xD000 ≤ word ∧ word ≤ 0xDFFF then addressesFrom index.toNat (word % 16).toNat else []

namespace Bus

variable {bus : Bus}

theorem readings_congr {first second : Bus} (devices : first.devices = second.devices)
    (mappings : first.mappings = second.mappings) : first.readings = second.readings := by
  funext addresses
  have sameReading : first.reading = second.reading := by
    funext address
    rw [reading, reading, stored_congr devices mappings]
  rw [readings, readings, mapped_congr mappings, sameReading]

theorem gap?_congr {first second : Bus} (mappings : first.mappings = second.mappings) :
    first.gap? = second.gap? := by
  funext addresses
  rw [gap?, gap?, mapped_congr mappings]

theorem gap?_append (addresses more : List Int) :
    bus.gap? (addresses ++ more) = (bus.gap? addresses).or (bus.gap? more) :=
  List.find?_append

theorem readings_append (addresses more : List Int) :
    bus.readings (addresses ++ more) =
      bus.readings addresses ++ if bus.gap? addresses = none then bus.readings more else [] := by
  induction addresses with
  | nil => rfl
  | cons address rest ih =>
      simp only [readings, gap?] at ih ⊢
      cases isMapped : bus.mapped address with
      | false => simp [isMapped]
      | true => simp [isMapped, ih]

theorem kind_of_mem_readings {addresses : List Int} {access : Access}
    (noted : access ∈ bus.readings addresses) : access.kind = .read := by
  obtain ⟨address, _, rfl⟩ := List.mem_map.mp noted
  rfl

end Bus

namespace Instruction

/-- The addresses that an instruction reads. -/
def sprite (index : UInt16) : Instruction → List Int
  | draw _ _ rows => addressesFrom index.toNat rows.val
  | _ => []

theorem Encodes.sprite {word : Int} {instruction : Instruction} (encodes : instruction.Encodes word)
    (index : UInt16) : instruction.sprite index = spriteAddresses word index := by
  have range := encodes.range
  cases instruction with
  | draw x y rows =>
      simp only [Encodes] at encodes
      have digit : (word % 16).toNat = rows.val := by omega
      rw [spriteAddresses, if_pos (by omega), digit]
      rfl
  | skipIfByte x byte | skipUnlessByte x byte | loadByte x byte | addByte x byte | random x byte =>
      have bound := byte.toNat_lt
      simp only [Encodes] at encodes
      rw [spriteAddresses, if_neg (by omega)]
      rfl
  | skipIfEqual x y | skipUnlessEqual x y | shiftRight x | shiftLeft x =>
      obtain ⟨free, rfl⟩ := encodes
      rw [spriteAddresses, if_neg (by omega)]
      rfl
  | _ =>
      simp only [Encodes] at encodes
      rw [spriteAddresses, if_neg (by omega)]
      rfl

theorem spriteAddresses_of_refused {word : Int} {cause : Fault}
    (refused : Operation.decode word = .error (.fault cause)) (index : UInt16) :
    spriteAddresses word index = [] := by
  rw [Operation.decode_apply] at refused
  split at refused
  · rename_i range
    cases known : ofWord? word with
    | some instruction =>
        rw [known] at refused
        cases refused
    | none =>
        have unlisted := unlisted_of_ofWord? range.1 range.2 known
        simp only [Unlisted] at unlisted
        rw [spriteAddresses, if_neg (by omega)]
  · cases refused

theorem left_skipIf_bus (condition : Bool) (machine : Machine) :
    ((Machine.skipIf condition).left machine).bus = machine.bus := by
  rw [Action.left, Machine.skipIf_apply]
  cases condition with
  | false => rfl
  | true =>
      by_cases inside : 0 ≤ machine.state.pc + 2 ∧ machine.state.pc + 2 < 4096
      · rw [if_pos rfl, if_pos inside]
      · rw [if_pos rfl, if_neg inside]

/-- An instruction notes the reads of its sprite and nothing else. -/
theorem left_execute_bus (instruction : Instruction) {machine : Machine}
    (fitted : machine.bus.Fitted) :
    (instruction.execute.left machine).bus =
      machine.bus.noting (machine.bus.readings (instruction.sprite machine.state.i)) := by
  have unread : machine.bus = machine.bus.noting [] := (Bus.noting_nil _).symm
  cases instruction with
  | draw x y rows =>
      rw [Action.left, execute_draw, fitted.block_eq]
      cases machine.bus.gap? (addressesFrom machine.state.i.toNat rows.val) <;> rfl
  | ret =>
      rw [Action.left, execute_ret]
      cases machine.state.stack <;> exact unread
  | call target =>
      rw [Action.left, execute_call]
      by_cases room : (machine.state.sp : Int) < machine.state.stackLimit
      · rw [if_pos room]
        exact unread
      · rw [if_neg room]
        exact unread
  | jumpOffset address =>
      rw [Action.left, execute_jumpOffset]
      by_cases inside : (address.val : Int) + (machine.state.value Register.offset).toNat < 4096
      · rw [if_pos inside]
        exact unread
      · rw [if_neg inside]
        exact unread
  | skipIfByte | skipUnlessByte | skipIfEqual | skipUnlessEqual =>
      exact (left_skipIf_bus _ machine).trans unread
  | jump target =>
      rw [Action.left, execute_jump]
      exact unread
  | loadIndex address =>
      rw [Action.left, execute_loadIndex]
      exact unread
  | _ => exact unread

theorem execute_gap {instruction : Instruction} {machine : Machine} (fitted : machine.bus.Fitted)
    {gap : Int} (stops : machine.bus.gap? (instruction.sprite machine.state.i) = some gap) :
    ∃ last, instruction.execute machine = .error (.fault (.outOfBounds (.unmapped gap))) last := by
  cases instruction with
  | draw x y rows =>
      have missing : machine.bus.gap? (addressesFrom machine.state.i.toNat rows.val) = some gap := stops
      rw [execute_draw, fitted.block_eq, missing]
      exact ⟨_, rfl⟩
  | _ => cases stops

end Instruction

namespace Machine

variable {machine after : Machine} {snapshot : Snapshot} {accesses : List Access}

/-- The word that is stored at the program counter. -/
def word (machine : Machine) : Int :=
  (machine.bus.stored machine.state.pc).toNat * 0x100 +
    (machine.bus.stored (machine.state.pc + 1)).toNat

/-- The addresses that a cycle reads if none of them stops it: those of the word and of its sprite. -/
def wanted (machine : Machine) : List Int :=
  addressesFrom machine.state.pc 2 ++ spriteAddresses machine.word machine.state.i

theorem fetch_gap (fitted : machine.bus.Fitted) {cause : Fault}
    (failed : machine.bus.block machine.state.pc 2 = (accesses, .error (.fault cause))) :
    ∃ gap, machine.bus.gap? (addressesFrom machine.state.pc 2) = some gap ∧
      accesses = machine.bus.readings (addressesFrom machine.state.pc 2) ∧
      cause = .outOfBounds (.unmapped gap) := by
  rw [fitted.block_eq] at failed
  cases missing : machine.bus.gap? (addressesFrom machine.state.pc 2) with
  | none =>
      rw [missing] at failed
      cases failed
  | some gap =>
      rw [missing] at failed
      cases failed
      exact ⟨gap, rfl, rfl, rfl⟩

theorem fetch_whole (fitted : machine.bus.Fitted) {bytes : List Int}
    (fetched : machine.bus.block machine.state.pc 2 = (accesses, .ok bytes)) :
    machine.bus.gap? (addressesFrom machine.state.pc 2) = none ∧
      accesses = machine.bus.readings (addressesFrom machine.state.pc 2) ∧
      bigEndian bytes = machine.word := by
  rw [fitted.block_eq] at fetched
  cases missing : machine.bus.gap? (addressesFrom machine.state.pc 2) with
  | some gap =>
      rw [missing] at fetched
      cases fetched
  | none =>
      rw [missing] at fetched
      cases fetched
      exact ⟨rfl, rfl, bigEndian_toNat _ _⟩

theorem Cycle.bus (cycle : Cycle machine snapshot after) :
    after.bus = { machine.bus with activity := [] } := by
  cases cycle with
  | fetchFault failed => rfl
  | decodeFault read failed => rfl
  | executionFault read decoded failed =>
      obtain ⟨_, more, _, rfl⟩ := Operation.execute_error failed
      rfl
  | completed read decoded executed =>
      obtain ⟨instruction, encodes, rfl⟩ := Operation.exists_encodes_of_decode decoded
      rw [Operation.execute_ofInstruction encodes] at executed
      obtain ⟨more, same⟩ := (Instruction.effect_of_execute executed).kept.bus
      simp only [logging, same]
      rfl

theorem readings_of_execute (fitted : machine.bus.Fitted) {instruction : Instruction} {last : Machine}
    (encodes : instruction.Encodes machine.word)
    (whole : machine.bus.gap? (addressesFrom machine.state.pc 2) = none)
    (left : instruction.execute.left
      (machine.logging (machine.bus.readings (addressesFrom machine.state.pc 2))).advanced = last) :
    last.bus.activity = machine.bus.readings machine.wanted := by
  have ready : (machine.logging
      (machine.bus.readings (addressesFrom machine.state.pc 2))).advanced.bus.Fitted :=
    fitted.congr rfl rfl
  have noted := instruction.left_execute_bus ready
  have same : (machine.logging
      (machine.bus.readings (addressesFrom machine.state.pc 2))).advanced.bus.readings =
        machine.bus.readings := Bus.readings_congr rfl rfl
  rw [left, same] at noted
  rw [noted, wanted, Bus.readings_append, if_pos whole, ← encodes.sprite]
  rfl

theorem Cycle.activity (cycle : Cycle machine snapshot after) (fitted : machine.bus.Fitted) :
    snapshot.activity = machine.bus.readings machine.wanted := by
  cases cycle with
  | fetchFault failed =>
      obtain ⟨gap, missing, rfl, _⟩ := fetch_gap fitted failed
      rw [wanted, Bus.readings_append, missing, if_neg (by simp), List.append_nil]
      rfl
  | decodeFault read refused =>
      obtain ⟨whole, rfl, word⟩ := fetch_whole fitted read
      rw [word] at refused
      rw [wanted, Instruction.spriteAddresses_of_refused refused, List.append_nil]
      rfl
  | executionFault read decoded failed =>
      obtain ⟨whole, rfl, word⟩ := fetch_whole fitted read
      obtain ⟨instruction, encodes, rfl⟩ := Operation.exists_encodes_of_decode decoded
      rw [Operation.execute_ofInstruction encodes] at failed
      rw [word] at encodes
      exact readings_of_execute fitted encodes whole (by rw [Action.left, failed])
  | completed read decoded executed =>
      obtain ⟨whole, rfl, word⟩ := fetch_whole fitted read
      obtain ⟨instruction, encodes, rfl⟩ := Operation.exists_encodes_of_decode decoded
      rw [Operation.execute_ofInstruction encodes] at executed
      rw [word] at encodes
      have noted := readings_of_execute fitted encodes whole (by rw [Action.left, executed])
      exact noted

theorem execute_of_gap (fitted : machine.bus.Fitted) {instruction : Instruction} {gap : Int}
    (encodes : instruction.Encodes machine.word)
    (whole : machine.bus.gap? (addressesFrom machine.state.pc 2) = none)
    (stops : (machine.bus.gap? (addressesFrom machine.state.pc 2)).or
      (machine.bus.gap? (spriteAddresses machine.word machine.state.i)) = some gap)
    (accesses : List Access) :
    ∃ last, instruction.execute (machine.logging accesses).advanced =
      .error (.fault (.outOfBounds (.unmapped gap))) last := by
  have ready : (machine.logging accesses).advanced.bus.Fitted := fitted.congr rfl rfl
  have sameGap : (machine.logging accesses).advanced.bus.gap? = machine.bus.gap? :=
    Bus.gap?_congr rfl
  rw [whole, Option.none_or, ← encodes.sprite, ← sameGap] at stops
  exact Instruction.execute_gap ready stops

/-- The first address that is not mapped is where the cycle faults. -/
theorem Cycle.gap (cycle : Cycle machine snapshot after) (fitted : machine.bus.Fitted) {gap : Int}
    (stops : machine.bus.gap? machine.wanted = some gap) :
    ∃ report, snapshot.fault = some report ∧ report.kind = .addressOutOfBounds ∧
      report.address = some gap := by
  rw [wanted, Bus.gap?_append] at stops
  cases cycle with
  | fetchFault failed =>
      obtain ⟨first, missing, _, rfl⟩ := fetch_gap fitted failed
      rw [missing] at stops
      cases stops
      exact ⟨_, rfl, rfl, rfl⟩
  | decodeFault read refused =>
      obtain ⟨whole, rfl, word⟩ := fetch_whole fitted read
      rw [word] at refused
      rw [whole, Instruction.spriteAddresses_of_refused refused] at stops
      cases stops
  | executionFault read decoded failed =>
      obtain ⟨whole, rfl, word⟩ := fetch_whole fitted read
      obtain ⟨instruction, encodes, rfl⟩ := Operation.exists_encodes_of_decode decoded
      rw [Operation.execute_ofInstruction encodes] at failed
      rw [word] at encodes
      obtain ⟨last, stopped⟩ := execute_of_gap fitted encodes whole stops _
      rw [stopped] at failed
      cases failed
      exact ⟨_, rfl, rfl, rfl⟩
  | completed read decoded executed =>
      obtain ⟨whole, rfl, word⟩ := fetch_whole fitted read
      obtain ⟨instruction, encodes, rfl⟩ := Operation.exists_encodes_of_decode decoded
      rw [Operation.execute_ofInstruction encodes] at executed
      rw [word] at encodes
      obtain ⟨last, stopped⟩ := execute_of_gap fitted encodes whole stops _
      rw [stopped] at executed
      cases executed

/-- A move leaves the bus as it was, or with a memory written from outside, and with some log. -/
theorem moved_rewritten (memories : machine.bus.MemoryOnly) (move : Move) :
    ∃ written log, machine.bus.Rewritten written ∧
      (machine.moved move).bus = { written with activity := log } := by
  cases move with
  | step =>
      obtain ⟨snapshot, after, ran⟩ := exists_step memories
      rw [moved_step ran, (cycle_of_step ran).bus]
      exact ⟨machine.bus, [], .kept, rfl⟩
  | tick => exact ⟨machine.bus, _, .kept, rfl⟩
  | drain => exact ⟨machine.bus, [], .kept, rfl⟩
  | read address =>
      rw [moved, left_onBus, Action.left, Bus.read_apply]
      cases machine.bus.answer address <;> exact ⟨machine.bus, _, .kept, rfl⟩
  | peek address =>
      rw [moved, left_onBus, Action.left, Bus.peek_apply]
      cases machine.bus.answer address <;> exact ⟨machine.bus, _, .kept, rfl⟩
  | write address data =>
      rw [moved, left_onBus]
      exact ⟨_, _, memories.rewritten_write address data, rfl⟩
  | load address block =>
      rw [moved, left_onBus]
      exact ⟨_, _, memories.rewritten_load address block, rfl⟩

theorem moved_fitted (fitted : machine.bus.Fitted) (move : Move) : (machine.moved move).bus.Fitted := by
  obtain ⟨written, log, rewritten, bus⟩ := moved_rewritten fitted.memoryOnly move
  rw [bus]
  exact (fitted.rewritten rewritten).congr rfl rfl

theorem moved_memoryOnly (memories : machine.bus.MemoryOnly) (move : Move) :
    (machine.moved move).bus.MemoryOnly := by
  obtain ⟨written, log, rewritten, bus⟩ := moved_rewritten memories move
  have kept := memories.rewritten rewritten
  rw [bus]
  exact kept

theorem timeline_fitted (fitted : machine.bus.Fitted) (moves : Nat → Move) (time : Nat) :
    (machine.timeline moves time).bus.Fitted := by
  induction time with
  | zero => exact fitted
  | succ time ih => exact moved_fitted ih (moves time)

theorem timeline_memoryOnly (memories : machine.bus.MemoryOnly) (moves : Nat → Move) (time : Nat) :
    (machine.timeline moves time).bus.MemoryOnly := by
  induction time with
  | zero => exact memories
  | succ time ih => exact moved_memoryOnly ih (moves time)

/-- Nothing but writing from outside changes what the bus holds. -/
theorem moved_memory (fitted : machine.bus.Fitted) {move : Move} (quiet : move.writes = false) :
    (machine.moved move).bus.devices = machine.bus.devices ∧
      (machine.moved move).bus.mappings = machine.bus.mappings := by
  cases move with
  | step =>
      obtain ⟨snapshot, after, ran⟩ := exists_step fitted.memoryOnly
      rw [moved_step ran, (cycle_of_step ran).bus]
      exact ⟨rfl, rfl⟩
  | tick => exact ⟨rfl, rfl⟩
  | read address =>
      rw [moved, left_onBus, Action.left, Bus.read_apply]
      cases machine.bus.answer address <;> exact ⟨rfl, rfl⟩
  | peek address =>
      rw [moved, left_onBus, Action.left, Bus.peek_apply]
      cases machine.bus.answer address <;> exact ⟨rfl, rfl⟩
  | write address data => cases quiet
  | load address block => cases quiet
  | drain => exact ⟨rfl, rfl⟩

theorem timeline_memory (fitted : machine.bus.Fitted) {moves : Nat → Move} {time : Nat}
    (quiet : ∀ earlier, earlier < time → (moves earlier).writes = false) :
    (machine.timeline moves time).bus.devices = machine.bus.devices ∧
      (machine.timeline moves time).bus.mappings = machine.bus.mappings := by
  induction time with
  | zero => exact ⟨rfl, rfl⟩
  | succ time ih =>
      obtain ⟨devices, mappings⟩ := ih fun earlier sooner => quiet earlier (by omega)
      have kept := moved_memory (timeline_fitted fitted moves time) (quiet time (by omega))
      exact ⟨kept.1.trans devices, kept.2.trans mappings⟩

/-- Programs read their words and sprites and change nothing. As long as no one writes from outside,
the memory stays what it was; and each cycle of a run notes exactly the reads that it wants, up to the
first address that is not mapped, where it then faults. Accesses from before the cycle are not among
them, and none of them is left in the log. -/
theorem cycles_only_read (machine : Machine) (fitted : machine.bus.Fitted) (moves : Nat → Move) :
    (∀ time, (∀ earlier, earlier < time → (moves earlier).writes = false) → ∀ address,
      (machine.timeline moves time).bus.mapped address = machine.bus.mapped address ∧
        (machine.timeline moves time).bus.stored address = machine.bus.stored address) ∧
    ∀ time, moves time = .step →
      let before := machine.timeline moves time
      let after := machine.timeline moves (time + 1)
      ∃ snapshot, step before = .ok snapshot after ∧
        snapshot.activity = before.bus.readings before.wanted ∧
        (∀ access ∈ snapshot.activity, access.kind = .read) ∧
        after.bus = { before.bus with activity := [] } ∧
        ∀ gap, before.bus.gap? before.wanted = some gap →
          ∃ report, snapshot.fault = some report ∧ report.kind = .addressOutOfBounds ∧
            report.address = some gap := by
  constructor
  · intro time quiet address
    obtain ⟨devices, mappings⟩ := timeline_memory fitted quiet
    exact ⟨congrFun (Bus.mapped_congr mappings) address,
      congrFun (Bus.stored_congr devices mappings) address⟩
  · intro time isStep before after
    have fittedNow := timeline_fitted fitted moves time
    obtain ⟨snapshot, next, ran⟩ := exists_step fittedNow.memoryOnly
    have arrives : next = after := by
      rw [← moved_step ran, ← isStep]
      rfl
    subst arrives
    have cycle := cycle_of_step ran
    have noted := cycle.activity fittedNow
    refine ⟨snapshot, ran, noted, ?_, cycle.bus, ?_⟩
    · intro access member
      rw [noted] at member
      exact Bus.kind_of_mem_readings member
    · intro gap stops
      exact cycle.gap fittedNow stops

/-- A memory of eight cells, with a program that draws five rows from address 6 on. -/
def shortSprite : Machine where
  state := { pc := 0 }
  bus := {
    devices := #[.memory #[0xA0, 0x06, 0xD0, 0x15, 0x00, 0x00, 0xF0, 0x90]]
    mappings := [Mapping.mk 0 7 0] }
  generator := ⟨Vector.replicate 624 0, 0⟩
  drawPolicy := .wrap
  startAddress := 0
  stackLimit := 16
  cycleCount := 0

def peepingAtTwo : Nat → Move
  | 1 => .read 2
  | _ => .step

theorem cycles_only_read_short_sprite :
    shortSprite.bus.Fitted ∧
      ∃ snapshot report, step (shortSprite.timeline peepingAtTwo 2) =
          .ok snapshot (shortSprite.timeline peepingAtTwo 3) ∧
        snapshot.activity = [Access.mk .read 2 0xD0, Access.mk .read 3 0x15,
          Access.mk .read 6 0xF0, Access.mk .read 7 0x90] ∧
        snapshot.fault = some report ∧ report.address = some 8 ∧
        (shortSprite.timeline peepingAtTwo 3).bus.stored 7 = 0x90 := by
  have fitted : shortSprite.bus.Fitted := by
    intro mapping member
    rw [List.mem_singleton.mp member]
    exact ⟨_, rfl, rfl⟩
  obtain ⟨keeps, reads⟩ := cycles_only_read shortSprite fitted peepingAtTwo
  obtain ⟨snapshot, ran, noted, _, _, faults⟩ := reads 2 rfl
  have wanted : (shortSprite.timeline peepingAtTwo 2).bus.readings
      (shortSprite.timeline peepingAtTwo 2).wanted =
        [Access.mk .read 2 0xD0, Access.mk .read 3 0x15, Access.mk .read 6 0xF0,
          Access.mk .read 7 0x90] := by decide
  have gap : (shortSprite.timeline peepingAtTwo 2).bus.gap?
      (shortSprite.timeline peepingAtTwo 2).wanted = some 8 := by decide
  have quiet (earlier : Nat) (sooner : earlier < 3) : (peepingAtTwo earlier).writes = false := by
    obtain rfl | rfl | rfl : earlier = 0 ∨ earlier = 1 ∨ earlier = 2 := by omega
    all_goals rfl
  obtain ⟨report, faulted, _, place⟩ := faults 8 gap
  exact ⟨fitted, snapshot, report, ran, noted.trans wanted, faulted, place, (keeps 3 quiet 7).2⟩

end Machine

end Chip8
