import Chip8.Proofs.Actions

/-!
Reading from the bus. `answer` is what an address answers and `block` what a run of addresses answers,
with the accesses that are noted on the way; both are functions of the mapped devices alone. A bus of
memories answers with bytes, and the standard bus answers at the addresses from 0 to 4095.
-/

namespace Chip8

namespace Bus

/-- What an address answers to a read. -/
def answer (bus : Bus) (address : Int) : Except Problem Int :=
  match bus.locate? address with
  | some (mapping, device) => device.read (address - mapping.first)
  | none => .error (.fault (.outOfBounds (.unmapped address)))

theorem find?_of_locate? {bus : Bus} {address : Int} {mapping : Mapping} {device : Device}
    (found : bus.locate? address = some (mapping, device)) :
    bus.mappings.find? (·.covers address) = some mapping ∧
      bus.devices[mapping.device]? = some device := by
  simp only [locate?, Option.bind_eq_bind, Option.bind_eq_some_iff] at found
  obtain ⟨covering, covers, present, attached, same⟩ := found
  cases same
  exact ⟨covers, attached⟩

/-- What consecutive addresses answer, with the noted accesses. The first address that fails ends it. -/
def block (bus : Bus) (address : Int) : Nat → List Access × Except Problem (List Int)
  | 0 => ([], .ok [])
  | count + 1 =>
      match bus.answer address with
      | .error problem => ([], .error problem)
      | .ok data =>
          (Access.mk .read address data :: (bus.block (address + 1) count).1,
            (bus.block (address + 1) count).2.map (data :: ·))

/-- The bus with more accesses in its log. -/
def noting (bus : Bus) (accesses : List Access) : Bus :=
  { bus with activity := bus.activity ++ accesses }

@[simp] theorem noting_nil (bus : Bus) : bus.noting [] = bus := by
  simp [noting]

@[simp] theorem noting_noting (bus : Bus) (first second : List Access) :
    (bus.noting first).noting second = bus.noting (first ++ second) := by
  simp [noting]

@[simp] theorem devices_noting (bus : Bus) (accesses : List Access) :
    (bus.noting accesses).devices = bus.devices := rfl

@[simp] theorem mappings_noting (bus : Bus) (accesses : List Access) :
    (bus.noting accesses).mappings = bus.mappings := rfl

/-- The log has no influence on what is read. -/
theorem answer_congr {first second : Bus} (devices : first.devices = second.devices)
    (mappings : first.mappings = second.mappings) (address : Int) :
    first.answer address = second.answer address := by
  unfold answer locate?
  rw [devices, mappings]

theorem block_congr {first second : Bus} (devices : first.devices = second.devices)
    (mappings : first.mappings = second.mappings) (address : Int) (count : Nat) :
    first.block address count = second.block address count := by
  induction count generalizing address with
  | zero => rfl
  | succ count ih => simp only [block, answer_congr devices mappings, ih]

@[simp] theorem block_noting (bus : Bus) (accesses : List Access) (address : Int) (count : Nat) :
    (bus.noting accesses).block address count = bus.block address count :=
  block_congr (devices_noting bus accesses) (mappings_noting bus accesses) address count

theorem peek_apply (address : Int) (bus : Bus) :
    peek address bus =
      match bus.answer address with
      | .ok data => .ok data bus
      | .error problem => .error problem bus := by
  cases found : bus.locate? address with
  | none => simp [peek, resolve, answer, found]
  | some place =>
      cases data : place.2.read (address - place.1.first) <;>
        simp [peek, resolve, answer, found, data]

theorem read_apply (address : Int) (bus : Bus) :
    read address bus =
      match bus.answer address with
      | .ok data => .ok data (bus.noting [Access.mk .read address data])
      | .error problem => .error problem bus := by
  cases found : bus.answer address <;> simp [read, peek_apply, found, note, noting]

theorem readBlock_apply (address : Int) (count : Nat) (bus : Bus) :
    readBlock address count bus =
      match bus.block address count with
      | (accesses, .ok data) => .ok data (bus.noting accesses)
      | (accesses, .error problem) => .error problem (bus.noting accesses) := by
  induction count generalizing address bus with
  | zero => simp [readBlock, block]
  | succ count ih =>
      cases first : bus.answer address with
      | error problem => simp [readBlock, block, read_apply, first]
      | ok data =>
          simp only [readBlock, Action.bind_apply, read_apply, first, ih, block_noting, block]
          rcases bus.block (address + 1) count with ⟨accesses, problem | rest⟩
          · simp [Except.map]
          · simp [Except.map]

/-- A read can fail by an access that reaches too far only. -/
theorem answer_error {bus : Bus} {address : Int} {problem : Problem}
    (failed : bus.answer address = .error problem) :
    ∃ overreach, problem = .fault (.outOfBounds overreach) := by
  unfold answer at failed
  split at failed
  · rename_i mapping device _
    cases device with
    | memory cells =>
        simp only [Device.read] at failed
        split at failed
        · cases failed
        · exact ⟨_, (Except.error.inj failed).symm⟩
    | tally writes => cases failed
  · exact ⟨_, (Except.error.inj failed).symm⟩

/-- No answer is negative: a mapping passes on offsets from its own start. -/
theorem answer_nonneg {bus : Bus} {address data : Int} (found : bus.answer address = .ok data) :
    0 ≤ data := by
  unfold answer at found
  split at found
  · rename_i mapping device located
    have covers := List.find?_some (find?_of_locate? located).1
    simp only [Mapping.covers, Bool.and_eq_true, decide_eq_true_eq] at covers
    cases device with
    | memory cells =>
        simp only [Device.read] at found
        split at found
        · cases found
          omega
        · cases found
    | tally writes =>
        cases found
        omega
  · cases found

theorem block_error {bus : Bus} {address : Int} {count : Nat} {problem : Problem}
    (failed : (bus.block address count).2 = .error problem) :
    ∃ overreach, problem = .fault (.outOfBounds overreach) := by
  induction count generalizing address with
  | zero => cases failed
  | succ count ih =>
      simp only [block] at failed
      split at failed
      · rename_i found
        cases failed
        exact answer_error found
      · cases rest : (bus.block (address + 1) count).2 with
        | error cause =>
            rw [rest] at failed
            cases failed
            exact ih rest
        | ok data =>
            rw [rest] at failed
            cases failed

theorem block_succ {bus : Bus} {address : Int} {count : Nat} {accesses : List Access} {data : List Int}
    (read : bus.block address (count + 1) = (accesses, .ok data)) :
    ∃ byte more rest, bus.answer address = .ok byte ∧ bus.block (address + 1) count = (more, .ok rest) ∧
      data = byte :: rest := by
  rw [block] at read
  cases first : bus.answer address with
  | error problem =>
      rw [first] at read
      cases read
  | ok byte =>
      rw [first] at read
      rcases following : bus.block (address + 1) count with ⟨more, problem | rest⟩
      · rw [following] at read
        cases read
      · rw [following] at read
        cases read
        exact ⟨byte, more, rest, rfl, rfl, rfl⟩

theorem block_two {bus : Bus} {address : Int} {accesses : List Access} {bytes : List Int}
    (read : bus.block address 2 = (accesses, .ok bytes)) :
    ∃ high low, bus.answer address = .ok high ∧ bus.answer (address + 1) = .ok low ∧
      bytes = [high, low] := by
  obtain ⟨high, _, _, first, following, rfl⟩ := block_succ read
  obtain ⟨low, _, _, second, done, rfl⟩ := block_succ following
  cases done
  exact ⟨high, low, first, second, rfl⟩

/-- Every mapped device is a memory. -/
def MemoryOnly (bus : Bus) : Prop :=
  ∀ mapping ∈ bus.mappings, ∀ device, bus.devices[mapping.device]? = some device →
    ∃ cells, device = .memory cells

theorem MemoryOnly.single (cells : Array UInt8) (first last : Int) :
    MemoryOnly { devices := #[.memory cells], mappings := [Mapping.mk first last 0] } := by
  intro mapping mapped device present
  rw [List.mem_singleton.mp mapped] at present
  exact ⟨cells, (Option.some.inj present).symm⟩

theorem MemoryOnly.answer_byte {bus : Bus} (memories : bus.MemoryOnly) {address data : Int}
    (found : bus.answer address = .ok data) : 0 ≤ data ∧ data ≤ 0xFF := by
  unfold answer at found
  split at found
  · rename_i mapping device located
    obtain ⟨covers, present⟩ := find?_of_locate? located
    obtain ⟨cells, rfl⟩ := memories mapping (List.mem_of_find?_eq_some covers) device present
    simp only [Device.read] at found
    split at found
    · have bound := (cells.getD (address - mapping.first).toNat 0).toNat_lt
      have value := Except.ok.inj found
      omega
    · cases found
  · cases found

/-- Memory at the addresses from 0 to 4095 and nothing else. -/
structure IsStandard (bus : Bus) (cells : Vector UInt8 4096) : Prop where
  devices : bus.devices = #[.memory cells.toArray]
  mappings : bus.mappings = [Mapping.mk 0 0xFFF 0]

/-- The byte at an address of the standard memory. -/
def byteAt (cells : Vector UInt8 4096) (address : Int) : UInt8 :=
  cells.toArray.getD address.toNat 0

namespace IsStandard

variable {bus : Bus} {cells : Vector UInt8 4096}

theorem memoryOnly (standard : bus.IsStandard cells) : bus.MemoryOnly := by
  intro mapping mapped device present
  rw [standard.mappings, List.mem_singleton] at mapped
  subst mapped
  simp only [standard.devices, List.getElem?_toArray, List.getElem?_cons_zero,
    Option.some.injEq] at present
  exact ⟨_, present.symm⟩

theorem answer_eq (standard : bus.IsStandard cells) (address : Int) :
    bus.answer address =
      if 0 ≤ address ∧ address ≤ 0xFFF then .ok (byteAt cells address).toNat
      else .error (.fault (.outOfBounds (.unmapped address))) := by
  by_cases inside : 0 ≤ address ∧ address ≤ 0xFFF
  · have below : address < 4096 := by omega
    simp [answer, locate?, standard.devices, standard.mappings, Mapping.covers, Device.read, byteAt,
      inside, below]
  · simp [answer, locate?, standard.mappings, Mapping.covers, inside]

/-- The address at which the block read from `address` on fails. -/
theorem block_outside (standard : bus.IsStandard cells) (address : Int) (count : Nat)
    (nonempty : 0 < count) (outside : address < 0 ∨ 0x1000 < address + count) :
    (bus.block address count).2 =
      .error (.fault (.outOfBounds
        (.unmapped (if address < 0 then address else max address 0x1000)))) := by
  induction count generalizing address with
  | zero => omega
  | succ count ih =>
      simp only [block, standard.answer_eq]
      by_cases inside : 0 ≤ address ∧ address ≤ 0xFFF
      · have rest := ih (address + 1) (by omega) (by omega)
        rw [if_neg (by omega), Int.max_eq_right (by omega)] at rest
        simp only [inside, and_self, if_true, rest, Except.map]
        rw [if_neg (by omega), Int.max_eq_right (by omega)]
      · simp only [inside, if_false]
        split
        · rfl
        · rw [Int.max_eq_left (by omega)]

theorem block_inside (standard : bus.IsStandard cells) (address : Int) (count : Nat)
    (first : 0 ≤ address) (last : address + count ≤ 0x1000) :
    (bus.block address count).2 =
      .ok ((List.range count).map fun offset : Nat =>
        ((byteAt cells (address + offset)).toNat : Int)) := by
  induction count generalizing address with
  | zero => rfl
  | succ count ih =>
      have inside : 0 ≤ address ∧ address ≤ 0xFFF := by omega
      have rest := ih (address + 1) (by omega) (by omega)
      simp only [block, standard.answer_eq, inside, and_self, if_true, rest, Except.map,
        List.range_succ_eq_map, List.map_cons, List.map_map]
      have shifted (offset : Nat) : address + 1 + offset = address + (offset.succ : Nat) := by omega
      simp [Function.comp_def, shifted]

end IsStandard

end Bus

end Chip8
