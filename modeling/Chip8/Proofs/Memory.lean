import Chip8.Proofs.BusWrites

/-!
What a bus of memories holds. Under `Fitted` every mapping leads to a memory as large as its range, which
is how buses are put together; then exactly the mapped addresses answer, each with its stored byte, and
writing keeps the bus fitted.
-/

namespace Chip8

def addressesFrom (first : Int) : Nat → List Int
  | 0 => []
  | count + 1 => first :: addressesFrom (first + 1) count

namespace Bus

/-- Every mapping leads to a memory that is as large as its range. -/
def Fitted (bus : Bus) : Prop :=
  ∀ mapping ∈ bus.mappings, ∃ cells, bus.devices[mapping.device]? = some (.memory cells) ∧
    (cells.size : Int) = mapping.last - mapping.first + 1

def mapped (bus : Bus) (address : Int) : Bool := bus.mappings.any (·.covers address)

/-- The byte at an address, in the memory of the first mapping that covers it. -/
def stored (bus : Bus) (address : Int) : UInt8 :=
  match bus.mappings.find? (·.covers address) with
  | none => 0
  | some mapping =>
      match bus.devices[mapping.device]? with
      | some (.memory cells) => cells.getD (address - mapping.first).toNat 0
      | _ => 0

/-- Where an address lies on a bus of memories. -/
inductive Place (bus : Bus) (address : Int) : Prop
  | nowhere : bus.mappings.find? (·.covers address) = none → bus.mapped address = false →
      Place bus address
  | cell (mapping : Mapping) (cells : Array UInt8) :
      bus.mappings.find? (·.covers address) = some mapping → bus.mapped address = true →
      bus.devices[mapping.device]? = some (.memory cells) →
      mapping.first ≤ address → address - mapping.first < cells.size → Place bus address

/-- The access that a read of an address notes. -/
def reading (bus : Bus) (address : Int) : Access :=
  Access.mk .read address (bus.stored address).toNat

/-- The first of some addresses that is not mapped. -/
def gap? (bus : Bus) (addresses : List Int) : Option Int := addresses.find? (!bus.mapped ·)

/-- What is noted when some addresses are read in order: all of them, or those before the first that is
not mapped. -/
def readings (bus : Bus) (addresses : List Int) : List Access :=
  (addresses.takeWhile bus.mapped).map bus.reading

theorem mapped_congr {first second : Bus} (mappings : first.mappings = second.mappings) :
    first.mapped = second.mapped := by
  funext address
  simp only [mapped, mappings]

theorem stored_congr {first second : Bus} (devices : first.devices = second.devices)
    (mappings : first.mappings = second.mappings) : first.stored = second.stored := by
  funext address
  simp only [stored, devices, mappings]

theorem left_attachMemory (bus : Bus) (size : Int) :
    (attachMemory size).left bus = bus ∨
      (attachMemory size).left bus =
        { bus with devices := bus.devices.push (.blankMemory size.toNat) } := by
  by_cases empty : size ≤ 0
  · simp only [Action.left, attachMemory, if_pos empty]
    exact .inl rfl
  · simp only [Action.left, attachMemory, if_neg empty]
    exact .inr rfl

/-- Mapping a device is refused, or it adds the range. A memory then has its size. -/
theorem register_cases (bus : Bus) (first last : Int) (number : Nat) :
    (∃ cause, register first last number bus = .error (.misuse cause) bus) ∨
      (0 ≤ first ∧ first ≤ last) ∧ ∃ device, bus.devices[number]? = some device ∧
        (∀ size, device.size? = some size → (size : Int) = last - first + 1) ∧
        register first last number bus =
          .ok () { bus with mappings := bus.mappings ++ [Mapping.mk first last number] } := by
  by_cases order : 0 ≤ first ∧ first ≤ last
  · cases present : bus.devices[number]? with
    | none =>
        simp only [register, if_pos order, Action.bind_apply, Action.get_apply, present]
        exact .inl ⟨_, rfl⟩
    | some device =>
        simp only [register, if_pos order, Action.bind_apply, Action.get_apply, present]
        cases sized : device.size? with
        | none => exact .inr ⟨order, device, rfl, by simp [sized], rfl⟩
        | some size =>
            by_cases span : (size : Int) = last - first + 1
            · simp only [if_pos span]
              exact .inr ⟨order, device, rfl, by simp [sized, span], rfl⟩
            · simp only [if_neg span]
              exact .inl ⟨_, rfl⟩
  · simp only [register, if_neg order]
    exact .inl ⟨_, rfl⟩

theorem left_register (bus : Bus) (first last : Int) (number : Nat) :
    (register first last number).left bus = bus ∨
      ∃ device, bus.devices[number]? = some device ∧
        (∀ size, device.size? = some size → (size : Int) = last - first + 1) ∧
        (register first last number).left bus =
          { bus with mappings := bus.mappings ++ [Mapping.mk first last number] } := by
  rcases bus.register_cases first last number with ⟨cause, refused⟩ | ⟨_, device, present, span, done⟩
  · exact .inl (by rw [Action.left, refused])
  · exact .inr ⟨device, present, span, by rw [Action.left, done]⟩

namespace Fitted

variable {bus : Bus}

theorem memoryOnly (fitted : bus.Fitted) : bus.MemoryOnly := by
  intro mapping member device present
  obtain ⟨cells, attached, _⟩ := fitted mapping member
  exact ⟨cells, Option.some.inj (present.symm.trans attached)⟩

theorem congr (fitted : bus.Fitted) {after : Bus} (devices : after.devices = bus.devices)
    (mappings : after.mappings = bus.mappings) : after.Fitted := by
  intro mapping member
  rw [mappings] at member
  rw [devices]
  exact fitted mapping member

theorem attached (fitted : bus.Fitted) (device : Device) :
    Fitted { bus with devices := bus.devices.push device } := by
  intro mapping member
  obtain ⟨cells, present, span⟩ := fitted mapping member
  have bound := (Array.getElem?_eq_some_iff.mp present).1
  refine ⟨cells, ?_, span⟩
  rw [Array.getElem?_push, if_neg (Nat.ne_of_lt bound), present]

theorem registered (fitted : bus.Fitted) {first last : Int} {number : Nat} {cells : Array UInt8}
    (present : bus.devices[number]? = some (.memory cells))
    (span : (cells.size : Int) = last - first + 1) :
    Fitted { bus with mappings := bus.mappings ++ [Mapping.mk first last number] } := by
  intro mapping member
  rcases List.mem_append.mp member with old | new
  · exact fitted mapping old
  · rw [List.mem_singleton.mp new]
    exact ⟨cells, present, span⟩

theorem place (fitted : bus.Fitted) (address : Int) : bus.Place address := by
  cases found : bus.mappings.find? (·.covers address) with
  | none =>
      refine .nowhere found ?_
      rw [mapped, List.any_eq_false]
      exact List.find?_eq_none.mp found
  | some mapping =>
      have member := List.mem_of_find?_eq_some found
      have covers := List.find?_some found
      have isMapped : bus.mapped address = true := List.any_eq_true.mpr ⟨mapping, member, covers⟩
      obtain ⟨cells, attached, size⟩ := fitted mapping member
      simp only [Mapping.covers, Bool.and_eq_true, decide_eq_true_eq] at covers
      exact .cell mapping cells found isMapped attached covers.1 (by omega)

theorem answer_eq (fitted : bus.Fitted) (address : Int) :
    bus.answer address =
      if bus.mapped address then .ok (bus.stored address).toNat
      else .error (.fault (.outOfBounds (.unmapped address))) := by
  cases fitted.place address with
  | nowhere found unmapped => simp [answer, locate?, found, unmapped]
  | cell mapping cells found isMapped attached first last =>
      have inside : 0 ≤ address - mapping.first ∧ address - mapping.first < cells.size := by omega
      have located : bus.locate? address = some (mapping, .memory cells) := by
        simp [locate?, found, attached]
      simp only [answer, located, Device.read, inside, and_self, if_true, isMapped, stored, found,
        attached]

theorem block_eq (fitted : bus.Fitted) (address : Int) (count : Nat) :
    bus.block address count =
      (bus.readings (addressesFrom address count),
        match bus.gap? (addressesFrom address count) with
        | none => .ok ((addressesFrom address count).map fun place => ((bus.stored place).toNat : Int))
        | some gap => .error (.fault (.outOfBounds (.unmapped gap)))) := by
  induction count generalizing address with
  | zero => rfl
  | succ count ih =>
      simp only [block, fitted.answer_eq, ih, addressesFrom, readings, gap?]
      cases isMapped : bus.mapped address with
      | false => simp [isMapped]
      | true =>
          simp only [isMapped, if_true, List.takeWhile_cons, List.map_cons, List.find?_cons,
            Bool.not_true, reading]
          cases (addressesFrom (address + 1) count).find? (!bus.mapped ·) <;> rfl

theorem rewritten (fitted : bus.Fitted) {after : Bus} (written : bus.Rewritten after) :
    after.Fitted := by
  cases written with
  | kept => exact fitted
  | @replaced place cells after log member attached size =>
      intro mapping mapped
      obtain ⟨found, present, span⟩ := fitted mapping mapped
      by_cases same : place.device = mapping.device
      · rw [same, present] at attached
        cases attached
        have bound : mapping.device < bus.devices.size := (Array.getElem?_eq_some_iff.mp present).1
        exact ⟨after, by simp [same, bound], by rw [size, span]⟩
      · exact ⟨found, by simp [same, present], span⟩

end Fitted

/-- What becomes of an empty bus when memories are attached, mapped and written. -/
inductive Assembled : Bus → Prop
  | blank : Assembled {}
  | attached {bus : Bus} (size : Int) : Assembled bus → Assembled ((attachMemory size).left bus)
  | registered {bus : Bus} (first last : Int) (number : Nat) : Assembled bus →
      Assembled ((register first last number).left bus)
  | rewritten {bus after : Bus} : Assembled bus → bus.Rewritten after → Assembled after

namespace Assembled

variable {bus : Bus}

theorem memory (assembled : bus.Assembled) {number : Nat} {device : Device}
    (present : bus.devices[number]? = some device) : ∃ cells, device = .memory cells := by
  induction assembled with
  | blank => cases present
  | @attached bus size _ ih =>
      obtain same | same := bus.left_attachMemory size
      · rw [same] at present
        exact ih present
      · simp only [same, Array.getElem?_push] at present
        split at present
        · exact ⟨_, (Option.some.inj present).symm⟩
        · exact ih present
  | @registered bus first last number' _ ih =>
      obtain same | ⟨_, _, _, same⟩ := bus.left_register first last number'
      all_goals
        rw [same] at present
        exact ih present
  | rewritten _ written ih =>
      cases written with
      | kept => exact ih present
      | replaced =>
          simp only [Array.getElem?_setIfInBounds] at present
          split at present
          · split at present
            · exact ⟨_, (Option.some.inj present).symm⟩
            · cases present
          · exact ih present

theorem fitted (assembled : bus.Assembled) : bus.Fitted := by
  induction assembled with
  | blank =>
      intro mapping member
      cases member
  | @attached bus size _ ih =>
      obtain same | same := bus.left_attachMemory size
      · rw [same]
        exact ih
      · rw [same]
        exact ih.attached _
  | @registered bus first last number assembled ih =>
      obtain same | ⟨device, present, span, same⟩ := bus.left_register first last number
      · rw [same]
        exact ih
      · obtain ⟨cells, rfl⟩ := assembled.memory present
        rw [same]
        exact ih.registered present (span cells.size rfl)
  | rewritten _ written ih => exact ih.rewritten written

end Assembled

end Bus

end Chip8
