import Chip8.Proofs.BusReads

/-!
Changes of the bus. Memories are attached and mapped, and a memory keeps its size whatever is written
to it: writing leaves at most one memory replaced by another of its size, so the standard bus stays
standard, with other cells.
-/

namespace Chip8

namespace Device

theorem size_fill (cells : Array UInt8) (start : Nat) (block : List UInt8) :
    (fill cells start block).size = cells.size := by
  induction block generalizing cells start with
  | nil => rfl
  | cons byte rest ih => rw [fill, ih, Array.size_setIfInBounds]

theorem write_memory {cells : Array UInt8} {offset data : Int} {device : Device}
    (written : (memory cells).write offset data = .ok device) :
    ∃ after, device = memory after ∧ after.size = cells.size := by
  simp only [write] at written
  split at written
  · split at written <;> cases written
    exact ⟨_, rfl, Array.size_setIfInBounds ..⟩
  · cases written

theorem writeBlock_memory {cells : Array UInt8} {offset : Int} {block : List UInt8}
    {device : Device} (written : (memory cells).writeBlock offset block = .ok device) :
    ∃ after, device = memory after ∧ after.size = cells.size := by
  simp only [writeBlock] at written
  split at written <;> cases written
  exact ⟨_, rfl, size_fill ..⟩

theorem size_blankMemory (size : Nat) : (blankMemory size).size? = some size := by
  simp [blankMemory, size?]

end Device

namespace Bus

theorem attachMemory_apply (size : Nat) (positive : 0 < size) (bus : Bus) :
    attachMemory size bus =
      .ok bus.devices.size { bus with devices := bus.devices.push (.blankMemory size) } := by
  have above : ¬ (size : Int) ≤ 0 := by omega
  rw [attachMemory, if_neg above]
  rfl

theorem register_memory {bus : Bus} {first last : Int} {number size : Nat}
    (order : 0 ≤ first ∧ first ≤ last)
    (attached : bus.devices[number]? = some (.blankMemory size))
    (span : (size : Int) = last - first + 1) :
    register first last number bus =
      .ok () { bus with mappings := bus.mappings ++ [Mapping.mk first last number] } := by
  simp only [register, if_pos order, Action.bind_apply, Action.get_apply, attached,
    Device.size_blankMemory, if_pos span, register.map, Action.modify_apply]

theorem write_apply (address data : Int) (bus : Bus) :
    write address data bus =
      match bus.locate? address with
      | none => .error (.fault (.outOfBounds (.unmapped address))) bus
      | some (mapping, device) =>
          match device.write (address - mapping.first) data with
          | .error problem => .error problem bus
          | .ok written =>
              .ok () (noting { bus with devices := bus.devices.setIfInBounds mapping.device written }
                [Access.mk .write address data]) := by
  cases found : bus.locate? address with
  | none => simp [write, resolve, found]
  | some place =>
      cases result : place.2.write (address - place.1.first) data <;>
        simp [write, resolve, found, result, replace, note, noting]

theorem load_apply (address : Int) (block : List UInt8) (bus : Bus) :
    load address block bus =
      if block = [] then .ok () bus
      else
        match bus.locate? address with
        | none => .error (.fault (.outOfBounds (.unmapped address))) bus
        | some (mapping, device) =>
            if address + block.length - 1 ≤ mapping.last then
              match device.writeBlock (address - mapping.first) block with
              | .error problem => .error problem bus
              | .ok written =>
                  .ok () { bus with devices := bus.devices.setIfInBounds mapping.device written }
            else .error (.fault (.outOfBounds (.range address block.length mapping.last))) bus := by
  by_cases empty : block = []
  · rw [if_pos empty, empty]
    rfl
  · have filled : ¬ block.isEmpty = true := by simp [empty]
    rw [if_neg empty, load, if_neg filled]
    cases found : bus.locate? address with
    | none => simp only [resolve, Action.bind_apply, Action.get_apply, found, Action.fault_apply]
    | some place =>
        simp only [resolve, Action.bind_apply, Action.get_apply, found, Action.pure_apply,
          Action.ite_apply, Action.ofExcept_apply, replace, Action.modify_apply, Action.fault_apply]
        cases place.2.writeBlock (address - place.1.first) block <;> rfl

/-- What writing leaves behind on a bus of memories: the bus itself, or another memory of the same size
in the place of a mapped one. -/
inductive Rewritten (bus : Bus) : Bus → Prop
  | kept : Rewritten bus bus
  | replaced {mapping : Mapping} {cells after : Array UInt8} (log : List Access) :
      mapping ∈ bus.mappings → bus.devices[mapping.device]? = some (.memory cells) →
      after.size = cells.size →
      Rewritten bus { bus with
        devices := bus.devices.setIfInBounds mapping.device (.memory after), activity := log }

theorem MemoryOnly.rewritten {bus after : Bus} (memories : bus.MemoryOnly)
    (written : bus.Rewritten after) : after.MemoryOnly := by
  cases written with
  | kept => exact memories
  | @replaced place cells written log member attached size =>
      intro mapping mapped device present
      rw [Array.getElem?_setIfInBounds] at present
      split at present
      · split at present
        · exact ⟨written, (Option.some.inj present).symm⟩
        · cases present
      · exact memories mapping mapped device present

theorem MemoryOnly.rewritten_write {bus : Bus} (memories : bus.MemoryOnly) (address data : Int) :
    bus.Rewritten ((write address data).left bus) := by
  simp only [Action.left, write_apply]
  cases found : bus.locate? address with
  | none => exact .kept
  | some place =>
      obtain ⟨mapping, device⟩ := place
      obtain ⟨covering, attached⟩ := find?_of_locate? found
      have member := List.mem_of_find?_eq_some covering
      obtain ⟨cells, rfl⟩ := memories mapping member device attached
      cases result : (Device.memory cells).write (address - mapping.first) data with
      | error problem =>
          simp only [result]
          exact .kept
      | ok written =>
          obtain ⟨after, rfl, size⟩ := Device.write_memory result
          simp only [result]
          exact .replaced _ member attached size

theorem MemoryOnly.rewritten_load {bus : Bus} (memories : bus.MemoryOnly) (address : Int)
    (block : List UInt8) : bus.Rewritten ((load address block).left bus) := by
  simp only [Action.left, load_apply]
  by_cases empty : block = []
  · rw [if_pos empty]
    exact .kept
  · rw [if_neg empty]
    cases found : bus.locate? address with
    | none => exact .kept
    | some place =>
        obtain ⟨mapping, device⟩ := place
        obtain ⟨covering, attached⟩ := find?_of_locate? found
        have member := List.mem_of_find?_eq_some covering
        obtain ⟨cells, rfl⟩ := memories mapping member device attached
        dsimp only
        by_cases inside : address + block.length - 1 ≤ mapping.last
        · rw [if_pos inside]
          cases result : (Device.memory cells).writeBlock (address - mapping.first) block with
          | error problem => exact .kept
          | ok written =>
              obtain ⟨after, rfl, size⟩ := Device.writeBlock_memory result
              exact .replaced bus.activity member attached size
        · rw [if_neg inside]
          exact .kept

namespace IsStandard

variable {bus after : Bus} {cells : Vector UInt8 4096}

theorem rewritten (standard : bus.IsStandard cells) (written : bus.Rewritten after) :
    ∃ cells, after.IsStandard cells := by
  cases written with
  | kept => exact ⟨cells, standard⟩
  | @replaced mapping found after log member attached size =>
      rw [standard.mappings, List.mem_singleton] at member
      subst member
      simp only [standard.devices, List.getElem?_toArray, List.getElem?_cons_zero,
        Option.some.injEq, Device.memory.injEq] at attached
      subst attached
      refine ⟨⟨after, size.trans cells.size_toArray⟩, ?_, standard.mappings⟩
      simp [standard.devices]

end IsStandard

end Bus

end Chip8
