import Chip8.Image
import Chip8.Proofs.Memory

/-!
Loading a block. Where no address lies in two ranges, a block is loaded as a whole or not at all, and what
a load leaves in memory is what writing the bytes one by one leaves there. A program image is loaded in the
same way, if the room behind its offset is large enough.
-/

namespace Chip8

theorem Device.writeBlock_problem {device : Device} {offset : Int} {block : List UInt8}
    {problem : Problem} (failed : device.writeBlock offset block = .error problem) :
    ∃ overreach, problem = .fault (.outOfBounds overreach) := by
  cases device with
  | tally writes => cases failed
  | memory cells =>
      rw [writeBlock] at failed
      split at failed
      · cases failed
        exact ⟨_, rfl⟩
      · cases failed

namespace Bus

/-- No address lies in two ranges. -/
def Disjoint (bus : Bus) : Prop :=
  bus.mappings.Pairwise fun one other => one.last < other.first ∨ other.last < one.first

instance (bus : Bus) : Decidable bus.Disjoint :=
  inferInstanceAs (Decidable (bus.mappings.Pairwise fun one other =>
    one.last < other.first ∨ other.last < one.first))

def writeEach (address : Int) : List UInt8 → Action Bus Unit
  | [] => pure ()
  | byte :: rest => do
      write address byte.toNat
      writeEach (address + 1) rest

/-- How a transfer of a block ends that is all or nothing: the bus is untouched, or it is as if the bytes
had been written one by one, except that its log tells nothing. -/
inductive AllOrNothing {α : Type} (bus : Bus) (address : Int) (block : List UInt8) (value : α) :
    EStateM.Result Problem Bus α → Prop
  | nothing (problem : Problem) : AllOrNothing bus address block value (.error problem bus)
  | all {each : Bus} : writeEach address block bus = .ok () each →
      AllOrNothing bus address block value (.ok value { each with activity := bus.activity })

theorem Disjoint.find?_eq {bus : Bus} (disjoint : bus.Disjoint) {mapping : Mapping}
    (member : mapping ∈ bus.mappings) {address : Int} (low : mapping.first ≤ address)
    (high : address ≤ mapping.last) :
    bus.mappings.find? (·.covers address) = some mapping := by
  rw [Disjoint] at disjoint
  generalize bus.mappings = mappings at disjoint member ⊢
  induction mappings with
  | nil => cases member
  | cons head rest ih =>
      rw [List.pairwise_cons] at disjoint
      rcases List.mem_cons.mp member with rfl | later
      · simp [Mapping.covers, low, high]
      · have apart := disjoint.1 mapping later
        have uncovered : head.covers address = false := by
          simp only [Mapping.covers, Bool.and_eq_false_iff, decide_eq_false_iff_not]
          omega
        rw [List.find?_cons, uncovered]
        exact ih disjoint.2 later

/-- Bytes that are written one by one inside of one range end up where the range's memory takes them as a
block. -/
theorem writeEach_range {bus : Bus} {mapping : Mapping} {cells : Array UInt8} {address : Int}
    {block : List UInt8}
    (resolves : ∀ place, mapping.first ≤ place → place ≤ mapping.last →
      bus.mappings.find? (·.covers place) = some mapping)
    (attached : bus.devices[mapping.device]? = some (.memory cells))
    (span : (cells.size : Int) = mapping.last - mapping.first + 1)
    (low : mapping.first ≤ address) (high : address + block.length - 1 ≤ mapping.last) :
    ∃ log, writeEach address block bus =
      .ok () { bus with
        devices := bus.devices.setIfInBounds mapping.device
          (.memory (Device.fill cells (address - mapping.first).toNat block))
        activity := log } := by
  induction block generalizing bus cells address with
  | nil =>
      refine ⟨bus.activity, ?_⟩
      have same : bus.devices.setIfInBounds mapping.device (.memory cells) = bus.devices := by
        apply Array.ext_getElem?
        intro place
        rw [Array.getElem?_setIfInBounds]
        split
        · rename_i here
          subst here
          rw [attached]
          simp [(Array.getElem?_eq_some_iff.mp attached).1]
        · rfl
      rw [Device.fill, same]
      rfl
  | cons byte rest ih =>
      rw [List.length_cons] at high
      have bound := (Array.getElem?_eq_some_iff.mp attached).1
      have inside : 0 ≤ address - mapping.first ∧ address - mapping.first < cells.size := by omega
      have isByte : (0 : Int) ≤ byte.toNat ∧ (byte.toNat : Int) ≤ 0xFF := by
        have small := byte.toNat_lt
        omega
      have located : bus.locate? address = some (mapping, .memory cells) := by
        simp [locate?, resolves address low (by omega), attached]
      let changed := cells.setIfInBounds (address - mapping.first).toNat byte
      let next : Bus := { bus with
        devices := bus.devices.setIfInBounds mapping.device (.memory changed)
        activity := bus.activity ++ [Access.mk .write address byte.toNat] }
      have written : write address byte.toNat bus = .ok () next := by
        rw [write_apply, located]
        simp only [Device.write, if_pos inside, if_pos isByte, UInt8.ofNat_toNat, Int.toNat_natCast]
        rfl
      have present : next.devices[mapping.device]? = some (.memory changed) := by
        simp [next, bound]
      have size : (changed.size : Int) = mapping.last - mapping.first + 1 := by
        rw [Array.size_setIfInBounds, span]
      obtain ⟨log, ran⟩ := @ih next changed (address + 1) resolves present size (by omega) (by omega)
      refine ⟨log, ?_⟩
      have following : (address + 1 - mapping.first).toNat = (address - mapping.first).toNat + 1 := by
        omega
      rw [writeEach, Action.bind_apply, written]
      dsimp only
      rw [ran, following, Device.fill]
      simp [next, changed]

/-- All of a block lies in one range. -/
def Holds (bus : Bus) (address : Int) (count : Nat) : Prop :=
  ∃ mapping ∈ bus.mappings, mapping.first ≤ address ∧ address + count - 1 ≤ mapping.last

instance (bus : Bus) (address : Int) (count : Nat) : Decidable (bus.Holds address count) :=
  inferInstanceAs (Decidable (∃ mapping ∈ bus.mappings,
    mapping.first ≤ address ∧ address + count - 1 ≤ mapping.last))

theorem load_nil (address : Int) (bus : Bus) : load address [] bus = .ok () bus := rfl

theorem load_problem {address : Int} {block : List UInt8} {bus after : Bus} {problem : Problem}
    (failed : load address block bus = .error problem after) :
    ∃ overreach, problem = .fault (.outOfBounds overreach) := by
  rw [load_apply] at failed
  split at failed
  · cases failed
  · split at failed
    · cases failed
      exact ⟨_, rfl⟩
    · split at failed
      · split at failed <;> rename_i result
        · cases failed
          exact Device.writeBlock_problem result
        · cases failed
      · cases failed
        exact ⟨_, rfl⟩

theorem loadImage_apply (image : List UInt8) (offset : Int) (bus : Bus) :
    loadImage image offset bus =
      if offset < 0 ∨ bus.size < offset then
        .error (.misuse (.loadOffsetOutsideMemory offset bus.size)) bus
      else if bus.size < offset + image.length then
        .error (.misuse (.programTooLarge image.length offset (bus.size - offset))) bus
      else
        match load offset image bus with
        | .ok _ after => .ok (LoadedImage.mk image.length offset) after
        | .error problem after => .error problem after := by
  have outside : (offset < 0 ∨ bus.size - offset < 0) ↔ (offset < 0 ∨ bus.size < offset) := by omega
  have tooLarge : bus.size - offset < image.length ↔ bus.size < offset + image.length := by omega
  simp only [loadImage, Action.bind_apply, Action.get_apply, outside, tooLarge, Action.ite_apply,
    Action.misuse_apply, Action.pure_apply]
  cases load offset image bus <;> rfl

namespace Fitted

variable {bus : Bus} (fitted : bus.Fitted)
include fitted

theorem size_single {size : Int} {number : Nat}
    (single : bus.mappings = [Mapping.mk 0 (size - 1) number]) : bus.size = size := by
  obtain ⟨cells, _, span⟩ := fitted (Mapping.mk 0 (size - 1) number) (single ▸ List.mem_singleton_self _)
  rw [Bus.size, single]
  simp only [List.foldl_cons, List.foldl_nil] at span ⊢
  omega

variable (disjoint : bus.Disjoint)
include disjoint

theorem load_cases (address : Int) {block : List UInt8} (filled : block ≠ []) :
    (bus.Holds address block.length ∧ ∃ each, writeEach address block bus = .ok () each ∧
      load address block bus = .ok () { each with activity := bus.activity }) ∨
    (¬ bus.Holds address block.length ∧
      ∃ overreach, load address block bus = .error (.fault (.outOfBounds overreach)) bus) := by
  have positive : 0 < block.length := List.length_pos_iff.mpr filled
  rw [load_apply, if_neg filled]
  cases fitted.place address with
  | nowhere found =>
      have located : bus.locate? address = none := by simp [locate?, found]
      rw [located]
      refine .inr ⟨?_, _, rfl⟩
      rintro ⟨mapping, member, low, high⟩
      rw [disjoint.find?_eq member low (by omega)] at found
      cases found
  | cell mapping cells found _ attached low inside =>
      have member := List.mem_of_find?_eq_some found
      have located : bus.locate? address = some (mapping, .memory cells) := by
        simp [locate?, found, attached]
      obtain ⟨content, present, span⟩ := fitted mapping member
      rw [attached, Option.some.injEq, Device.memory.injEq] at present
      subst present
      rw [located]
      dsimp only
      by_cases high : address + block.length - 1 ≤ mapping.last
      · have fits : ¬ (address - mapping.first < 0 ∨
            (cells.size : Int) < address - mapping.first + block.length) := by omega
        obtain ⟨log, ran⟩ := writeEach_range (fun _ => disjoint.find?_eq member) attached span low high
        rw [if_pos high, Device.writeBlock, if_neg fits]
        exact .inl ⟨⟨mapping, member, low, high⟩, _, ran, rfl⟩
      · rw [if_neg high]
        refine .inr ⟨?_, _, rfl⟩
        rintro ⟨other, otherMember, otherLow, otherHigh⟩
        rw [disjoint.find?_eq otherMember otherLow (by omega)] at found
        cases found
        exact high otherHigh

theorem load_allOrNothing (address : Int) (block : List UInt8) :
    AllOrNothing bus address block () (load address block bus) := by
  by_cases empty : block = []
  · rw [empty, load_nil]
    exact .all rfl
  · obtain ⟨_, each, ran, loaded⟩ | ⟨_, overreach, refused⟩ := fitted.load_cases disjoint address empty
    · rw [loaded]
      exact .all ran
    · rw [refused]
      exact .nothing _

theorem loadImage_allOrNothing (image : List UInt8) (offset : Int) :
    AllOrNothing bus offset image (LoadedImage.mk image.length offset) (loadImage image offset bus) := by
  rw [loadImage_apply]
  split
  · exact .nothing _
  · split
    · exact .nothing _
    · have transferred := fitted.load_allOrNothing disjoint offset image
      generalize load offset image bus = result at transferred
      cases transferred with
      | nothing problem => exact .nothing problem
      | all written => exact .all written

/-- On one memory an image is loaded as soon as there is room for it. -/
theorem loadImage_single {size : Int} {number : Nat}
    (single : bus.mappings = [Mapping.mk 0 (size - 1) number]) (image : List UInt8) {offset : Int}
    (low : 0 ≤ offset) (high : offset + image.length ≤ size) :
    ∃ after, loadImage image offset bus = .ok (LoadedImage.mk image.length offset) after := by
  have capacity : bus.size = size := fitted.size_single single
  rw [loadImage_apply, capacity, if_neg (by omega), if_neg (by omega)]
  by_cases empty : image = []
  · exact ⟨bus, by rw [empty, load_nil]⟩
  · have holds : bus.Holds offset image.length := by
      refine ⟨_, single ▸ List.mem_singleton.mpr rfl, low, ?_⟩
      dsimp only
      omega
    obtain ⟨_, each, _, loaded⟩ | ⟨lacking, _⟩ := fitted.load_cases disjoint offset empty
    · exact ⟨_, by rw [loaded]⟩
    · exact absurd holds lacking

end Fitted

/-- Loading is all or nothing, and equals writing byte by byte. A block is loaded if one range holds it. On
one memory an image is loaded if there is room for it, and otherwise the reason says whether already the
offset was wrong. -/
theorem loads_all_or_nothing {bus : Bus} (assembled : bus.Assembled) (disjoint : bus.Disjoint)
    (address : Int) (block : List UInt8) :
    AllOrNothing bus address block () (load address block bus) ∧
    (∀ problem after, load address block bus = .error problem after →
      ∃ overreach, problem = .fault (.outOfBounds overreach)) ∧
    (block ≠ [] →
      ((∃ after, load address block bus = .ok () after) ↔ bus.Holds address block.length)) ∧
    AllOrNothing bus address block (LoadedImage.mk block.length address)
      (loadImage block address bus) ∧
    ∀ size number, bus.mappings = [Mapping.mk 0 (size - 1) number] →
      ((∃ loaded after, loadImage block address bus = .ok loaded after) ↔
        0 ≤ address ∧ address + block.length ≤ size) ∧
      (loadImage block address bus =
          .error (.misuse (.programTooLarge block.length address (size - address))) bus ↔
        (0 ≤ address ∧ address ≤ size) ∧ size < address + block.length) ∧
      (loadImage block address bus = .error (.misuse (.loadOffsetOutsideMemory address size)) bus ↔
        address < 0 ∨ size < address) := by
  have fitted := assembled.fitted
  refine ⟨fitted.load_allOrNothing disjoint address block, fun _ _ => load_problem, ?_,
    fitted.loadImage_allOrNothing disjoint block address, ?_⟩
  · intro filled
    obtain ⟨holds, each, _, loaded⟩ | ⟨lacking, overreach, refused⟩ :=
      fitted.load_cases disjoint address filled
    · exact ⟨fun _ => holds, fun _ => ⟨_, loaded⟩⟩
    · constructor
      · rintro ⟨after, loaded⟩
        rw [refused] at loaded
        cases loaded
      · intro holds
        exact absurd holds lacking
  · intro size number single
    have capacity : bus.size = size := fitted.size_single single
    -- The three conditions exclude each other and leave no case out, so each decides the result.
    by_cases outside : address < 0 ∨ size < address
    · have refused : loadImage block address bus =
          .error (.misuse (.loadOffsetOutsideMemory address size)) bus := by
        rw [loadImage_apply, capacity, if_pos outside]
      rw [refused]
      refine ⟨?_, ?_, iff_of_true rfl outside⟩
      · simp only [reduceCtorEq, exists_false, false_iff]
        omega
      · simp only [EStateM.Result.error.injEq, Problem.misuse.injEq, reduceCtorEq, false_and, false_iff]
        omega
    · by_cases large : size < address + block.length
      · have refused : loadImage block address bus =
            .error (.misuse (.programTooLarge block.length address (size - address))) bus := by
          rw [loadImage_apply, capacity, if_neg outside, if_pos large]
        rw [refused]
        refine ⟨?_, iff_of_true rfl (by omega), ?_⟩
        · simp only [reduceCtorEq, exists_false, false_iff]
          omega
        · simp only [EStateM.Result.error.injEq, Problem.misuse.injEq, reduceCtorEq, false_and, false_iff]
          exact outside
      · obtain ⟨after, loaded⟩ :=
          fitted.loadImage_single disjoint single block (by omega) (Int.not_lt.mp large)
        rw [loaded]
        refine ⟨iff_of_true ⟨_, _, rfl⟩ (by omega), ?_, ?_⟩
        · simp only [reduceCtorEq, false_iff]
          omega
        · simp only [reduceCtorEq, false_iff]
          exact outside

/-- One memory of four bytes. -/
def lone : Bus := (register 0 3 0).left ((attachMemory 4).left {})

/-- A second memory of two bytes behind a gap. -/
def gapped : Bus := (register 8 9 1).left ((attachMemory 2).left lone)

theorem loads_all_or_nothing_gapped :
    gapped.Assembled ∧ gapped.Disjoint ∧
      (∃ after, load 2 [7, 8] gapped = .ok () after) ∧
      (¬ ∃ after, load 3 [7, 8] gapped = .ok () after) ∧
      AllOrNothing gapped 3 [7, 8] (LoadedImage.mk 2 3) (loadImage [7, 8] 3 gapped) ∧
      lone.Assembled ∧ lone.Disjoint ∧ lone.mappings = [Mapping.mk 0 (4 - 1) 0] ∧
      (∃ loaded after, loadImage [7, 8] 2 lone = .ok loaded after) ∧
      loadImage [] 5 lone = .error (.misuse (.loadOffsetOutsideMemory 5 4)) lone := by
  have small : lone.Assembled := .registered 0 3 0 (.attached 4 .blank)
  have large : gapped.Assembled := .registered 8 9 1 (.attached 2 small)
  have apart : gapped.Disjoint := by decide
  have alone : lone.Disjoint := by decide
  have single : lone.mappings = [Mapping.mk 0 (4 - 1) 0] := by decide
  obtain ⟨_, _, whole, _, _⟩ := loads_all_or_nothing large apart 2 [7, 8]
  obtain ⟨_, _, cut, image, _⟩ := loads_all_or_nothing large apart 3 [7, 8]
  obtain ⟨_, _, _, _, room⟩ := loads_all_or_nothing small alone 2 [7, 8]
  obtain ⟨_, _, _, _, beyond⟩ := loads_all_or_nothing small alone 5 []
  refine ⟨large, apart, ?_, ?_, image, small, alone, single, ?_, ?_⟩
  · exact (whole (by decide)).mpr (by decide)
  · exact fun loaded => absurd ((cut (by decide)).mp loaded) (by decide)
  · exact (room 4 0 single).1.mpr (by decide)
  · exact (beyond 4 0 single).2.2.mpr (by decide)

end Bus

end Chip8
