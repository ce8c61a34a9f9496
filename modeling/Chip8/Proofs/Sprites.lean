import Mathlib.Data.List.Nodup
import Mathlib.Tactic.IntervalCases
import Chip8.Proofs.Execution

/-!
Drawing a sprite, told by the set of points that it covers. No two bits of a sprite land on the same
point, so that flipping them one after another flips every covered point once, and a collision with the
half-drawn picture is one with the picture from before.
-/

namespace Chip8

namespace DrawPolicy

/-- Whether the pixel in a column and row of a sprite drawn at (x, y) lands on a point. -/
def Hits (policy : DrawPolicy) (x y column row : Nat) (point : Point) : Prop :=
  match policy with
  | wrap => point.x.val = (x + column) % 64 ∧ point.y.val = (y + row) % 32
  | clip => point.x.val = x % 64 + column ∧ point.y.val = y % 32 + row

variable {policy : DrawPolicy} {x y column column' row row' : Nat} {point : Point}

instance : Decidable (policy.Hits x y column row point) :=
  match policy with
  | wrap => inferInstanceAs (Decidable (_ ∧ _))
  | clip => inferInstanceAs (Decidable (_ ∧ _))

theorem place_eq_some_iff :
    policy.place x y column row = some point ↔ policy.Hits x y column row point := by
  obtain ⟨⟨px, hx⟩, ⟨py, hy⟩⟩ := point
  cases policy with
  | wrap =>
      simp only [place, Hits, Option.some.injEq, Point.mk.injEq, Fin.ext_iff, Fin.val_ofNat]
      omega
  | clip =>
      simp only [place, Hits]
      split
      · simp only [Option.some.injEq, Point.mk.injEq, Fin.mk.injEq]
        omega
      · simp only [reduceCtorEq, false_iff]
        omega

theorem Hits.column_unique (hits : policy.Hits x y column row point)
    (hits' : policy.Hits x y column' row' point) (inside : column < 64) (inside' : column' < 64) :
    column = column' := by
  cases policy with
  | wrap | clip =>
      simp only [Hits] at hits hits'
      omega

theorem Hits.row_unique (hits : policy.Hits x y column row point)
    (hits' : policy.Hits x y column' row' point) (inside : row < 32) (inside' : row' < 32) :
    row = row' := by
  cases policy with
  | wrap | clip =>
      simp only [Hits] at hits hits'
      omega

end DrawPolicy

section Points

variable {policy : DrawPolicy} {x y row : Nat} {bits : UInt8} {rows : List UInt8} {point : Point}

theorem mem_spriteRow :
    point ∈ (List.range 8).filterMap (fun column =>
        if spriteBit bits column then policy.place x y column row else none) ↔
      ∃ column, column < 8 ∧ spriteBit bits column = true ∧ policy.Hits x y column row point := by
  simp only [List.mem_filterMap, List.mem_range, Option.ite_none_right_eq_some,
    DrawPolicy.place_eq_some_iff]

theorem mem_spritePoints :
    point ∈ spritePoints policy x y rows ↔ ∃ row bits, rows[row]? = some bits ∧
      ∃ column, column < 8 ∧ spriteBit bits column = true ∧ policy.Hits x y column row point := by
  simp only [spritePoints, List.mem_flatMap, mem_spriteRow, List.mem_zipIdx_iff_getElem?, Prod.exists]
  constructor
  · rintro ⟨bits, row, covers⟩
    exact ⟨row, bits, covers⟩
  · rintro ⟨row, bits, covers⟩
    exact ⟨bits, row, covers⟩

theorem nodup_spritePoints (few : rows.length ≤ 32) : (spritePoints policy x y rows).Nodup := by
  refine List.nodup_flatMap.mpr ⟨?_, ?_⟩
  -- Two bits of one row are apart by their columns.
  · rintro ⟨bits, row⟩ _
    refine List.pairwise_filterMap.mpr (List.nodup_range.imp_of_mem ?_)
    intro column column' member member' differ point landed point' landed' same
    subst same
    simp only [Option.ite_none_right_eq_some, DrawPolicy.place_eq_some_iff] at landed landed'
    have bound := List.mem_range.mp member
    have bound' := List.mem_range.mp member'
    exact differ (landed.2.column_unique landed'.2 (by omega) (by omega))
  -- Bits of different rows are apart by their rows, even where the sprite wraps around.
  · have apart : rows.zipIdx.Pairwise fun first second => first.2 ≠ second.2 := by
      have numbers : (rows.zipIdx.map Prod.snd).Nodup := by
        rw [List.zipIdx_map_snd]
        exact List.nodup_range'
      exact List.pairwise_map.mp numbers
    refine apart.imp_of_mem ?_
    rintro ⟨bits, row⟩ ⟨bits', row'⟩ member member' differ point covers covers'
    obtain ⟨column, _, _, hits⟩ := mem_spriteRow.mp covers
    obtain ⟨column', _, _, hits'⟩ := mem_spriteRow.mp covers'
    have bound := List.snd_lt_add_of_mem_zipIdx member
    have bound' := List.snd_lt_add_of_mem_zipIdx member'
    exact differ (hits.row_unique hits' (by omega) (by omega))

end Points

namespace Display

variable {points : List Point}

/-- Where every point comes once, a collision is one with the picture from before. -/
theorem flipAll_collides (distinct : points.Nodup) (display : Display) :
    (display.flipAll points).2 = true ↔ ∃ point ∈ points, display.lit point = true := by
  induction points generalizing display with
  | nil => simp [flipAll]
  | cons first rest ih =>
      obtain ⟨absent, distinct⟩ := List.nodup_cons.mp distinct
      have same (point : Point) (member : point ∈ rest) :
          (display.flip first).lit point = display.lit point := by
        rw [lit_flip, if_neg]
        rintro rfl
        exact absent member
      simp only [flipAll, Bool.or_eq_true, ih distinct, List.mem_cons, exists_eq_or_imp]
      refine or_congr_right (exists_congr fun point => and_congr_right fun member => ?_)
      rw [same point member]

theorem lit_flipAll_of_nodup (distinct : points.Nodup) (display : Display) (point : Point) :
    (display.flipAll points).1.lit point =
      if point ∈ points then !display.lit point else display.lit point := by
  rw [lit_flipAll, distinct.count]
  split <;> simp

end Display

namespace Bus

theorem answer_of_peek {bus after : Bus} {address data : Int}
    (peeked : peek address bus = .ok data after) : bus.answer address = .ok data := by
  rw [peek_apply] at peeked
  split at peeked <;> cases peeked
  assumption

theorem block_of_peeks {bus : Bus} {address : Int} {count : Nat} {bytes : Nat → Int}
    (readable : ∀ offset < count, peek (address + offset) bus = .ok (bytes offset) bus) :
    bus.block address count =
      ((List.range count).map fun offset : Nat => Access.mk .read (address + offset) (bytes offset),
        .ok ((List.range count).map bytes)) := by
  induction count generalizing address bytes with
  | zero => rfl
  | succ count ih =>
      have first := answer_of_peek (readable 0 (by omega))
      have rest := @ih (address + 1) (fun offset => bytes (offset + 1)) (by
        intro offset inside
        have next := readable (offset + 1) (by omega)
        have following : address + (offset + 1 : Nat) = address + 1 + offset := by omega
        rwa [following] at next)
      have shifted (offset : Nat) : address + 1 + offset = address + (offset + 1 : Nat) := by omega
      rw [Int.natCast_zero, Int.add_zero] at first
      simp [block, first, rest, Except.map, List.range_succ_eq_map, Function.comp_def, shifted]

end Bus

/-- Whether a set bit of a sprite drawn at (x, y) lands on a point. The highest of the eight bits of a row
is the leftmost. -/
def DrawPolicy.Covers (policy : DrawPolicy) (x y height : Nat) (sprite : Nat → Int) (point : Point) :
    Prop :=
  ∃ row column : Nat, row < height ∧ column < 8 ∧ sprite row >>> (7 - column) % 2 = 1 ∧
    policy.Hits x y column row point

theorem spriteBit_ofInt (data : Int) {column : Nat} (inside : column < 8) :
    spriteBit (UInt8.ofNat (data % 256).toNat) column = true ↔ data >>> (7 - column) % 2 = 1 := by
  rw [spriteBit, UInt8.toNat_ofNat', Nat.testBit_eq_decide_div_mod_eq, decide_eq_true_eq,
    Int.shiftRight_eq_div_pow]
  interval_cases column <;> simp <;> omega

theorem mem_spritePoints_iff_covers {policy : DrawPolicy} {x y height : Nat} {sprite : Nat → Int}
    {point : Point} :
    point ∈ spritePoints policy x y
        (((List.range height).map sprite).map fun data => UInt8.ofNat (data % 256).toNat) ↔
      policy.Covers x y height sprite point := by
  rw [mem_spritePoints, DrawPolicy.Covers]
  constructor
  · rintro ⟨row, bits, present, column, inside, set, hits⟩
    simp only [List.getElem?_map, Option.map_eq_some_iff] at present
    obtain ⟨_, ⟨number, known, rfl⟩, rfl⟩ := present
    obtain ⟨low, rfl⟩ := List.getElem?_eq_some_iff.mp known
    rw [List.length_range] at low
    rw [List.getElem_range, spriteBit_ofInt _ inside] at set
    exact ⟨row, column, low, inside, set, hits⟩
  · rintro ⟨row, column, low, inside, set, hits⟩
    refine ⟨row, _, ?_, column, inside, (spriteBit_ofInt (sprite row) inside).mpr set, hits⟩
    simp [low]

namespace Machine

/-- What drawing does: it flips the covered points, sets VF to whether one of them was lit, and notes what
it has read. -/
structure Draws (before : Machine) (covered : Point → Prop) (reads : List Access) (after : Machine) :
    Prop where
  flipped : ∀ point, covered point → after.state.display.lit point = !before.state.display.lit point
  uncovered : ∀ point, ¬ covered point →
    after.state.display.lit point = before.state.display.lit point
  collision : (∃ point, covered point ∧ before.state.display.lit point = true) →
    after.state.value Register.flag = 1
  noCollision : (¬ ∃ point, covered point ∧ before.state.display.lit point = true) →
    after.state.value Register.flag = 0
  registers : ∀ register, register ≠ Register.flag →
    after.state.value register = before.state.value register
  rest : after = { before with
    state := { before.state with v := after.state.v, display := after.state.display }
    bus := before.bus.noting reads }

theorem draws_drawn (machine : Machine) (x y : Register) {height : Nat} (low : height ≤ 32)
    (sprite : Nat → Int) (reads : List Access) :
    machine.Draws
      (machine.drawPolicy.Covers (machine.state.value x).toNat (machine.state.value y).toNat height sprite)
      reads
      { machine with
        state := machine.state.drawn machine.drawPolicy x y ((List.range height).map sprite)
        bus := machine.bus.noting reads } := by
  let points := spritePoints machine.drawPolicy (machine.state.value x).toNat
    (machine.state.value y).toNat
    (((List.range height).map sprite).map fun data => UInt8.ofNat (data % 256).toNat)
  have distinct : points.Nodup := nodup_spritePoints (by simpa using low)
  have collides := Display.flipAll_collides distinct machine.state.display
  have lit := Display.lit_flipAll_of_nodup distinct machine.state.display
  have flag (register : Register) :
      (machine.state.drawn machine.drawPolicy x y ((List.range height).map sprite)).value register =
        if register = Register.flag then
          if (machine.state.display.flipAll points).2 then 1 else 0
        else machine.state.value register :=
    State.value_withValue _ _ _ _
  have covers (point : Point) : point ∈ points ↔ machine.drawPolicy.Covers
      (machine.state.value x).toNat (machine.state.value y).toNat height sprite point :=
    mem_spritePoints_iff_covers
  simp only [covers] at collides
  constructor
  case flipped =>
    intro point covered
    exact (lit point).trans (if_pos ((covers point).mpr covered))
  case uncovered =>
    intro point uncovered
    exact (lit point).trans (if_neg fun member => uncovered ((covers point).mp member))
  case collision =>
    intro met
    dsimp only
    rw [flag, if_pos rfl, if_pos (collides.mpr met)]
  case noCollision =>
    intro missed
    dsimp only
    rw [flag, if_pos rfl, if_neg fun met => missed (collides.mp met)]
  case registers =>
    intro register other
    dsimp only
    rw [flag, if_neg other]
  case rest => rfl

/-- A word that draws, whose sprite can be read, flips the points that the sprite covers, with the
coordinates from before also where one of them is in VF, and does nothing else but set VF. -/
theorem execute_draws_sprite (machine : Machine) (x y : Register) (rows : Fin 16) (sprite : Nat → Int)
    (readable : ∀ row < rows.val,
      Bus.peek (machine.state.i.toNat + row) machine.bus = .ok (sprite row) machine.bus) :
    let word : Int := 0xD000 + 0x100 * x.val + 0x10 * y.val + rows.val
    ∃ after, execute word machine = .ok (Operation.ofInstruction word (.draw x y rows)) after ∧
      machine.Draws
        (machine.drawPolicy.Covers (machine.state.value x).toNat (machine.state.value y).toNat rows.val
          sprite)
        ((List.range rows.val).map fun row : Nat =>
          Access.mk .read (machine.state.i.toNat + row) (sprite row))
        after := by
  intro word
  have encodes : (Instruction.draw x y rows).Encodes word := rfl
  rw [execute_encodes encodes, Instruction.execute_draw, Bus.block_of_peeks readable]
  exact ⟨_, rfl, machine.draws_drawn x y (by omega) sprite _⟩

/-- A sprite of two rows at the lower right corner, with VF as a coordinate and one pixel lit. -/
def cornered : Machine where
  state := (do State.writeRegister 15 62; State.writeRegister 0 31; discard (State.flipPixel 1 31)).left {}
  bus := { devices := #[.memory #[0xF0, 0x0F]], mappings := [Mapping.mk 0 1 0] }
  generator := ⟨Vector.replicate 624 0, 0⟩
  drawPolicy := .wrap
  startAddress := 0x200
  stackLimit := 16
  cycleCount := 0

theorem execute_draws_sprite_around_corner :
    let sprite : Nat → Int := fun row => if row = 0 then 0xF0 else 0x0F
    (∀ row : Nat, row < 2 →
        Bus.peek (cornered.state.i.toNat + row) cornered.bus = .ok (sprite row) cornered.bus) ∧
      ∃ after, execute 0xDF02 cornered =
          .ok (Operation.ofInstruction 0xDF02 (.draw Register.flag Register.offset 2)) after ∧
        after.state.value Register.flag = 1 ∧
        after.state.display.lit ⟨62, 31⟩ = true ∧ after.state.display.lit ⟨1, 31⟩ = false ∧
        after.state.display.lit ⟨5, 0⟩ = true := by
  intro sprite
  have readable : ∀ row : Nat, row < 2 →
      Bus.peek (cornered.state.i.toNat + row) cornered.bus = .ok (sprite row) cornered.bus := by
    intro row inside
    obtain rfl | rfl : row = 0 ∨ row = 1 := by omega
    · rfl
    · rfl
  have coordinates : (cornered.state.value Register.flag).toNat = 62 ∧
      (cornered.state.value Register.offset).toNat = 31 := by decide
  have before : cornered.state.display.lit ⟨62, 31⟩ = false ∧
      cornered.state.display.lit ⟨1, 31⟩ = true ∧ cornered.state.display.lit ⟨5, 0⟩ = false := by
    decide +kernel
  obtain ⟨after, ran, draws⟩ :=
    execute_draws_sprite cornered Register.flag Register.offset 2 sprite readable
  rw [coordinates.1, coordinates.2] at draws
  refine ⟨readable, after, ran, ?_, ?_, ?_, ?_⟩
  · exact draws.collision ⟨⟨1, 31⟩, ⟨0, 3, by decide, by decide, by decide, by decide⟩, before.2.1⟩
  · rw [draws.flipped ⟨62, 31⟩ ⟨0, 0, by decide, by decide, by decide, by decide⟩, before.1]
    rfl
  · rw [draws.flipped ⟨1, 31⟩ ⟨0, 3, by decide, by decide, by decide, by decide⟩, before.2.1]
    rfl
  · rw [draws.flipped ⟨5, 0⟩ ⟨1, 7, by decide, by decide, by decide, by decide⟩, before.2.2]
    rfl

end Machine

end Chip8
