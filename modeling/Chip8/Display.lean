/-!
The display: 64 by 32 pixels, lit or dark, stored row by row. Drawing flips single pixels; a draw
policy says where the pixels of a sprite land when it reaches past the edge.
-/

namespace Chip8

/-- The pixels row by row: the point (x, y) is number `y * 64 + x`. -/
structure Display where
  pixels : Vector Bool 2048
  deriving DecidableEq

/-- A point on the display. -/
structure Point where
  x : Fin 64
  y : Fin 32
  deriving DecidableEq, Repr

/-- The number of a point's pixel. -/
def Point.number (point : Point) : Fin 2048 :=
  ⟨point.y * 64 + point.x, by omega⟩

theorem Point.number_injective {first second : Point} (same : first.number = second.number) :
    first = second := by
  obtain ⟨⟨x, hx⟩, ⟨y, hy⟩⟩ := first
  obtain ⟨⟨x', hx'⟩, ⟨y', hy'⟩⟩ := second
  simp only [Point.number, Fin.mk.injEq] at same
  simp only [Point.mk.injEq, Fin.mk.injEq]
  omega

namespace Display

/-- All pixels dark. -/
def blank : Display := ⟨Vector.replicate 2048 false⟩

def lit (display : Display) (point : Point) : Bool := display.pixels[point.number]

/-- Flips one pixel. -/
def flip (display : Display) (point : Point) : Display :=
  ⟨display.pixels.set point.number (!display.lit point)⟩

/-- Flips points in order, and says whether any of them was lit when its turn came. -/
def flipAll (display : Display) : List Point → Display × Bool
  | [] => (display, false)
  | point :: rest =>
      let (after, collided) := (display.flip point).flipAll rest
      (after, display.lit point || collided)

theorem lit_blank (point : Point) : blank.lit point = false := by
  simp [blank, lit]

theorem lit_flip (display : Display) (flipped point : Point) :
    (display.flip flipped).lit point =
      if point = flipped then !display.lit point else display.lit point := by
  by_cases same : point = flipped
  · subst same
    simp [flip, lit]
  · have apart : (flipped.number : Nat) ≠ point.number := fun equal =>
      same (Point.number_injective (Fin.ext equal)).symm
    simp [flip, lit, same, apart]

/-- A pixel changes if its point is flipped an odd number of times. -/
theorem lit_flipAll (display : Display) (points : List Point) (point : Point) :
    (display.flipAll points).1.lit point = (display.lit point ^^ (points.count point % 2 == 1)) := by
  induction points generalizing display with
  | nil => simp [flipAll]
  | cons first rest ih =>
      simp only [flipAll, ih, lit_flip, List.count_cons]
      by_cases same : point = first
      · subst same
        simp only [↓reduceIte, BEq.rfl]
        rcases Nat.mod_two_eq_zero_or_one (List.count point rest) with even | odd
        · simp [even, Nat.add_mod]
        · simp [odd, Nat.add_mod]
      · have other : ¬ first = point := fun equal => same equal.symm
        simp [same, other]

/-- One byte per pixel, 1 for lit and 0 for dark. -/
def bytes (display : Display) : List UInt8 :=
  display.pixels.toList.map fun pixel => if pixel then 1 else 0

theorem bytes_pixels (display : Display) :
    display.bytes.length = 2048 ∧ ∀ byte ∈ display.bytes, byte = 0 ∨ byte = 1 := by
  refine ⟨by simp [bytes], ?_⟩
  intro byte shown
  obtain ⟨pixel, _, rfl⟩ := List.mem_map.mp shown
  cases pixel with
  | true => exact .inr rfl
  | false => exact .inl rfl

end Display

/-- What happens to a sprite that reaches past the edge of the display. -/
inductive DrawPolicy where
  /-- Every pixel is taken modulo the size of the display. -/
  | wrap
  /-- Only the origin is; pixels past the edge are dropped. -/
  | clip
  deriving DecidableEq, Repr

namespace DrawPolicy

def name : DrawPolicy → String
  | wrap => "wrap"
  | clip => "clip"

def ofName? : String → Option DrawPolicy
  | "wrap" => some wrap
  | "clip" => some clip
  | _ => none

/-- Where the pixel in a column and row of a sprite lands, for a sprite drawn at (x, y). -/
def place (policy : DrawPolicy) (x y column row : Nat) : Option Point :=
  match policy with
  | wrap => some ⟨Fin.ofNat 64 (x + column), Fin.ofNat 32 (y + row)⟩
  | clip =>
      if inside : x % 64 + column < 64 ∧ y % 32 + row < 32 then
        some ⟨⟨x % 64 + column, inside.1⟩, ⟨y % 32 + row, inside.2⟩⟩
      else none

end DrawPolicy

/-- Whether the sprite row has a pixel in the given column; the highest bit is the leftmost. -/
def spriteBit (row : UInt8) (column : Nat) : Bool := row.toNat.testBit (7 - column)

/-- The points that a sprite drawn at (x, y) flips, row by row from the left. -/
def spritePoints (policy : DrawPolicy) (x y : Nat) (rows : List UInt8) : List Point :=
  rows.zipIdx.flatMap fun (bits, row) =>
    (List.range 8).filterMap fun column =>
      if spriteBit bits column then policy.place x y column row else none

end Chip8
