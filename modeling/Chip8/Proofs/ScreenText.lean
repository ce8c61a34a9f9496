import Chip8.Screen
import Mathlib.Data.List.Basic

/-!
The text of a picture. Lines of one length with a mark between them give every character a place of its own,
so the text tells of each pixel whether it is lit, even if the characters for the pixels include the mark.
-/

namespace Chip8

/-! ## Lines of one length -/

theorem length_flatten_blocks {α : Type} {size : Nat} {blocks : List (List α)}
    (sized : ∀ block ∈ blocks, block.length = size) :
    blocks.flatten.length = size * blocks.length := by
  induction blocks with
  | nil => simp
  | cons block blocks ih =>
      obtain ⟨first, rest⟩ := List.forall_mem_cons.mp sized
      rw [List.flatten_cons, List.length_append, List.length_cons, ih rest, first, Nat.mul_succ]
      omega

theorem getElem?_flatten_blocks {α : Type} {size : Nat} {blocks : List (List α)}
    (sized : ∀ block ∈ blocks, block.length = size) (row : Nat) {column : Nat} (inside : column < size) :
    blocks.flatten[size * row + column]? = blocks[row]?.bind fun block => block[column]? := by
  induction blocks generalizing row with
  | nil => simp
  | cons block blocks ih =>
      obtain ⟨first, rest⟩ := List.forall_mem_cons.mp sized
      rw [List.flatten_cons]
      cases row with
      | zero =>
          rw [List.getElem?_append_left (by omega)]
          simp
      | succ row =>
          have place : size * (row + 1) + column - block.length = size * row + column := by
            rw [first, Nat.mul_succ]
            omega
          rw [List.getElem?_append_right (by rw [first, Nat.mul_succ]; omega), place, ih rest]
          simp

namespace Text

/-- With a mark after the last line too, every line is a block that ends in the mark. -/
theorem joined_append_mark (mark : Letter) {lines : List Text} (filled : lines ≠ []) :
    joined [mark] lines ++ [mark] = (lines.map fun line => line ++ [mark]).flatten := by
  induction lines with
  | nil => exact absurd rfl filled
  | cons line lines ih =>
      cases lines with
      | nil => simp [joined]
      | cons next lines =>
          have later := ih (List.cons_ne_nil next lines)
          rw [List.map_cons, List.flatten_cons, ← later]
          simp [joined]

variable {width : Nat} {lines : List Text}

theorem length_of_mem_marked (mark : Letter) (wide : ∀ line ∈ lines, line.length = width) :
    ∀ block ∈ lines.map fun line => line ++ [mark], block.length = width + 1 := by
  intro block member
  obtain ⟨line, listed, rfl⟩ := List.mem_map.mp member
  rw [List.length_append, wide line listed, List.length_singleton]

theorem length_joined (mark : Letter) (wide : ∀ line ∈ lines, line.length = width)
    (filled : lines ≠ []) : (joined [mark] lines).length + 1 = (width + 1) * lines.length := by
  have ended := length_flatten_blocks (length_of_mem_marked mark wide)
  rwa [← joined_append_mark mark filled, List.length_append, List.length_singleton,
    List.length_map] at ended

/-- Each place of a text is that of a character in a line, or of the mark after the line. -/
theorem getElem?_joined (mark : Letter) (wide : ∀ line ∈ lines, line.length = width) {row column : Nat}
    (inside : column < width + 1) (before : (width + 1) * row + column + 1 < (width + 1) * lines.length) :
    (joined [mark] lines)[(width + 1) * row + column]? =
      lines[row]?.bind fun line => (line ++ [mark])[column]? := by
  have filled : lines ≠ [] := by
    rintro rfl
    simp at before
  -- The place lies before the mark that is added behind the last line.
  have long := length_joined mark wide filled
  have ended := getElem?_flatten_blocks (length_of_mem_marked mark wide) row inside
  rw [← joined_append_mark mark filled, List.getElem?_append_left (by omega), List.getElem?_map] at ended
  rw [ended]
  cases lines[row]? <;> rfl

end Text

/-! ## Frames -/

theorem length_frameRows (count : Nat) (pixels : List UInt8) : (frameRows count pixels).length = count := by
  induction count generalizing pixels with
  | zero => rfl
  | succ count ih => rw [frameRows, List.length_cons, ih]

theorem getElem?_frameRows (pixels : List UInt8) {count row : Nat} (inside : row < count) :
    (frameRows count pixels)[row]? = some ((pixels.drop (64 * row)).take 64) := by
  induction count generalizing pixels row with
  | zero => omega
  | succ count ih =>
      cases row with
      | zero => simp [frameRows]
      | succ row =>
          rw [frameRows, List.getElem?_cons_succ, ih (pixels.drop 64) (by omega), List.drop_drop,
            Nat.mul_succ, Nat.add_comm]

/-- The character that a byte is shown as. -/
def shownAs (lit dark : Letter) (pixel : UInt8) : Letter := if pixel = 0 then dark else lit

theorem shownAs_injective {lit dark : Letter} (different : lit ≠ dark) {pixel other : UInt8}
    (bit : pixel = 0 ∨ pixel = 1) (alsoBit : other = 0 ∨ other = 1)
    (same : shownAs lit dark pixel = shownAs lit dark other) : pixel = other := by
  rcases bit with rfl | rfl <;> rcases alsoBit with rfl | rfl
  · rfl
  · exact absurd same.symm different
  · exact absurd same different
  · rfl

theorem Brush.row_letters (lit dark : Letter) (pixels : List UInt8) :
    row { lit := [lit], dark := [dark] } pixels = pixels.map (shownAs lit dark) := by
  induction pixels with
  | nil => rfl
  | cons pixel pixels ih =>
      rw [row] at ih ⊢
      rw [List.flatMap_cons, ih, List.map_cons, shownAs]
      split <;> rfl

/-- A frame with one byte for each pixel: 1 if it is lit and 0 if it is dark. -/
structure IsFrame (frame : List UInt8) : Prop where
  length : frame.length = 2048
  pixels : ∀ pixel ∈ frame, pixel = 0 ∨ pixel = 1

/-- A text of 2079 characters that shows every byte of a frame in its place and has a newline after each line
but the last. -/
structure Depicts (lit dark : Letter) (frame : List UInt8) (text : Text) : Prop where
  length : text.length = 2079
  pixels : ∀ y < 32, ∀ x < 64, text[65 * y + x]? = frame[64 * y + x]?.map (shownAs lit dark)
  newlines : ∀ y < 31, text[65 * y + 64]? = some (.char '\n')

namespace Depicts

variable {lit dark : Letter} {frame first second : List UInt8} {text other : Text}

/-- No place of the text is left open. -/
theorem unique (depicts : Depicts lit dark frame text) (also : Depicts lit dark frame other) :
    text = other := by
  have long := depicts.length
  have alsoLong := also.length
  apply List.ext_getElem?
  intro place
  by_cases inside : place < 2079
  -- Quotient and rest by 65 are the line of a place and its column.
  · have split : place = 65 * (place / 65) + place % 65 := (Nat.div_add_mod place 65).symm
    by_cases newline : place % 65 = 64
    · rw [split, newline, depicts.newlines _ (by omega), also.newlines _ (by omega)]
    · rw [split, depicts.pixels _ (by omega) _ (by omega), also.pixels _ (by omega) _ (by omega)]
  · rw [List.getElem?_eq_none (by omega), List.getElem?_eq_none (by omega)]

/-- A frame can be told from its text. -/
theorem frame_unique (different : lit ≠ dark) (isFrame : IsFrame first) (alsoFrame : IsFrame second)
    (depicts : Depicts lit dark first text) (also : Depicts lit dark second text) : first = second := by
  have long := isFrame.length
  have alsoLong := alsoFrame.length
  apply List.ext_getElem
  · omega
  · intro place inside alsoInside
    have split : 64 * (place / 64) + place % 64 = place := Nat.div_add_mod place 64
    have shown := depicts.pixels (place / 64) (by omega) (place % 64) (by omega)
    rw [also.pixels (place / 64) (by omega) (place % 64) (by omega), split,
      List.getElem?_eq_getElem inside, List.getElem?_eq_getElem alsoInside] at shown
    exact shownAs_injective different (isFrame.pixels _ (List.getElem_mem inside))
      (alsoFrame.pixels _ (List.getElem_mem alsoInside)) (Option.some.inj shown).symm

end Depicts

namespace Brush

/-- The lines of a picture with one character for each pixel. -/
def lines (lit dark : Letter) (frame : List UInt8) : List Text :=
  (frameRows 32 frame).map (row { lit := [lit], dark := [dark] })

variable {frame : List UInt8}

theorem length_lines (lit dark : Letter) (frame : List UInt8) : (lines lit dark frame).length = 32 := by
  rw [lines, List.length_map, length_frameRows]

theorem getElem?_lines (lit dark : Letter) (frame : List UInt8) {y : Nat} (inside : y < 32) :
    (lines lit dark frame)[y]? = some (((frame.drop (64 * y)).take 64).map (shownAs lit dark)) := by
  rw [lines, List.getElem?_map, getElem?_frameRows frame inside, Option.map_some, row_letters]

theorem length_line (lit dark : Letter) (sized : frame.length = 2048) {y : Nat} (inside : y < 32) :
    (((frame.drop (64 * y)).take 64).map (shownAs lit dark)).length = 64 := by
  simp only [List.length_map, List.length_take, List.length_drop]
  omega

theorem length_of_mem_lines (lit dark : Letter) (sized : frame.length = 2048) :
    ∀ line ∈ lines lit dark frame, line.length = 64 := by
  intro line member
  obtain ⟨y, known⟩ := List.mem_iff_getElem?.mp member
  have inside : y < 32 := by
    rw [← length_lines lit dark frame]
    exact (List.getElem?_eq_some_iff.mp known).1
  rw [getElem?_lines lit dark frame inside] at known
  rw [← Option.some.inj known]
  exact length_line lit dark sized inside

theorem picture_depicts (lit dark : Letter) (sized : frame.length = 2048) :
    ∃ text, picture { lit := [lit], dark := [dark] } frame = .ok text ∧ Depicts lit dark frame text := by
  have count := length_lines lit dark frame
  have wide := length_of_mem_lines lit dark sized
  have long := Text.length_joined (.char '\n') wide (List.ne_nil_of_length_pos (by omega))
  refine ⟨Text.joined [.char '\n'] (lines lit dark frame), ?_, ?_, ?_, ?_⟩
  · rw [picture, if_pos sized]
    rfl
  · omega
  · intro y low x inside
    rw [Text.getElem?_joined _ wide (by omega) (by omega), getElem?_lines lit dark frame low,
      Option.bind_some, List.getElem?_append_left (by rwa [length_line lit dark sized low]),
      List.getElem?_map, List.getElem?_take_of_lt inside, List.getElem?_drop]
  · intro y low
    have inside : y < 32 := by omega
    have full := length_line lit dark sized inside
    rw [Text.getElem?_joined _ wide (by omega) (by omega), getElem?_lines lit dark frame inside,
      Option.bind_some, List.getElem?_append_right (Nat.le_of_eq full), full]
    rfl

/-- A picture is the one text that shows the frame. If lit and dark pixels have different characters, frames
with the same picture are the same, and a frame of another length has no picture. -/
theorem picture_shows_frame (lit dark : Letter) :
    let brush : Brush := { lit := [lit], dark := [dark] }
    (∀ frame : List UInt8, frame.length = 2048 →
      ∃ text, brush.picture frame = .ok text ∧ ∀ other, Depicts lit dark frame other ↔ other = text) ∧
    (lit ≠ dark → ∀ first second : List UInt8, IsFrame first → IsFrame second →
      (brush.picture first = brush.picture second ↔ first = second)) ∧
    ∀ (anyBrush : Brush) (frame : List UInt8), frame.length ≠ 2048 →
      anyBrush.picture frame = .error (.misuse (.frameSizeWrong frame.length)) := by
  intro brush
  refine ⟨?_, ?_, ?_⟩
  · intro frame sized
    obtain ⟨text, drawn, depicts⟩ := picture_depicts lit dark sized
    refine ⟨text, drawn, fun other => ⟨fun also => also.unique depicts, ?_⟩⟩
    rintro rfl
    exact depicts
  · intro different first second isFrame alsoFrame
    refine ⟨?_, congrArg brush.picture⟩
    intro same
    obtain ⟨text, drawn, depicts⟩ := picture_depicts lit dark isFrame.length
    obtain ⟨other, alsoDrawn, also⟩ := picture_depicts lit dark alsoFrame.length
    have texts : text = other := Except.ok.inj (drawn.symm.trans (same.trans alsoDrawn))
    rw [← texts] at also
    exact depicts.frame_unique different isFrame alsoFrame also
  · intro anyBrush frame wrong
    rw [picture, if_neg wrong]

/-- Lit pixels that are shown as newlines, as the ends of the lines are. -/
theorem picture_shows_frame_newlines :
    let newline : Letter := .char '\n'
    let blank : Letter := .char ' '
    let brush : Brush := { lit := [newline], dark := [blank] }
    let dark : List UInt8 := List.replicate 2048 0
    let corner : List UInt8 := 1 :: List.replicate 2047 0
    newline ≠ blank ∧ IsFrame dark ∧ IsFrame corner ∧
      (∃ text, brush.picture corner = .ok text ∧ text.length = 2079 ∧ text[0]? = some newline ∧
        text[1]? = some blank ∧ text[64]? = some newline) ∧
      brush.picture dark ≠ brush.picture corner ∧
      brush.picture [1] = .error (.misuse (.frameSizeWrong 1)) := by
  intro newline blank brush dark corner
  have different : newline ≠ blank := by decide
  have darkFrame : IsFrame dark := ⟨List.length_replicate, fun pixel member =>
    .inl (List.eq_of_mem_replicate member)⟩
  have cornerFrame : IsFrame corner := by
    constructor
    · rw [List.length_cons, List.length_replicate]
    · intro pixel member
      rcases List.mem_cons.mp member with rfl | later
      · exact .inr rfl
      · exact .inl (List.eq_of_mem_replicate later)
  obtain ⟨shows, tells, refuses⟩ := picture_shows_frame newline blank
  refine ⟨different, darkFrame, cornerFrame, ?_, ?_, refuses brush [1] (by decide)⟩
  · obtain ⟨text, drawn, only⟩ := shows corner cornerFrame.length
    have depicts := (only text).mpr rfl
    refine ⟨text, drawn, depicts.length, ?_, ?_, depicts.newlines 0 (by omega)⟩
    · exact depicts.pixels 0 (by omega) 0 (by omega)
    · rw [depicts.pixels 0 (by omega) 1 (by omega)]
      rfl
  · intro same
    have frames := (tells different dark corner darkFrame cornerFrame).mp same
    have heads : dark[0]? = corner[0]? := by rw [frames]
    rw [List.getElem?_replicate] at heads
    cases heads

end Brush

end Chip8
