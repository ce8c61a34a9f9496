import Chip8.Bus
import Chip8.Log

/-!
Loading a program image: the bytes go to consecutive addresses, all of them or none.
-/

namespace Chip8

/-- A finished load. -/
structure LoadedImage where
  length : Nat
  offset : Int
  deriving DecidableEq, Repr

def LoadedImage.entry (loaded : LoadedImage) : LogEntry where
  level := .info
  source := .image
  text := s!"Loaded {loaded.length} bytes at {addressText loaded.offset}"

/-- Copies an image to the bus. What counts as room is the span from the offset to the end of the
highest mapping, gaps included. -/
def Bus.loadImage (image : List UInt8) (offset : Int) : Action Bus LoadedImage := do
  let bus ← get
  let capacity := bus.size - offset
  if offset < 0 ∨ capacity < 0 then
    Action.misuse (.loadOffsetOutsideMemory offset bus.size)
  else if capacity < image.length then
    Action.misuse (.programTooLarge image.length offset capacity)
  else
    load offset image
    return { length := image.length, offset := offset }

end Chip8
