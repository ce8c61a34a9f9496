import Chip8.Fault
import Chip8.Text.Letter

/-!
Showing the display as text: one character, or any text, per pixel, and below it on request a listing
of the registers. A `Painter` draws frames one after another and leaves out a frame that equals the one
it saw last.
-/

namespace Chip8

/-- The texts for lit and dark pixels. -/
structure Brush where
  lit : Text := "*"
  dark : Text := " "
  deriving DecidableEq, Repr

/-- One row of pixels; every byte but 0 is lit. -/
def Brush.row (brush : Brush) (pixels : List UInt8) : Text :=
  pixels.flatMap fun pixel => if pixel = 0 then brush.dark else brush.lit

/-- Cuts bytes into rows of 64. -/
def frameRows (count : Nat) (pixels : List UInt8) : List (List UInt8) :=
  match count with
  | 0 => []
  | count + 1 => pixels.take 64 :: frameRows count (pixels.drop 64)

/-- The picture of a frame, which has to be 2048 bytes long. -/
def Brush.picture (brush : Brush) (frame : List UInt8) : Except Problem Text :=
  if frame.length = 2048 then
    .ok (Text.joined "\n" ((frameRows 32 frame).map brush.row))
  else
    .error (.misuse (.frameSizeWrong frame.length))

/-- Whether a register is listed among the byte registers: two characters, the first of them V. -/
def isByteRegister (name : String) : Bool :=
  match name.toList with
  | ['V', _] => true
  | _ => false

/-- The registers of the given names that are there, in the order of the names. -/
def listed (registers : List (String × Int)) (width : Nat) (names : List String) : String :=
  String.intercalate " " (names.filterMap fun name =>
    (registers.lookup name).map fun value => s!"{name}={upperHex width value}")

/-- The register listing: the byte registers in their own order, then pointers and timers. A part with
nothing in it is left out. -/
def registerText (registers : List (String × Int)) : String :=
  let general := String.intercalate " " ((registers.filter fun register =>
    isByteRegister register.1).map fun (name, value) => s!"{name}={upperHex 2 value}")
  let pointers := listed registers 4 ["PC", "I"]
  let timers := listed registers 2 ["SP", "DT", "ST"]
  let special :=
    if pointers.isEmpty then timers
    else if timers.isEmpty then pointers
    else pointers ++ " " ++ timers
  String.intercalate "\n" ([general, special].filter fun part => !part.isEmpty)

/-- Puts the cursor into the upper left corner and clears the screen. -/
def clearScreen : String := "\x1b[H\x1b[2J"

structure Painter where
  brush : Brush := {}
  /-- Whether the screen is cleared before each frame. -/
  clear : Bool := true
  /-- The frame seen last. -/
  last : Option (List UInt8) := none
  deriving DecidableEq

/-- Draws a frame, with a listing of the registers if there is one, and gives the text to write. Without
a listing a frame that equals the one before is not drawn. -/
def Painter.paint (frame : List UInt8) (registers : Option (List (String × Int))) :
    Action Painter (Option Text) := do
  let painter ← get
  if painter.last = some frame ∧ registers.isNone then
    return none
  else
    set { painter with last := some frame }
    let picture ← ofExcept (painter.brush.picture frame)
    let clearing : Text := if painter.clear then clearScreen else ""
    let listing : Text := match registers with
      | some registers => "\n" ++ registerText registers
      | none => ""
    return some (clearing ++ picture ++ listing ++ Text.ofString "\n")

end Chip8
