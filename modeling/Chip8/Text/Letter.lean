/-!
Text as a sequence of code points. A code point is a character or a surrogate, which is half of a pair
and stands for nothing by itself. An escape can name one, and so can the name of a file. The main
statement says that code points and the numbers below 0x110000 are the same thing.
-/

namespace Chip8

/-- A code point. -/
inductive Letter where
  | char (character : Char)
  /-- A surrogate, counted from the first one. -/
  | surrogate (place : Fin 2048)
  deriving DecidableEq, Repr

namespace Letter

/-- The number of a code point. -/
def code : Letter → Nat
  | char character => character.toNat
  | surrogate place => 0xD800 + place.val

/-- The code point of a number. -/
def ofCode (number : Nat) : Letter :=
  if inside : 0xD800 ≤ number ∧ number - 0xD800 < 2048 then surrogate ⟨number - 0xD800, inside.2⟩
  else char (Char.ofNat number)

theorem code_ofCode {number : Nat} (small : number < 0x110000) : (ofCode number).code = number := by
  unfold ofCode
  split
  next inside => simp only [code]; omega
  next outside =>
    have valid : number.isValidChar := by simp only [Nat.isValidChar]; omega
    rw [code, Char.ofNat, dif_pos valid]
    rfl

/-- The character itself. A surrogate is replaced by a character without a meaning anywhere. -/
def plain : Letter → Char
  | char character => character
  | surrogate _ => '\ufffd'

end Letter

/-- A text. -/
abbrev Text := List Letter

namespace Text

def ofChars (characters : List Char) : Text := characters.map Letter.char

def ofString (content : String) : Text := ofChars content.toList

/-- The characters of a text, for all that does not tell surrogates from other signs. -/
def plain (text : Text) : List Char := text.map Letter.plain

/-- The text as a string. -/
def toString (text : Text) : String := String.ofList text.plain

theorem plain_ofChars (characters : List Char) : plain (ofChars characters) = characters := by
  simp [plain, ofChars, Function.comp_def, Letter.plain]

/-- Texts with another text between them. -/
def joined (mark : Text) (parts : List Text) : Text := (parts.intersperse mark).flatten

end Text

instance : Coe String Text := ⟨Text.ofString⟩

end Chip8
