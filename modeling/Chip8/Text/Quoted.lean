import Chip8.Text.Hex
import Chip8.Text.Letter
import Chip8.Text.Printable

/-!
Quoted text. A quoted text shows every character that can be shown and escapes all other code points, so
that it always stands on one line.
-/

namespace Chip8

/-- The mark around a text: a double quote only where it spares the escape of a single one. -/
def quoteMark (text : List Char) : Char :=
  if text.contains '\'' && !text.contains '"' then '"' else '\''

/-- Lower-case hexadecimal digits, padded to a width. -/
def hexEscape (letter : Char) (width code : Nat) : List Char :=
  '\\' :: letter :: paddedHex 'a' [] width code

/-- One code point between the given marks. -/
def quotedLetter (mark : Char) : Letter → List Char
  | .char character =>
      if character = mark ∨ character = '\\' then ['\\', character]
      else if character = '\n' then ['\\', 'n']
      else if character = '\r' then ['\\', 'r']
      else if character = '\t' then ['\\', 't']
      else if isPrintable character then [character]
      else if character.toNat < 0x100 then hexEscape 'x' 2 character.toNat
      else if character.toNat < 0x10000 then hexEscape 'u' 4 character.toNat
      else hexEscape 'U' 8 character.toNat
  | .surrogate place => hexEscape 'u' 4 (Letter.surrogate place).code

/-- A text in quotes. -/
def quoted (text : Text) : String :=
  let mark := quoteMark text.plain
  String.ofList (mark :: text.flatMap (quotedLetter mark) ++ [mark])

end Chip8
