import Chip8.Document.Error
import Chip8.Text.Reader

/-!
The text that a document is read from. A file is not read at once, so what is wrong with its end counts
only if reading the document gets that far: a `Source` holds the characters that can be read and what
is wrong after them.
-/

namespace Chip8

/-- Whether a character may stand in a document. -/
def isDocumentChar (character : Char) : Bool :=
  let code := character.toNat
  code == 0x09 || code == 0x0A || code == 0x0D || code == 0x85 ||
    (0x20 ≤ code && code ≤ 0x7E) || (0xA0 ≤ code && code ≤ 0xFFFD) || 0x10000 ≤ code

structure Source where
  known : List Char
  /-- What is wrong after the known characters; nothing if the text ends there. -/
  defect : Option DocumentError
  deriving DecidableEq, Repr

namespace Source

/-- A text that cannot be read at all. -/
def unreadable (cause : DocumentError) : Source := { known := [], defect := some cause }

/-- A whole text, which is looked through before anything else. -/
def ofText (text : Text) : Source :=
  if text.all fun letter => !letter.isSurrogate && isDocumentChar letter.plain then
    { known := text.plain, defect := none }
  else unreadable .malformed

/-- Pieces of a text. Each is looked through when it is reached. -/
def ofPieces (flaw : Option Utf8Error) : List (List Char) → Source
  | [] => { known := [], defect := flaw.map .notText }
  | piece :: rest =>
      if piece.all isDocumentChar then
        let source := ofPieces flaw rest
        { source with known := piece ++ source.known }
      else unreadable .malformed

/-- The number of characters in a piece of a file. -/
def pieceLength : Nat := 4096

/-- The text of a file. The first two pieces are read together. -/
def ofBytes (bytes : List UInt8) : Source :=
  match filePieces pieceLength bytes with
  | ([], some cause) | ([_], some cause) => unreadable (.notText cause)
  | (first :: second :: rest, flaw) => ofPieces flaw ((first ++ second) :: rest)
  | (pieces, none) => ofPieces none pieces

end Source

end Chip8
