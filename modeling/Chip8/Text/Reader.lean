import Chip8.Text.Utf8

/-!
Reading the text of a file piece by piece. Bytes are taken in blocks, and of a block that is decoded the
characters are handed out in pieces of a given length. What is wrong with the bytes of a block shows when
the block is decoded and not before, so the beginning of a file may be read although its end cannot.
-/

namespace Chip8

/-- A file that is being read. -/
structure TextReader where
  unread : List UInt8
  /-- Bytes of a character that the last block broke off. -/
  broken : List UInt8 := []
  /-- Whether a carriage return at the end of a block waits for what follows it. -/
  returned : Bool := false
  /-- Characters that were decoded but not handed out. -/
  ready : List Char := []
  /-- Bytes per character in the last block. -/
  density : Float := 0.0

namespace TextReader

/-- The least number of bytes in a block. A block becomes larger when the characters that are wanted are
expected to take more bytes. -/
def blockSize : Nat := 8192

def nextBlockSize (reader : TextReader) (wanted : Nat) : Nat :=
  let density := if reader.density < 1.0 then 1.0 else reader.density
  max blockSize (density * Float.ofNat wanted).toUInt64.toNat

/-- Decodes the next block. At the end of the file nothing may be left of a character. Gives also
whether the end was reached. -/
def decodeBlock (reader : TextReader) (wanted : Nat) : Except Utf8Error (TextReader × Bool) := do
  let size := reader.nextBlockSize wanted
  let block := reader.unread.take size
  let atEnd := block.isEmpty
  let (text, broken) ←
    if atEnd then pure (← decodeUtf8 reader.broken, [])
    else decodeFrom 0 (reader.broken ++ block)
  let joined := if reader.returned && (atEnd || !text.isEmpty) then '\r' :: text else text
  let waits := if joined.isEmpty then reader.returned else !atEnd && joined.getLast? == some '\r'
  let ready := unifyLines (if waits then joined.dropLast else joined)
  return ({
    unread := reader.unread.drop size
    broken := broken
    returned := waits
    ready := ready
    density := if ready.isEmpty then 0.0 else Float.ofNat block.length / Float.ofNat ready.length },
    atEnd && ready.isEmpty)

/-- Hands out the next characters, fewer than wanted only at the end of the file. The fuel bounds the
number of blocks. -/
def take : Nat → TextReader → Nat → Except Utf8Error (List Char × TextReader)
  | 0, reader, _ => .ok ([], reader)
  | fuel + 1, reader, wanted => do
      let taken := reader.ready.take wanted
      let after := { reader with ready := reader.ready.drop wanted }
      if taken.length = wanted then return (taken, after)
      else
        let (next, ended) ← after.decodeBlock (wanted - taken.length)
        if ended then return (taken, next)
        else
          let (more, last) ← take fuel next (wanted - taken.length)
          return (taken ++ more, last)

/-- The pieces of a file, each of the given length but for the last, and what is wrong with the file
after them. The fuel bounds the number of pieces. -/
def pieces (length : Nat) : Nat → TextReader → List (List Char) × Option Utf8Error
  | 0, _ => ([], none)
  | fuel + 1, reader =>
      match reader.take (reader.unread.length + 3) length with
      | .error cause => ([], some cause)
      | .ok ([], _) => ([], none)
      | .ok (piece, after) =>
          let (more, flaw) := pieces length fuel after
          (piece :: more, flaw)

end TextReader

/-- The text of a file in pieces of a given length, as far as it can be read. -/
def filePieces (length : Nat) (bytes : List UInt8) : List (List Char) × Option Utf8Error :=
  TextReader.pieces length (bytes.length + 2) { unread := bytes }

end Chip8
