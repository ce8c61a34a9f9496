import Chip8.Text.Letter
import Chip8.Text.Quoted

/-!
Text as bytes. `decodeUtf8` accepts exactly the shortest encodings of characters and says of anything else
where it starts, how long it is and what is wrong with it. `encodePath` gives the bytes of a text that
names a file; there a byte that is no text may be written as one of the surrogates from 0xDC80 on.
-/

namespace Chip8

/-! ## From bytes to text -/

inductive Utf8Flaw where
  /-- No character starts with this byte. -/
  | start
  /-- A character is broken off by a byte that does not belong to it. -/
  | continuation
  /-- A character is broken off by the end of the data. -/
  | ending
  deriving DecidableEq, Repr

/-- Bytes that are no text, with their position. -/
structure Utf8Error where
  position : Nat
  bytes : List UInt8
  flaw : Utf8Flaw
  deriving DecidableEq, Repr

def Utf8Flaw.message : Utf8Flaw → String
  | start => "invalid start byte"
  | continuation => "invalid continuation byte"
  | ending => "unexpected end of data"

/-- One position, or the first and the last of several. -/
def positionText (position count : Nat) : String :=
  if count = 1 then toString position else s!"{position}-{position + count - 1}"

def Utf8Error.message (error : Utf8Error) : String :=
  let place := match error.bytes with
    | [byte] =>
        let digits := String.ofList (paddedHex 'a' [] 2 byte.toNat)
        s!"byte 0x{digits}"
    | _ => "bytes"
  let position := positionText error.position error.bytes.length
  s!"'utf-8' codec can't decode {place} in position {position}: {error.flaw.message}"

/-- The range of the second byte after a first byte, and the number of bytes after the first. -/
def utf8Shape? (first : Nat) : Option (Nat × Nat × Nat) :=
  if 0xC2 ≤ first ∧ first ≤ 0xDF then some (0x80, 0xBF, 1)
  else if first = 0xE0 then some (0xA0, 0xBF, 2)
  else if first = 0xED then some (0x80, 0x9F, 2)
  else if 0xE1 ≤ first ∧ first ≤ 0xEF then some (0x80, 0xBF, 2)
  else if first = 0xF0 then some (0x90, 0xBF, 3)
  else if 0xF1 ≤ first ∧ first ≤ 0xF3 then some (0x80, 0xBF, 3)
  else if first = 0xF4 then some (0x80, 0x8F, 3)
  else none

/-- The continuation bytes at the front, at most `count` of them, the first in the given range. -/
def continuationBytes (low high : Nat) : Nat → List UInt8 → List UInt8
  | count + 1, byte :: rest =>
      if low ≤ byte.toNat ∧ byte.toNat ≤ high then byte :: continuationBytes 0x80 0xBF count rest
      else []
  | _, _ => []

/-- The code point of a first byte and its continuation bytes. -/
def utf8Value (first : Nat) (more : List UInt8) : Nat :=
  more.foldl (fun value byte => value * 64 + byte.toNat % 64)
    (match more.length with
    | 1 => first % 32
    | 2 => first % 16
    | _ => first % 8)

/-- Whether bytes are the first two of a surrogate. They are refused together with the third only. -/
def startsSurrogate : List UInt8 → Bool
  | [first, second] => first == 0xED && 0xA0 ≤ second && second ≤ 0xBF
  | _ => false

/-- Decodes bytes that start at a position. A character that is not complete at the end is left over. -/
def decodeFrom (position : Nat) (bytes : List UInt8) :
    Except Utf8Error (List Char × List UInt8) :=
  match bytes with
  | [] => .ok ([], [])
  | first :: rest =>
      if first.toNat < 0x80 then
        (decodeFrom (position + 1) rest).map fun (text, left) =>
          (Char.ofNat first.toNat :: text, left)
      else
        match utf8Shape? first.toNat with
        | none => .error ⟨position, [first], .start⟩
        | some (low, high, count) =>
            let more := continuationBytes low high count rest
            if more.length = count then
              (decodeFrom (position + count + 1) (rest.drop count)).map fun (text, left) =>
                (Char.ofNat (utf8Value first.toNat more) :: text, left)
            else if more.length = rest.length || startsSurrogate bytes then .ok ([], bytes)
            else .error ⟨position, first :: more, .continuation⟩
termination_by bytes.length
decreasing_by all_goals simp only [List.length_drop, List.length_cons]; omega

/-- Decodes bytes as text. -/
def decodeUtf8 (bytes : List UInt8) : Except Utf8Error (List Char) := do
  let (text, left) ← decodeFrom 0 bytes
  let position := bytes.length - left.length
  if left.isEmpty then return text
  else if startsSurrogate left then throw ⟨position, left.take 1, .continuation⟩
  else throw ⟨position, left, .ending⟩

/-- Line ends of any kind as a single line feed. -/
def unifyLines : List Char → List Char
  | '\r' :: '\n' :: rest => '\n' :: unifyLines rest
  | '\r' :: rest => '\n' :: unifyLines rest
  | character :: rest => character :: unifyLines rest
  | [] => []

/-! ## From text to bytes -/

/-- Surrogates in a row that no bytes stand for, with their position. -/
structure EncodingError where
  position : Nat
  surrogates : Text
  deriving DecidableEq, Repr

def EncodingError.message (error : EncodingError) : String :=
  let place := match error.surrogates with
    | [letter] => "character '" ++ String.ofList (hexEscape 'u' 4 letter.code) ++ "'"
    | _ => "characters"
  let position := positionText error.position error.surrogates.length
  s!"'utf-8' codec can't encode {place} in position {position}: surrogates not allowed"

/-- The bytes of a character. -/
def encodeChar (character : Char) : List UInt8 := (String.singleton character).toUTF8.toList

def Letter.isSurrogate : Letter → Bool
  | char _ => false
  | surrogate _ => true

/-- The byte that a surrogate stands for in the name of a file. -/
def Letter.byte? : Letter → Option UInt8
  | char _ => none
  | surrogate place =>
      if 0x480 ≤ place.val ∧ place.val < 0x500 then some (UInt8.ofNat (place.val - 0x400)) else none

/-- The bytes of a text that names a file. -/
def encodePathFrom (position : Nat) : Text → Except EncodingError (List UInt8)
  | [] => .ok []
  | .char character :: rest =>
      (encodePathFrom (position + 1) rest).map (encodeChar character ++ ·)
  | .surrogate place :: rest =>
      match Letter.byte? (.surrogate place) with
      | some byte => (encodePathFrom (position + 1) rest).map (byte :: ·)
      | none => .error ⟨position, .surrogate place :: rest.takeWhile Letter.isSurrogate⟩

def encodePath (text : Text) : Except EncodingError (List UInt8) := encodePathFrom 0 text

end Chip8
