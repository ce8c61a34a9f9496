/-!
Bytes written with 64 characters, four for every three bytes. Characters that are not among the 64 are
passed over, and the text ends where a group is filled up.
-/

namespace Chip8

/-- The six bits of a character. -/
def sextet? (character : Char) : Option Nat :=
  if 'A' ≤ character ∧ character ≤ 'Z' then some (character.toNat - 'A'.toNat)
  else if 'a' ≤ character ∧ character ≤ 'z' then some (character.toNat - 'a'.toNat + 26)
  else if '0' ≤ character ∧ character ≤ '9' then some (character.toNat - '0'.toNat + 52)
  else if character = '+' then some 62
  else if character = '/' then some 63
  else none

/-- Decodes a text, given the characters of the current group that were read and the bits that they
leave, and the number of fillers. A group that is broken off has no bytes. -/
def decodeGroups (place bits fillers : Nat) : List Char → Option (List UInt8)
  | [] => if place = 0 then some [] else none
  | character :: rest =>
      if character = '=' then
        if 2 ≤ place ∧ 4 ≤ place + fillers + 1 then some []
        else decodeGroups place bits (if 2 ≤ place then fillers + 1 else fillers) rest
      else
        match sextet? character with
        | none => decodeGroups place bits fillers rest
        | some value =>
            let joined := bits * 64 + value
            match place with
            | 0 => decodeGroups 1 value 0 rest
            | 1 => (decodeGroups 2 (joined % 16) 0 rest).map (UInt8.ofNat (joined / 16) :: ·)
            | 2 => (decodeGroups 3 (joined % 4) 0 rest).map (UInt8.ofNat (joined / 4) :: ·)
            | _ => (decodeGroups 0 0 0 rest).map (UInt8.ofNat joined :: ·)

/-- The bytes that a text stands for. -/
def decodeBase64 (text : List Char) : Option (List UInt8) := decodeGroups 0 0 0 text

end Chip8
