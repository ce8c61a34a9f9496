/-!
The random bytes of the machine, from a twisted generalised feedback shift register over 624 words of
32 bits. A seed of any size is spread over the words; every draw takes the nine highest bits of an
output and is repeated until they name a byte.
-/

namespace Chip8

/-- The words of the register and the number of them that have been given out. -/
structure Generator where
  words : Vector UInt32 624
  used : Nat
  deriving DecidableEq

namespace Generator

/-- A word by its position, counted around the register. -/
def word (words : Vector UInt32 624) (position : Nat) : UInt32 :=
  words.get ⟨position % 624, by omega⟩

def setWord (words : Vector UInt32 624) (position : Nat) (value : UInt32) : Vector UInt32 624 :=
  words.set (position % 624) value (by omega)

/-- Mixes the word before a position into the position's own. -/
def mix (words : Vector UInt32 624) (position : Nat) (factor : UInt32) : UInt32 :=
  let previous := word words (position - 1)
  word words position ^^^ ((previous ^^^ (previous >>> 30)) * factor)

/-- The register filled from one word. -/
def spread (first : UInt32) : Vector UInt32 624 :=
  (List.range 623).foldl
    (fun words position =>
      let previous : UInt32 := word words position
      setWord words (position + 1)
        ((previous ^^^ (previous >>> 30)) * 1812433253 + UInt32.ofNat (position + 1)))
    (Vector.replicate 624 first)

/-- The position after `position` in a pass that skips word 0. Past the end, word 0 takes the last
word and the pass goes on at 1. -/
def turn (words : Vector UInt32 624) (position : Nat) : Vector UInt32 624 × Nat :=
  if position + 1 < 624 then (words, position + 1) else (setWord words 0 (word words 623), 1)

/-- One round over the key. -/
def absorb (key : Array UInt32) : Nat → Vector UInt32 624 × Nat → Vector UInt32 624 × Nat
  | 0, pass => pass
  | rounds + 1, (words, position) =>
      let (words, position) := absorb key rounds (words, position)
      let part := rounds % key.size
      let value := mix words position 1664525 + key.getD part 0 + UInt32.ofNat part
      turn (setWord words position value) position

/-- The closing round, which no longer looks at the key. -/
def settle : Nat → Vector UInt32 624 × Nat → Vector UInt32 624 × Nat
  | 0, pass => pass
  | rounds + 1, pass =>
      let (words, position) := settle rounds pass
      turn (setWord words position (mix words position 1566083941 - UInt32.ofNat position)) position

/-- The words of a key, lowest first; zero is the one word 0. -/
def keyWords (number : Nat) : List UInt32 :=
  if number < 0x100000000 then [UInt32.ofNat number]
  else UInt32.ofNat (number % 0x100000000) :: keyWords (number / 0x100000000)

/-- The generator of a seed. The sign of the seed does not matter. -/
def ofSeed (seed : Int) : Generator :=
  let key := (keyWords seed.natAbs).toArray
  let absorbed := absorb key (max 624 key.size) (spread 19650218, 1)
  let (words, _) := settle 623 absorbed
  { words := setWord words 0 0x80000000, used := 624 }

/-- Replaces one word from its successor and the word 397 places on. -/
def twist (words : Vector UInt32 624) (position : Nat) : Vector UInt32 624 :=
  let joined := (word words position &&& 0x80000000) ||| (word words (position + 1) &&& 0x7fffffff)
  let folded := word words (position + 397) ^^^ (joined >>> 1)
  setWord words position (if joined &&& 1 = 0 then folded else folded ^^^ 0x9908b0df)

/-- A fresh register once every word has been given out. -/
def refill (generator : Generator) : Generator :=
  if generator.used < 624 then generator
  else { words := (List.range 624).foldl twist generator.words, used := 0 }

/-- Evens out the bits of an output. -/
def temper (value : UInt32) : UInt32 :=
  let value := value ^^^ (value >>> 11)
  let value := value ^^^ ((value <<< 7) &&& 0x9d2c5680)
  let value := value ^^^ ((value <<< 15) &&& 0xefc60000)
  value ^^^ (value >>> 18)

/-- The next output of 32 bits. -/
def nextWord (generator : Generator) : UInt32 × Generator :=
  let ready := generator.refill
  (temper (word ready.words ready.used), { ready with used := ready.used + 1 })

/-- Draws nine bits until they name a byte, in at most the given number of draws. -/
def drawByte : Nat → Generator → UInt8 × Generator
  | 0, generator => (0, generator)
  | draws + 1, generator =>
      let (value, after) := generator.nextWord
      let nine := value >>> 23
      if nine < 256 then (nine.toUInt8, after) else drawByte draws after

/-- The next byte, all 256 being equally likely. The highest output bits of the register are a linear
sequence of order 19937, in which no run of ones is longer than that, so one draw more is enough. -/
def nextByte (generator : Generator) : UInt8 × Generator := drawByte 19938 generator

/-- The generator after a number of bytes. -/
def advance (generator : Generator) : Nat → Generator
  | 0 => generator
  | count + 1 => (generator.nextByte.2).advance count

/-- The byte that the generator gives after `count` others. -/
def stream (generator : Generator) (count : Nat) : UInt8 := (generator.advance count).nextByte.1

end Generator

end Chip8
