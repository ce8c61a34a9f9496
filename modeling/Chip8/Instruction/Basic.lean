import Chip8.State

/-!
The instruction set. An `Instruction` holds exactly the operands that its effect depends on. A word is
cut into `Fields`; `ofWord?` is the decoding table, and `ofPattern?` finds an instruction by the name
of its pattern, such as `8xy4`, whatever word the fields come from.
-/

namespace Chip8

/-- The operand fields of an instruction word. -/
structure Fields where
  nnn : Fin 4096
  n : Fin 16
  x : Register
  y : Register
  kk : UInt8
  deriving DecidableEq, Repr

/-- Cuts the lowest sixteen bits of a number, in two's complement, into fields. -/
def Fields.ofWord (word : Int) : Fields where
  nnn := ⟨(word % 4096).toNat, by omega⟩
  n := ⟨(word % 16).toNat, by omega⟩
  x := ⟨(word / 256 % 16).toNat, by omega⟩
  y := ⟨(word / 16 % 16).toNat, by omega⟩
  kk := UInt8.ofNat (word % 256).toNat

inductive Instruction where
  | clear
  | ret
  | jump (target : Fin 4096)
  | call (target : Fin 4096)
  | skipIfByte (x : Register) (byte : UInt8)
  | skipUnlessByte (x : Register) (byte : UInt8)
  | skipIfEqual (x y : Register)
  | skipUnlessEqual (x y : Register)
  | loadByte (x : Register) (byte : UInt8)
  | addByte (x : Register) (byte : UInt8)
  | copy (x y : Register)
  | bitOr (x y : Register)
  | bitAnd (x y : Register)
  | bitXor (x y : Register)
  | add (x y : Register)
  | subtract (x y : Register)
  | shiftRight (x : Register)
  | subtractFrom (x y : Register)
  | shiftLeft (x : Register)
  | loadIndex (address : Fin 4096)
  | jumpOffset (address : Fin 4096)
  | random (x : Register) (mask : UInt8)
  | draw (x y : Register) (rows : Fin 16)
  deriving DecidableEq, Repr

namespace Instruction

/-- The decoding table. Group 0 is decided by the whole word and group 8 by its last digit; every
other group stands for one instruction, and the groups E and F for none. -/
def ofWord? (word : Int) : Option Instruction :=
  let fields := Fields.ofWord word
  match (word / 4096 % 16).toNat with
  | 0x0 =>
      if word = 0x00E0 then some clear
      else if word = 0x00EE then some ret
      else none
  | 0x1 => some (jump fields.nnn)
  | 0x2 => some (call fields.nnn)
  | 0x3 => some (skipIfByte fields.x fields.kk)
  | 0x4 => some (skipUnlessByte fields.x fields.kk)
  | 0x5 => some (skipIfEqual fields.x fields.y)
  | 0x6 => some (loadByte fields.x fields.kk)
  | 0x7 => some (addByte fields.x fields.kk)
  | 0x8 =>
      match fields.n.val with
      | 0x0 => some (copy fields.x fields.y)
      | 0x1 => some (bitOr fields.x fields.y)
      | 0x2 => some (bitAnd fields.x fields.y)
      | 0x3 => some (bitXor fields.x fields.y)
      | 0x4 => some (add fields.x fields.y)
      | 0x5 => some (subtract fields.x fields.y)
      | 0x6 => some (shiftRight fields.x)
      | 0x7 => some (subtractFrom fields.x fields.y)
      | 0xE => some (shiftLeft fields.x)
      | _ => none
  | 0x9 => some (skipUnlessEqual fields.x fields.y)
  | 0xA => some (loadIndex fields.nnn)
  | 0xB => some (jumpOffset fields.nnn)
  | 0xC => some (random fields.x fields.kk)
  | 0xD => some (draw fields.x fields.y fields.n)
  | _ => none

/-- The pattern of an instruction's words. -/
def pattern : Instruction → String
  | clear => "00E0"
  | ret => "00EE"
  | jump _ => "1nnn"
  | call _ => "2nnn"
  | skipIfByte .. => "3xkk"
  | skipUnlessByte .. => "4xkk"
  | skipIfEqual .. => "5xy0"
  | skipUnlessEqual .. => "9xy0"
  | loadByte .. => "6xkk"
  | addByte .. => "7xkk"
  | copy .. => "8xy0"
  | bitOr .. => "8xy1"
  | bitAnd .. => "8xy2"
  | bitXor .. => "8xy3"
  | add .. => "8xy4"
  | subtract .. => "8xy5"
  | shiftRight _ => "8xy6"
  | subtractFrom .. => "8xy7"
  | shiftLeft _ => "8xyE"
  | loadIndex _ => "Annn"
  | jumpOffset _ => "Bnnn"
  | random .. => "Cxkk"
  | draw .. => "Dxyn"

/-- The instruction that a pattern makes of the fields. -/
def ofPattern? (pattern : String) (fields : Fields) : Option Instruction :=
  match pattern with
  | "00E0" => some clear
  | "00EE" => some ret
  | "1nnn" => some (jump fields.nnn)
  | "2nnn" => some (call fields.nnn)
  | "3xkk" => some (skipIfByte fields.x fields.kk)
  | "4xkk" => some (skipUnlessByte fields.x fields.kk)
  | "5xy0" => some (skipIfEqual fields.x fields.y)
  | "9xy0" => some (skipUnlessEqual fields.x fields.y)
  | "6xkk" => some (loadByte fields.x fields.kk)
  | "7xkk" => some (addByte fields.x fields.kk)
  | "8xy0" => some (copy fields.x fields.y)
  | "8xy1" => some (bitOr fields.x fields.y)
  | "8xy2" => some (bitAnd fields.x fields.y)
  | "8xy3" => some (bitXor fields.x fields.y)
  | "8xy4" => some (add fields.x fields.y)
  | "8xy5" => some (subtract fields.x fields.y)
  | "8xy6" => some (shiftRight fields.x)
  | "8xy7" => some (subtractFrom fields.x fields.y)
  | "8xyE" => some (shiftLeft fields.x)
  | "Annn" => some (loadIndex fields.nnn)
  | "Bnnn" => some (jumpOffset fields.nnn)
  | "Cxkk" => some (random fields.x fields.kk)
  | "Dxyn" => some (draw fields.x fields.y fields.n)
  | _ => none

/-- The name of an instruction in a listing. Several instructions share a name. -/
def mnemonic : Instruction → String
  | clear => "CLS"
  | ret => "RET"
  | jump _ | jumpOffset _ => "JP"
  | call _ => "CALL"
  | skipIfByte .. | skipIfEqual .. => "SE"
  | skipUnlessByte .. | skipUnlessEqual .. => "SNE"
  | loadByte .. | copy .. | loadIndex _ => "LD"
  | addByte .. | add .. => "ADD"
  | bitOr .. => "OR"
  | bitAnd .. => "AND"
  | bitXor .. => "XOR"
  | subtract .. => "SUB"
  | shiftRight _ => "SHR"
  | subtractFrom .. => "SUBN"
  | shiftLeft _ => "SHL"
  | random .. => "RND"
  | draw .. => "DRW"

/-- A byte operand, such as `0x0A`. -/
def byteText (byte : UInt8) : String := s!"0x{upperHex 2 byte.toNat}"

/-- An address operand, such as `0x2A0`. -/
def targetText (address : Fin 4096) : String := s!"0x{upperHex 3 address.val}"

/-- The operands of an instruction in a listing. -/
def operands : Instruction → List String
  | clear | ret => []
  | jump target | call target => [targetText target]
  | skipIfByte x byte | skipUnlessByte x byte | loadByte x byte | addByte x byte | random x byte =>
      [Register.name x, byteText byte]
  | skipIfEqual x y | skipUnlessEqual x y | copy x y | bitOr x y | bitAnd x y | bitXor x y | add x y
  | subtract x y | subtractFrom x y =>
      [Register.name x, Register.name y]
  | shiftRight x | shiftLeft x => [Register.name x]
  | loadIndex address => ["I", targetText address]
  | jumpOffset address => ["V0", targetText address]
  | draw x y rows => [Register.name x, Register.name y, toString rows.val]

end Instruction

/-- A decoded word as it is listed and run: the pattern names what is executed and the word supplies
its fields. The two need not agree. -/
structure Operation where
  opcode : Int
  pattern : String
  mnemonic : String
  operands : List String
  cycleCount : Nat := 1
  length : Nat := 2
  deriving DecidableEq, Repr

namespace Operation

def ofInstruction (opcode : Int) (instruction : Instruction) : Operation where
  opcode := opcode
  pattern := instruction.pattern
  mnemonic := instruction.mnemonic
  operands := instruction.operands

/-- The word in four digits. -/
def hex (operation : Operation) : String := upperHex 4 operation.opcode

/-- The line of a listing, such as `ADD V1, V2`. -/
def text (operation : Operation) : String :=
  if operation.operands.isEmpty then operation.mnemonic
  else operation.mnemonic ++ " " ++ String.intercalate ", " operation.operands

/-- Decodes a word of sixteen bits. -/
def decode (word : Int) : Except Problem Operation :=
  if 0 ≤ word ∧ word ≤ 0xFFFF then
    match Instruction.ofWord? word with
    | some instruction => .ok (ofInstruction word instruction)
    | none => .error (.fault (.unsupportedOpcode word))
  else
    .error (.misuse (.wordOutOfRange word))

/-- The instruction that an operation runs. -/
def instruction? (operation : Operation) : Option Instruction :=
  Instruction.ofPattern? operation.pattern (Fields.ofWord operation.opcode)

end Operation

end Chip8
