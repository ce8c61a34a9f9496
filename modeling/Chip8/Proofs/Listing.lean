import Mathlib.Data.List.Basic
import Chip8.Proofs.Guards
import Chip8.Proofs.Hexadecimal

/-!
The lines of a listing. Instructions share names, but a name and the operands after it leave one
instruction only, and both can be told from the text of the line. So the line that is shown for a word
settles what the word does.
-/

namespace Chip8

/-- A text without the marks that stand between the parts of a line. -/
def Unbroken (text : List Char) : Prop := ' ' ∉ text ∧ ',' ∉ text

instance (text : List Char) : Decidable (Unbroken text) := inferInstanceAs (Decidable (_ ∧ _))

theorem Unbroken.cons {text : List Char} (unbroken : Unbroken text) {character : Char}
    (other : character ≠ ' ' ∧ character ≠ ',') : Unbroken (character :: text) := by
  constructor
  · exact List.not_mem_cons_of_ne_of_not_mem other.1.symm unbroken.1
  · exact List.not_mem_cons_of_ne_of_not_mem other.2.symm unbroken.2

theorem unbroken_upperHex (width number : Nat) : Unbroken (upperHex width number).toList := by
  have digit (character : Char) (member : character ∈ (upperHex width number).toList) :
      character ≠ ' ' ∧ character ≠ ',' := by
    obtain ⟨_, isDigit⟩ := (numeral_upperHex width number).isDigit character member
    exact isDigit.of_table (fun character _ => character ≠ ' ' ∧ character ≠ ',') (by decide) (by decide)
  exact ⟨fun member => (digit _ member).1 rfl, fun member => (digit _ member).2 rfl⟩

inductive OperandKind where
  | register
  | byte
  | address
  | index
  | rows
  deriving DecidableEq

/-- An operand in a listing. -/
inductive Operand where
  | register (number : Register)
  | byte (value : UInt8)
  | address (number : Fin 4096)
  | index
  | rows (count : Fin 16)

namespace Operand

def text : Operand → String
  | register number => number.name
  | byte value => Instruction.byteText value
  | address number => Instruction.targetText number
  | index => "I"
  | rows count => toString count.val

def kind : Operand → OperandKind
  | register _ => .register
  | byte _ => .byte
  | address _ => .address
  | index => .index
  | rows _ => .rows

/-- The kind of an operand by the length of its text and the mark in front. -/
def kindOf : List Char → OperandKind
  | ['I'] => .index
  | ['V', _] => .register
  | ['0', 'x', _, _] => .byte
  | ['0', 'x', _, _, _] => .address
  | _ => .rows

theorem toList_register (number : Register) :
    (text (.register number)).toList = 'V' :: (upperHex 1 number.val).toList := by
  have joined : text (.register number) = "V" ++ upperHex 1 number.val := rfl
  rw [joined, String.toList_append]
  rfl

theorem toList_byte (value : UInt8) :
    (text (.byte value)).toList = '0' :: 'x' :: (upperHex 2 value.toNat).toList := by
  have joined : text (.byte value) = "0x" ++ upperHex 2 value.toNat := rfl
  rw [joined, String.toList_append]
  rfl

theorem toList_address (number : Fin 4096) :
    (text (.address number)).toList = '0' :: 'x' :: (upperHex 3 number.val).toList := by
  have joined : text (.address number) = "0x" ++ upperHex 3 number.val := rfl
  rw [joined, String.toList_append]
  rfl

theorem kindOf_text (operand : Operand) : kindOf operand.text.toList = operand.kind := by
  cases operand with
  | register number =>
      obtain ⟨digit, only⟩ := List.length_eq_one_iff.mp (length_upperHex 0 number.isLt)
      rw [toList_register, only]
      rfl
  | byte value =>
      obtain ⟨high, low, both⟩ := List.length_eq_two.mp (length_upperHex 1 value.toNat_lt)
      rw [toList_byte, both]
      rfl
  | address number =>
      obtain ⟨high, middle, low, all⟩ :=
        List.length_eq_three.mp (length_upperHex 2 number.isLt)
      rw [toList_address, all]
      rfl
  | index => rfl
  | rows count => decide +revert

/-- An operand can be told from its text. -/
theorem text_injective {first second : Operand} (same : first.text = second.text) : first = second := by
  have kinds : first.kind = second.kind := by rw [← kindOf_text, same, kindOf_text]
  have characters := congrArg String.toList same
  cases first with
  | register number =>
      cases second with
      | register other =>
          rw [toList_register, toList_register, List.cons.injEq, String.toList_inj] at characters
          exact congrArg register (Fin.ext (upperHex_injective characters.2))
      | _ => cases kinds
  | byte value =>
      cases second with
      | byte other =>
          rw [toList_byte, toList_byte, List.cons.injEq, List.cons.injEq, String.toList_inj] at characters
          exact congrArg byte (UInt8.toNat_inj.mp (upperHex_injective characters.2.2))
      | _ => cases kinds
  | address number =>
      cases second with
      | address other =>
          rw [toList_address, toList_address, List.cons.injEq, List.cons.injEq, String.toList_inj]
            at characters
          exact congrArg address (Fin.ext (upperHex_injective characters.2.2))
      | _ => cases kinds
  | index =>
      cases second with
      | index => rfl
      | _ => cases kinds
  | rows count =>
      cases second with
      | rows other =>
          have table : ∀ count other : Fin 16, text (.rows count) = text (.rows other) →
              count = other := by decide
          exact congrArg rows (table count other same)
      | _ => cases kinds

theorem unbroken_text (operand : Operand) : Unbroken operand.text.toList := by
  cases operand with
  | register number =>
      rw [toList_register]
      exact (unbroken_upperHex 1 number.val).cons (by decide)
  | byte value =>
      rw [toList_byte]
      exact ((unbroken_upperHex 2 value.toNat).cons (by decide)).cons (by decide)
  | address number =>
      rw [toList_address]
      exact ((unbroken_upperHex 3 number.val).cons (by decide)).cons (by decide)
  | index => decide
  | rows count => decide +revert

end Operand

namespace Instruction

def operandList : Instruction → List Operand
  | clear | ret => []
  | jump target | call target => [.address target]
  | skipIfByte x byte | skipUnlessByte x byte | loadByte x byte | addByte x byte | random x byte =>
      [.register x, .byte byte]
  | skipIfEqual x y | skipUnlessEqual x y | copy x y | bitOr x y | bitAnd x y | bitXor x y | add x y
  | subtract x y | subtractFrom x y => [.register x, .register y]
  | shiftRight x | shiftLeft x => [.register x]
  | loadIndex address => [.index, .address address]
  | jumpOffset address => [.register Register.offset, .address address]
  | draw x y rows => [.register x, .register y, .rows rows]

theorem operands_eq (instruction : Instruction) :
    instruction.operands = instruction.operandList.map Operand.text := by
  have offset : Register.name Register.offset = "V0" := by decide +kernel
  cases instruction with
  | jumpOffset address =>
      simp only [operands, operandList, List.map_cons, Operand.text, offset, List.map_nil]
  | _ => rfl

/-- The instruction that is listed by a name and operands. -/
def ofLine? (name : String) (operands : List Operand) : Option Instruction :=
  match name, operands with
  | "CLS", [] => some clear
  | "RET", [] => some ret
  | "JP", [.address target] => some (jump target)
  | "JP", [.register _, .address address] => some (jumpOffset address)
  | "CALL", [.address target] => some (call target)
  | "SE", [.register x, .byte byte] => some (skipIfByte x byte)
  | "SE", [.register x, .register y] => some (skipIfEqual x y)
  | "SNE", [.register x, .byte byte] => some (skipUnlessByte x byte)
  | "SNE", [.register x, .register y] => some (skipUnlessEqual x y)
  | "LD", [.register x, .byte byte] => some (loadByte x byte)
  | "LD", [.register x, .register y] => some (copy x y)
  | "LD", [.index, .address address] => some (loadIndex address)
  | "ADD", [.register x, .byte byte] => some (addByte x byte)
  | "ADD", [.register x, .register y] => some (add x y)
  | "OR", [.register x, .register y] => some (bitOr x y)
  | "AND", [.register x, .register y] => some (bitAnd x y)
  | "XOR", [.register x, .register y] => some (bitXor x y)
  | "SUB", [.register x, .register y] => some (subtract x y)
  | "SUBN", [.register x, .register y] => some (subtractFrom x y)
  | "SHR", [.register x] => some (shiftRight x)
  | "SHL", [.register x] => some (shiftLeft x)
  | "RND", [.register x, .byte mask] => some (random x mask)
  | "DRW", [.register x, .register y, .rows rows] => some (draw x y rows)
  | _, _ => none

theorem ofLine?_listed (instruction : Instruction) :
    ofLine? instruction.mnemonic instruction.operandList = some instruction := by
  cases instruction <;> rfl

theorem unbroken_mnemonic (instruction : Instruction) : Unbroken instruction.mnemonic.toList := by
  let names := ["CLS", "RET", "JP", "CALL", "SE", "SNE", "LD", "ADD", "OR", "AND", "XOR", "SUB", "SUBN",
    "SHR", "SHL", "RND", "DRW"]
  have unbroken : ∀ name ∈ names, Unbroken name.toList := by decide
  have named : instruction.mnemonic ∈ names := by cases instruction <;> simp [mnemonic, names]
  exact unbroken _ named

end Instruction

/-! ## Lines -/

/-- A line cut at its commas. The name stands with the first operand, and every operand has a blank in
front. -/
def lineParts (name : List Char) : List (List Char) → List (List Char)
  | [] => [name]
  | first :: rest => (name ++ ' ' :: first) :: rest.map (' ' :: ·)

theorem lineParts_ne_nil (name : List Char) (operands : List (List Char)) :
    lineParts name operands ≠ [] := by
  cases operands <;> simp [lineParts]

theorem intercalate_blank (front first : List Char) (rest : List (List Char)) :
    front ++ [',', ' '].intercalate (first :: rest) =
      [','].intercalate ((front ++ first) :: rest.map (' ' :: ·)) := by
  -- The blank behind a comma becomes the front of the operands that follow.
  induction rest generalizing front first with
  | nil => simp
  | cons next rest ih =>
      have following := ih [' '] next
      rw [List.map_cons, List.intercalate_cons_cons, List.intercalate_cons_cons]
      simp only [List.singleton_append] at following
      simp [← following]

theorem Operation.toList_text (operation : Operation) :
    operation.text.toList =
      [','].intercalate (lineParts operation.mnemonic.toList (operation.operands.map String.toList)) := by
  rw [text]
  cases operation.operands with
  | nil => simp [lineParts]
  | cons first rest =>
      have joined := intercalate_blank (operation.mnemonic.toList ++ [' ']) first.toList
        (rest.map String.toList)
      simpa [lineParts, String.toList_append, String.toList_intercalate] using joined

theorem not_mem_lineParts {name : List Char} {operands : List (List Char)} (unbrokenName : Unbroken name)
    (unbroken : ∀ operand ∈ operands, Unbroken operand) :
    ∀ part ∈ lineParts name operands, ',' ∉ part := by
  cases operands with
  | nil =>
      intro part member
      rw [List.mem_singleton.mp member]
      exact unbrokenName.2
  | cons first rest =>
      intro part member
      rcases List.mem_cons.mp member with rfl | later
      · have blankFirst := (unbroken first List.mem_cons_self).2
        simp [unbrokenName.2, blankFirst]
      · obtain ⟨operand, listed, rfl⟩ := List.mem_map.mp later
        simp [(unbroken operand (List.mem_cons_of_mem _ listed)).2]

theorem lineParts_injective {name name' : List Char} {operands operands' : List (List Char)}
    (unbrokenName : Unbroken name) (unbrokenName' : Unbroken name')
    (unbroken : ∀ operand ∈ operands, Unbroken operand)
    (same : lineParts name operands = lineParts name' operands') :
    name = name' ∧ operands = operands' := by
  cases operands with
  | nil =>
      cases operands' with
      | nil => exact ⟨(List.cons.inj same).1, rfl⟩
      | cons first rest =>
          refine absurd ?_ unbrokenName.1
          rw [(List.cons.inj same).1]
          simp
  | cons first rest =>
      cases operands' with
      | nil =>
          refine absurd ?_ unbrokenName'.1
          rw [← (List.cons.inj same).1]
          simp
      | cons first' rest' =>
          obtain ⟨front, later⟩ := List.cons.inj same
          obtain ⟨rfl, _, rfl⟩ := (List.append_cons_inj_of_notMem unbrokenName.1
            (unbroken first List.mem_cons_self).1).mp front
          have blank : Function.Injective fun operand : List Char => ' ' :: operand :=
            fun _ _ same => (List.cons.inj same).2
          rw [List.map_injective_iff.mpr blank later]
          exact ⟨rfl, rfl⟩

namespace Instruction

/-- The line of an instruction leaves no other instruction. -/
theorem text_injective {word word' : Int} {first second : Instruction}
    (same : (Operation.ofInstruction word first).text = (Operation.ofInstruction word' second).text) :
    first = second := by
  have unbroken (instruction : Instruction) :
      ∀ operand ∈ instruction.operands.map String.toList, Unbroken operand := by
    intro operand member
    rw [operands_eq, List.map_map, List.mem_map] at member
    obtain ⟨operand, _, rfl⟩ := member
    exact operand.unbroken_text
  have cut (word : Int) (instruction : Instruction) :
      (Operation.ofInstruction word instruction).text.toList.splitOn ',' =
        lineParts instruction.mnemonic.toList (instruction.operands.map String.toList) := by
    rw [Operation.toList_text]
    exact List.splitOn_intercalate _
      (not_mem_lineParts instruction.unbroken_mnemonic (unbroken instruction)) (lineParts_ne_nil _ _)
  have parts := cut word first
  rw [same, cut word' second] at parts
  obtain ⟨names, operands⟩ := lineParts_injective second.unbroken_mnemonic first.unbroken_mnemonic
    (unbroken second) parts
  have listed : first.operandList = second.operandList := by
    rw [operands_eq, operands_eq, List.map_map, List.map_map] at operands
    have texts : Function.Injective (String.toList ∘ Operand.text) :=
      fun _ _ same => Operand.text_injective (String.toList_inj.mp same)
    exact List.map_injective_iff.mpr texts operands.symm
  have found := second.ofLine?_listed
  rw [String.toList_inj.mp names, ← listed, first.ofLine?_listed] at found
  exact Option.some.inj found

end Instruction

namespace Machine

/-- Words that are shown by the same text do the same on every machine: both complete and leave the same
behind, or both raise the same fault and leave everything as it was, but for the reads noted on the bus. -/
theorem execute_follows_text {first second : Int} {shown shown' : Operation}
    (decoded : Operation.decode first = .ok shown) (decoded' : Operation.decode second = .ok shown')
    (same : shown.text = shown'.text) (machine : Machine) :
    (∃ after, execute first machine = .ok shown after ∧ execute second machine = .ok shown' after) ∨
      ∃ cause accesses,
        execute first machine =
          .error (.fault cause) { machine with bus := machine.bus.noting accesses } ∧
        execute second machine =
          .error (.fault cause) { machine with bus := machine.bus.noting accesses } := by
  obtain ⟨instruction, encodes, rfl⟩ := Operation.exists_encodes_of_decode decoded
  obtain ⟨instruction', encodes', rfl⟩ := Operation.exists_encodes_of_decode decoded'
  obtain rfl := Instruction.text_injective same
  rw [execute_encodes encodes, execute_encodes encodes']
  cases ran : instruction.execute machine with
  | ok _ after => exact .inl ⟨after, rfl, rfl⟩
  | error problem after =>
      obtain ⟨cause, accesses, rfl, rfl⟩ := Instruction.execute_error ran
      exact .inr ⟨cause, accesses, rfl, rfl⟩

/-- A skip over the end of the memory, in two words that differ in a digit of no meaning. -/
theorem execute_follows_text_free_digit :
    let machine : Machine :=
      { MachineCall.shallow with state := { MachineCall.shallow.state with pc := 0xFFE } }
    ∃ shown shown' cause accesses,
      Operation.decode 0x5120 = .ok shown ∧ Operation.decode 0x512F = .ok shown' ∧
      shown.text = "SE V1, V2" ∧ shown'.text = "SE V1, V2" ∧ cause = .outOfBounds (.target 0x1000) ∧
      execute 0x5120 machine =
        .error (.fault cause) { machine with bus := machine.bus.noting accesses } ∧
      execute 0x512F machine =
        .error (.fault cause) { machine with bus := machine.bus.noting accesses } := by
  intro machine
  let shown := Operation.ofInstruction 0x5120 (.skipIfEqual 1 2)
  let shown' := Operation.ofInstruction 0x512F (.skipIfEqual 1 2)
  have texts : shown.text = "SE V1, V2" ∧ shown'.text = "SE V1, V2" := by decide +kernel
  have refused : execute 0x5120 machine = .error (.fault (.outOfBounds (.target 0x1000))) machine := rfl
  have decoded : Operation.decode 0x5120 = .ok shown ∧ Operation.decode 0x512F = .ok shown' := ⟨rfl, rfl⟩
  have outcome := execute_follows_text decoded.1 decoded.2 (texts.1.trans texts.2.symm) machine
  rw [refused] at outcome
  rcases outcome with ⟨after, completed, _⟩ | ⟨cause, accesses, same, alike⟩
  · cases completed
  · have known := Problem.fault.inj (EStateM.Result.error.inj same).1
    exact ⟨shown, shown', cause, accesses, decoded.1, decoded.2, texts.1, texts.2, known.symm,
      refused.trans same, alike⟩

end Machine

end Chip8
