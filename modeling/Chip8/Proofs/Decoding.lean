import Chip8.Instruction.Basic

/-!
Decoding inverts encoding. `Encodes` says which words stand for an instruction, digit by digit; decoding
a word finds the instruction that the word stands for and nothing else, and the pattern of a decoded
operation leads back to the same instruction.
-/

namespace Chip8

namespace Fields

@[simp] theorem nnn_ofWord (word : Int) : ((ofWord word).nnn.val : Int) = word % 4096 := by
  simp only [ofWord]
  omega

@[simp] theorem n_ofWord (word : Int) : ((ofWord word).n.val : Int) = word % 16 := by
  simp only [ofWord]
  omega

@[simp] theorem x_ofWord (word : Int) : ((ofWord word).x.val : Int) = word / 256 % 16 := by
  simp only [ofWord]
  omega

@[simp] theorem y_ofWord (word : Int) : ((ofWord word).y.val : Int) = word / 16 % 16 := by
  simp only [ofWord]
  omega

@[simp] theorem kk_ofWord (word : Int) : ((ofWord word).kk.toNat : Int) = word % 256 := by
  simp only [ofWord, UInt8.toNat_ofNat']
  omega

theorem of_nnn (word : Int) (group : Nat) (nnn : Fin 4096) (small : group < 16)
    (digits : word = 0x1000 * group + nnn.val) :
    (word / 4096 % 16).toNat = group ∧ (ofWord word).nnn = nnn := by
  have value := nnn_ofWord word
  exact ⟨by omega, Fin.ext (by omega)⟩

theorem of_xkk (word : Int) (group : Nat) (x : Register) (kk : UInt8) (small : group < 16)
    (digits : word = 0x1000 * group + 0x100 * x.val + kk.toNat) :
    (word / 4096 % 16).toNat = group ∧ (ofWord word).x = x ∧ (ofWord word).kk = kk := by
  have xValue := x_ofWord word
  have kkValue := kk_ofWord word
  have bound := kk.toNat_lt
  exact ⟨by omega, Fin.ext (by omega), UInt8.toNat_inj.mp (by omega)⟩

theorem of_xyn (word : Int) (group : Nat) (x y : Register) (n : Nat) (small : group < 16)
    (digit : n < 16) (digits : word = 0x1000 * group + 0x100 * x.val + 0x10 * y.val + n) :
    (word / 4096 % 16).toNat = group ∧ (ofWord word).x = x ∧ (ofWord word).y = y ∧
      (ofWord word).n.val = n := by
  have xValue := x_ofWord word
  have yValue := y_ofWord word
  have nValue := n_ofWord word
  exact ⟨by omega, Fin.ext (by omega), Fin.ext (by omega), by omega⟩

end Fields

namespace Instruction

/-- The words of an instruction. Digits that it does not use are free. -/
def Encodes (word : Int) : Instruction → Prop
  | clear => word = 0x00E0
  | ret => word = 0x00EE
  | jump target => word = 0x1000 + target.val
  | call target => word = 0x2000 + target.val
  | skipIfByte x byte => word = 0x3000 + 0x100 * x.val + byte.toNat
  | skipUnlessByte x byte => word = 0x4000 + 0x100 * x.val + byte.toNat
  | skipIfEqual x y => ∃ free : Fin 16, word = 0x5000 + 0x100 * x.val + 0x10 * y.val + free.val
  | loadByte x byte => word = 0x6000 + 0x100 * x.val + byte.toNat
  | addByte x byte => word = 0x7000 + 0x100 * x.val + byte.toNat
  | copy x y => word = 0x8000 + 0x100 * x.val + 0x10 * y.val
  | bitOr x y => word = 0x8001 + 0x100 * x.val + 0x10 * y.val
  | bitAnd x y => word = 0x8002 + 0x100 * x.val + 0x10 * y.val
  | bitXor x y => word = 0x8003 + 0x100 * x.val + 0x10 * y.val
  | add x y => word = 0x8004 + 0x100 * x.val + 0x10 * y.val
  | subtract x y => word = 0x8005 + 0x100 * x.val + 0x10 * y.val
  | shiftRight x => ∃ free : Fin 16, word = 0x8006 + 0x100 * x.val + 0x10 * free.val
  | subtractFrom x y => word = 0x8007 + 0x100 * x.val + 0x10 * y.val
  | shiftLeft x => ∃ free : Fin 16, word = 0x800E + 0x100 * x.val + 0x10 * free.val
  | skipUnlessEqual x y => ∃ free : Fin 16, word = 0x9000 + 0x100 * x.val + 0x10 * y.val + free.val
  | loadIndex address => word = 0xA000 + address.val
  | jumpOffset address => word = 0xB000 + address.val
  | random x mask => word = 0xC000 + 0x100 * x.val + mask.toNat
  | draw x y rows => word = 0xD000 + 0x100 * x.val + 0x10 * y.val + rows.val

/-- The words that stand for no instruction. -/
def Unlisted (word : Int) : Prop :=
  (word < 0x1000 ∧ word ≠ 0x00E0 ∧ word ≠ 0x00EE) ∨
  (0x8000 ≤ word ∧ word < 0x9000 ∧ (8 ≤ word % 16 ∧ word % 16 ≤ 0xD ∨ word % 16 = 0xF)) ∨
  0xE000 ≤ word

theorem Encodes.range {word : Int} {instruction : Instruction} (encodes : instruction.Encodes word) :
    0 ≤ word ∧ word ≤ 0xFFFF := by
  cases instruction with
  | skipIfByte x byte | skipUnlessByte x byte | loadByte x byte | addByte x byte | random x byte =>
      have bound := byte.toNat_lt
      simp only [Encodes] at encodes
      omega
  | skipIfEqual x y | skipUnlessEqual x y | shiftRight x | shiftLeft x =>
      obtain ⟨free, rfl⟩ := encodes
      omega
  | _ =>
      simp only [Encodes] at encodes
      omega

theorem encodes_of_ofWord? {word : Int} {instruction : Instruction} (low : 0 ≤ word)
    (high : word ≤ 0xFFFF) (decoded : ofWord? word = some instruction) :
    instruction.Encodes word := by
  have x := Fields.x_ofWord word
  have y := Fields.y_ofWord word
  have n := Fields.n_ofWord word
  have kk := Fields.kk_ofWord word
  have nnn := Fields.nnn_ofWord word
  unfold ofWord? at decoded
  dsimp only at decoded
  split at decoded
  case h_1 =>
    split at decoded
    · cases decoded
      assumption
    · split at decoded
      · cases decoded
        assumption
      · cases decoded
  case h_9 =>
    split at decoded
    case h_7 | h_9 =>
      cases decoded
      exact ⟨(Fields.ofWord word).y, by omega⟩
    case h_10 => cases decoded
    all_goals
      cases decoded
      simp only [Encodes]
      omega
  case h_6 | h_10 =>
    cases decoded
    exact ⟨(Fields.ofWord word).n, by omega⟩
  case h_15 => cases decoded
  all_goals
    cases decoded
    simp only [Encodes]
    omega

theorem ofWord?_of_encodes {word : Int} {instruction : Instruction}
    (encodes : instruction.Encodes word) : ofWord? word = some instruction := by
  cases instruction
  all_goals simp only [Encodes] at encodes
  case clear =>
    subst encodes
    rfl
  case ret =>
    subst encodes
    rfl
  case jump target =>
    obtain ⟨group, nnn⟩ := Fields.of_nnn word 0x1 target (by omega) (by omega)
    simp [ofWord?, group, nnn]
  case call target =>
    obtain ⟨group, nnn⟩ := Fields.of_nnn word 0x2 target (by omega) (by omega)
    simp [ofWord?, group, nnn]
  case skipIfByte x byte =>
    obtain ⟨group, fields⟩ := Fields.of_xkk word 0x3 x byte (by omega) (by omega)
    simp [ofWord?, group, fields]
  case skipUnlessByte x byte =>
    obtain ⟨group, fields⟩ := Fields.of_xkk word 0x4 x byte (by omega) (by omega)
    simp [ofWord?, group, fields]
  case skipIfEqual x y =>
    obtain ⟨free, encodes⟩ := encodes
    obtain ⟨group, fields⟩ := Fields.of_xyn word 0x5 x y free (by omega) (by omega) (by omega)
    simp [ofWord?, group, fields]
  case loadByte x byte =>
    obtain ⟨group, fields⟩ := Fields.of_xkk word 0x6 x byte (by omega) (by omega)
    simp [ofWord?, group, fields]
  case addByte x byte =>
    obtain ⟨group, fields⟩ := Fields.of_xkk word 0x7 x byte (by omega) (by omega)
    simp [ofWord?, group, fields]
  case copy x y =>
    obtain ⟨group, fields⟩ := Fields.of_xyn word 0x8 x y 0x0 (by omega) (by omega) (by omega)
    simp [ofWord?, group, fields]
  case bitOr x y =>
    obtain ⟨group, fields⟩ := Fields.of_xyn word 0x8 x y 0x1 (by omega) (by omega) (by omega)
    simp [ofWord?, group, fields]
  case bitAnd x y =>
    obtain ⟨group, fields⟩ := Fields.of_xyn word 0x8 x y 0x2 (by omega) (by omega) (by omega)
    simp [ofWord?, group, fields]
  case bitXor x y =>
    obtain ⟨group, fields⟩ := Fields.of_xyn word 0x8 x y 0x3 (by omega) (by omega) (by omega)
    simp [ofWord?, group, fields]
  case add x y =>
    obtain ⟨group, fields⟩ := Fields.of_xyn word 0x8 x y 0x4 (by omega) (by omega) (by omega)
    simp [ofWord?, group, fields]
  case subtract x y =>
    obtain ⟨group, fields⟩ := Fields.of_xyn word 0x8 x y 0x5 (by omega) (by omega) (by omega)
    simp [ofWord?, group, fields]
  case shiftRight x =>
    obtain ⟨free, encodes⟩ := encodes
    obtain ⟨group, fields⟩ := Fields.of_xyn word 0x8 x free 0x6 (by omega) (by omega) (by omega)
    simp [ofWord?, group, fields]
  case subtractFrom x y =>
    obtain ⟨group, fields⟩ := Fields.of_xyn word 0x8 x y 0x7 (by omega) (by omega) (by omega)
    simp [ofWord?, group, fields]
  case shiftLeft x =>
    obtain ⟨free, encodes⟩ := encodes
    obtain ⟨group, fields⟩ := Fields.of_xyn word 0x8 x free 0xE (by omega) (by omega) (by omega)
    simp [ofWord?, group, fields]
  case skipUnlessEqual x y =>
    obtain ⟨free, encodes⟩ := encodes
    obtain ⟨group, fields⟩ := Fields.of_xyn word 0x9 x y free (by omega) (by omega) (by omega)
    simp [ofWord?, group, fields]
  case loadIndex address =>
    obtain ⟨group, nnn⟩ := Fields.of_nnn word 0xA address (by omega) (by omega)
    simp [ofWord?, group, nnn]
  case jumpOffset address =>
    obtain ⟨group, nnn⟩ := Fields.of_nnn word 0xB address (by omega) (by omega)
    simp [ofWord?, group, nnn]
  case random x mask =>
    obtain ⟨group, fields⟩ := Fields.of_xkk word 0xC x mask (by omega) (by omega)
    simp [ofWord?, group, fields]
  case draw x y rows =>
    obtain ⟨group, xEq, yEq, nEq⟩ :=
      Fields.of_xyn word 0xD x y rows (by omega) (by omega) (by omega)
    simp [ofWord?, group, xEq, yEq, Fin.ext nEq]

/-- Decoding a word finds the instruction that the word stands for, and no other. -/
theorem ofWord?_eq_some_iff {word : Int} (low : 0 ≤ word) (high : word ≤ 0xFFFF)
    (instruction : Instruction) :
    ofWord? word = some instruction ↔ instruction.Encodes word :=
  ⟨encodes_of_ofWord? low high, ofWord?_of_encodes⟩

theorem Encodes.listed {word : Int} {instruction : Instruction}
    (encodes : instruction.Encodes word) : ¬ Unlisted word := by
  cases instruction with
  | skipIfByte x byte | skipUnlessByte x byte | loadByte x byte | addByte x byte | random x byte =>
      have bound := byte.toNat_lt
      simp only [Encodes] at encodes
      simp only [Unlisted]
      omega
  | skipIfEqual x y | skipUnlessEqual x y | shiftRight x | shiftLeft x =>
      obtain ⟨free, rfl⟩ := encodes
      simp only [Unlisted]
      omega
  | _ =>
      simp only [Encodes] at encodes
      simp only [Unlisted]
      omega

theorem unlisted_of_ofWord? {word : Int} (low : 0 ≤ word) (high : word ≤ 0xFFFF)
    (unknown : ofWord? word = none) : Unlisted word := by
  refine Classical.byContradiction fun listed => ?_
  simp only [Unlisted, not_or] at listed
  have group : (word / 4096 % 16).toNat < 14 := by omega
  have digit (eighth : (word / 4096 % 16).toNat = 8) :
      (Fields.ofWord word).n.val < 8 ∨ (Fields.ofWord word).n.val = 14 := by
    have n := Fields.n_ofWord word
    omega
  have zeroth (zero : (word / 4096 % 16).toNat = 0) : word = 0x00E0 ∨ word = 0x00EE := by omega
  clear low high listed
  unfold ofWord? at unknown
  dsimp only at unknown
  split at unknown
  case h_1 zero => rcases zeroth zero with rfl | rfl <;> simp at unknown
  case h_9 eighth =>
    have bound := digit eighth
    clear digit zeroth
    split at unknown
    case h_10 =>
      simp only [imp_false] at *
      omega
    all_goals cases unknown
  case h_15 =>
    clear digit zeroth
    simp only [imp_false] at *
    omega
  all_goals cases unknown

theorem ofWord?_eq_none_iff {word : Int} (low : 0 ≤ word) (high : word ≤ 0xFFFF) :
    ofWord? word = none ↔ Unlisted word := by
  constructor
  · exact unlisted_of_ofWord? low high
  · intro unlisted
    cases decoded : ofWord? word with
    | none => rfl
    | some instruction => exact absurd unlisted (encodes_of_ofWord? low high decoded).listed

/-- The pattern of a decoded word leads back to the decoded instruction. -/
theorem ofPattern?_pattern {word : Int} {instruction : Instruction}
    (decoded : ofWord? word = some instruction) :
    ofPattern? instruction.pattern (Fields.ofWord word) = some instruction := by
  unfold ofWord? at decoded
  dsimp only at decoded
  split at decoded
  case h_1 =>
    split at decoded
    · cases decoded
      rfl
    · split at decoded <;> cases decoded
      rfl
  case h_9 => split at decoded <;> cases decoded <;> rfl
  all_goals
    cases decoded <;> rfl

end Instruction

namespace Operation

/-- Decoding accepts the words of instructions and names the word in what it refuses. -/
theorem decode_apply (word : Int) :
    decode word =
      if 0 ≤ word ∧ word ≤ 0xFFFF then
        match Instruction.ofWord? word with
        | some instruction => .ok (ofInstruction word instruction)
        | none => .error (.fault (.unsupportedOpcode word))
      else .error (.misuse (.wordOutOfRange word)) := rfl

theorem decode_encodes {word : Int} {instruction : Instruction}
    (encodes : instruction.Encodes word) :
    decode word = .ok (ofInstruction word instruction) := by
  rw [decode_apply, if_pos encodes.range, Instruction.ofWord?_of_encodes encodes]

theorem exists_encodes_of_decode {word : Int} {operation : Operation}
    (decoded : decode word = .ok operation) :
    ∃ instruction : Instruction, instruction.Encodes word ∧
      operation = ofInstruction word instruction := by
  rw [decode_apply] at decoded
  split at decoded
  · rename_i inside
    split at decoded
    · rename_i instruction found
      exact ⟨instruction, Instruction.encodes_of_ofWord? inside.1 inside.2 found,
        (Except.ok.inj decoded).symm⟩
    · cases decoded
  · cases decoded

theorem instruction?_eq_some_iff {operation : Operation} {instruction : Instruction} :
    operation.instruction? = some instruction ↔
      operation.pattern = instruction.pattern ∧
        Instruction.ofPattern? instruction.pattern (Fields.ofWord operation.opcode) =
          some instruction := by
  constructor
  · intro found
    have named : operation.pattern = instruction.pattern := by
      unfold instruction? Instruction.ofPattern? at found
      split at found <;> cases found <;> assumption
    exact ⟨named, named ▸ found⟩
  · rintro ⟨named, made⟩
    rw [instruction?, named, made]

theorem instruction?_ofInstruction {word : Int} {instruction : Instruction}
    (encodes : instruction.Encodes word) :
    (ofInstruction word instruction).instruction? = some instruction :=
  Instruction.ofPattern?_pattern (Instruction.ofWord?_of_encodes encodes)

end Operation

end Chip8
