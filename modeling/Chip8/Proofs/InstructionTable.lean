import Chip8.Proofs.Execution

/-!
The instruction table, row by row: which words an instruction has, what it is called and what it does,
with registers as whole numbers. The main theorem says that running a word does what its row says.
-/

namespace Chip8

/-- What comes of running a word: it completes under the name of its instruction, or it is refused and
nothing has changed. -/
inductive Outcome where
  | completes (name : String) (after : Machine)
  | refused (problem : Problem)

namespace Machine

/-- What running a word comes to. The operation it gives back is that of the word. -/
inductive Yields (machine : Machine) (word : Int) : Outcome → Prop
  | completes {operation : Operation} {after : Machine} :
      execute word machine = .ok operation after → operation.opcode = word →
      Yields machine word (.completes operation.mnemonic after)
  | refused {problem : Problem} : execute word machine = .error problem machine →
      Yields machine word (.refused problem)

/-- The content of a register as a whole number. -/
def content (machine : Machine) (register : Register) : Nat := (machine.state.value register).toNat

/-- The registers V0 to VF hold the given numbers afterwards, and nothing else has changed. -/
structure Assigns (before after : Machine) (numbers : Register → Nat) : Prop where
  numbers : ∀ register, after.content register = numbers register
  rest : after = { before with state := { before.state with v := after.state.v } }

/-- The numbers after one register took a new one. -/
def storing (machine : Machine) (target : Register) (number : Nat) (register : Register) : Nat :=
  if register = target then number else machine.content register

/-- The numbers after one register took a new one and VF a flag, which wins where they are the same. -/
def flagging (machine : Machine) (target : Register) (number flag : Nat) (register : Register) : Nat :=
  if register = Register.flag then flag else machine.storing target number register

/-- The program counter moves, inside the memory only. -/
def going (machine : Machine) (name : String) (target : Int) (beyond : Overreach) : Outcome :=
  if 0 ≤ target ∧ target < 0x1000 then
    .completes name { machine with state := { machine.state with pc := target } }
  else .refused (.fault (.outOfBounds beyond))

/-- The next instruction is passed over if the condition holds. -/
def skipping (machine : Machine) (name : String) (holds : Prop) [Decidable holds] : Outcome :=
  if holds then machine.going name (machine.state.pc + 2) (.target (machine.state.pc + 2))
  else .completes name machine

end Machine

/-- The rows of the table, apart from the drawing of sprites. -/
inductive Table (machine : Machine) : Int → Outcome → Prop
  | cls :
      Table machine 0x00E0 (.completes "CLS"
        { machine with state := { machine.state with display := .blank } })
  | ret {address : UInt16} {rest : List UInt16} : machine.state.stack = address :: rest →
      Table machine 0x00EE (.completes "RET"
        { machine with state := { machine.state with pc := (address.toNat : Int), stack := rest } })
  | retEmpty : machine.state.stack = [] →
      Table machine 0x00EE (.refused (.fault .stackUnderflow))
  | jp (nnn : Fin 0x1000) :
      Table machine (0x1000 + nnn.val) (.completes "JP"
        { machine with state := { machine.state with pc := (nnn.val : Int) } })
  | call (nnn : Fin 0x1000) : (machine.state.sp : Int) < machine.state.stackLimit →
      Table machine (0x2000 + nnn.val) (.completes "CALL"
        { machine with
          state := { machine.state with
            pc := (nnn.val : Int)
            stack := UInt16.ofInt machine.state.pc :: machine.state.stack } })
  | callFull (nnn : Fin 0x1000) : machine.state.stackLimit ≤ machine.state.sp →
      Table machine (0x2000 + nnn.val)
        (.refused (.fault (.stackOverflow machine.state.stackLimit)))
  | seByte (x : Register) (kk : UInt8) :
      Table machine (0x3000 + 0x100 * x.val + kk.toNat)
        (machine.skipping "SE" (machine.content x = kk.toNat))
  | sneByte (x : Register) (kk : UInt8) :
      Table machine (0x4000 + 0x100 * x.val + kk.toNat)
        (machine.skipping "SNE" (machine.content x ≠ kk.toNat))
  | se (x y : Register) (free : Fin 0x10) :
      Table machine (0x5000 + 0x100 * x.val + 0x10 * y.val + free.val)
        (machine.skipping "SE" (machine.content x = machine.content y))
  | ldByte (x : Register) (kk : UInt8) {after : Machine} :
      machine.Assigns after (machine.storing x kk.toNat) →
      Table machine (0x6000 + 0x100 * x.val + kk.toNat) (.completes "LD" after)
  | addByte (x : Register) (kk : UInt8) {after : Machine} :
      machine.Assigns after (machine.storing x ((machine.content x + kk.toNat) % 0x100)) →
      Table machine (0x7000 + 0x100 * x.val + kk.toNat) (.completes "ADD" after)
  | ld (x y : Register) {after : Machine} :
      machine.Assigns after (machine.storing x (machine.content y)) →
      Table machine (0x8000 + 0x100 * x.val + 0x10 * y.val) (.completes "LD" after)
  | or (x y : Register) {after : Machine} :
      machine.Assigns after (machine.storing x (machine.content x ||| machine.content y)) →
      Table machine (0x8001 + 0x100 * x.val + 0x10 * y.val) (.completes "OR" after)
  | and (x y : Register) {after : Machine} :
      machine.Assigns after (machine.storing x (machine.content x &&& machine.content y)) →
      Table machine (0x8002 + 0x100 * x.val + 0x10 * y.val) (.completes "AND" after)
  | xor (x y : Register) {after : Machine} :
      machine.Assigns after (machine.storing x (machine.content x ^^^ machine.content y)) →
      Table machine (0x8003 + 0x100 * x.val + 0x10 * y.val) (.completes "XOR" after)
  | add (x y : Register) {after : Machine} :
      machine.Assigns after (machine.flagging x ((machine.content x + machine.content y) % 0x100)
        (if 0xFF < machine.content x + machine.content y then 1 else 0)) →
      Table machine (0x8004 + 0x100 * x.val + 0x10 * y.val) (.completes "ADD" after)
  | sub (x y : Register) {after : Machine} :
      machine.Assigns after
        (machine.flagging x ((machine.content x + 0x100 - machine.content y) % 0x100)
          (if machine.content y ≤ machine.content x then 1 else 0)) →
      Table machine (0x8005 + 0x100 * x.val + 0x10 * y.val) (.completes "SUB" after)
  | shr (x : Register) (free : Fin 0x10) {after : Machine} :
      machine.Assigns after (machine.flagging x (machine.content x / 2) (machine.content x % 2)) →
      Table machine (0x8006 + 0x100 * x.val + 0x10 * free.val) (.completes "SHR" after)
  | subn (x y : Register) {after : Machine} :
      machine.Assigns after
        (machine.flagging x ((machine.content y + 0x100 - machine.content x) % 0x100)
          (if machine.content x ≤ machine.content y then 1 else 0)) →
      Table machine (0x8007 + 0x100 * x.val + 0x10 * y.val) (.completes "SUBN" after)
  | shl (x : Register) (free : Fin 0x10) {after : Machine} :
      machine.Assigns after
        (machine.flagging x (2 * machine.content x % 0x100) (machine.content x / 0x80)) →
      Table machine (0x800E + 0x100 * x.val + 0x10 * free.val) (.completes "SHL" after)
  | sne (x y : Register) (free : Fin 0x10) :
      Table machine (0x9000 + 0x100 * x.val + 0x10 * y.val + free.val)
        (machine.skipping "SNE" (machine.content x ≠ machine.content y))
  | ldIndex (nnn : Fin 0x1000) :
      Table machine (0xA000 + nnn.val) (.completes "LD"
        { machine with state := { machine.state with i := UInt16.ofNat nnn.val } })
  | jpOffset (nnn : Fin 0x1000) :
      Table machine (0xB000 + nnn.val)
        (machine.going "JP" (nnn.val + machine.content Register.offset)
          (.offsetTarget (nnn.val + machine.content Register.offset)))
  | rnd (x : Register) (kk : UInt8) {after : Machine} :
      Machine.Assigns { machine with generator := machine.generator.nextByte.2 } after
        (machine.storing x (machine.generator.nextByte.1.toNat &&& kk.toNat)) →
      Table machine (0xC000 + 0x100 * x.val + kk.toNat) (.completes "RND" after)
  | unlisted {word : Int} : 0 ≤ word → word ≤ 0xFFFF → Instruction.Unlisted word →
      Table machine word (.refused (.fault (.unsupportedOpcode word)))
  | outside {word : Int} : ¬ (0 ≤ word ∧ word ≤ 0xFFFF) →
      Table machine word (.refused (.misuse (.wordOutOfRange word)))

namespace Machine

variable {machine : Machine}

theorem content_lt (register : Register) : machine.content register < 0x100 :=
  (machine.state.value register).toNat_lt

theorem Assigns.unique {first second : Machine} {numbers : Register → Nat}
    (left : machine.Assigns first numbers) (right : machine.Assigns second numbers) :
    first = second := by
  have registers : first.state.v = second.state.v := by
    apply Vector.ext
    intro index bound
    have same := (left.numbers ⟨index, bound⟩).trans (right.numbers ⟨index, bound⟩).symm
    exact UInt8.toNat_inj.mp same
  rw [left.rest, right.rest, registers]

theorem assigns_put (target : Register) (value : UInt8) :
    machine.Assigns { machine with state := machine.state.withValue target value }
      (machine.storing target value.toNat) := by
  refine ⟨fun register => ?_, rfl⟩
  simp only [content, storing, State.value_withValue]
  split <;> rfl

theorem assigns_putWithFlag (target : Register) (value : UInt8) (flag : Bool) :
    machine.Assigns
      { machine with
        state := (machine.state.withValue target value).withValue Register.flag
          (if flag then 1 else 0) }
      (machine.flagging target value.toNat (if flag then 1 else 0)) := by
  refine ⟨fun register => ?_, rfl⟩
  simp only [content, flagging, storing, State.value_withValue]
  split
  · cases flag <;> rfl
  · split <;> rfl

end Machine

namespace Instruction

open Machine

variable {machine : Machine}

/-- An instruction completes with the given numbers in the registers and no other change. -/
def Computes (instruction : Instruction) (machine : Machine) (numbers : Register → Nat) : Prop :=
  ∃ after, instruction.execute machine = .ok () after ∧ machine.Assigns after numbers

theorem computes_of_put {instruction : Instruction} {target : Register} {value : UInt8}
    {number : Nat} (ran : instruction.execute machine = put target value machine)
    (same : value.toNat = number) : instruction.Computes machine (machine.storing target number) := by
  subst same
  exact ⟨_, ran, assigns_put target value⟩

theorem computes_of_putWithFlag {instruction : Instruction} {target : Register} {value : UInt8}
    {flag : Bool} {number flagNumber : Nat}
    (ran : instruction.execute machine = putWithFlag target value flag machine)
    (same : value.toNat = number) (sameFlag : (if flag then 1 else 0) = flagNumber) :
    instruction.Computes machine (machine.flagging target number flagNumber) := by
  subst same sameFlag
  exact ⟨_, ran, assigns_putWithFlag target value flag⟩

theorem flag_eq {flag : Bool} {holds : Prop} [Decidable holds] (same : flag = true ↔ holds) :
    (if flag then 1 else 0) = if holds then 1 else 0 := by
  by_cases holding : holds
  · rw [if_pos holding, if_pos (same.mpr holding)]
  · rw [if_neg holding, if_neg (fun set => holding (same.mp set))]

variable (machine)

theorem loadByte_computes (x : Register) (kk : UInt8) :
    (loadByte x kk).Computes machine (machine.storing x kk.toNat) :=
  computes_of_put rfl rfl

theorem addByte_computes (x : Register) (kk : UInt8) :
    (addByte x kk).Computes machine (machine.storing x ((machine.content x + kk.toNat) % 0x100)) :=
  computes_of_put rfl (UInt8.toNat_add _ _)

theorem copy_computes (x y : Register) :
    (copy x y).Computes machine (machine.storing x (machine.content y)) :=
  computes_of_put rfl rfl

theorem bitOr_computes (x y : Register) :
    (bitOr x y).Computes machine (machine.storing x (machine.content x ||| machine.content y)) :=
  computes_of_put rfl (UInt8.toNat_or _ _)

theorem bitAnd_computes (x y : Register) :
    (bitAnd x y).Computes machine (machine.storing x (machine.content x &&& machine.content y)) :=
  computes_of_put rfl (UInt8.toNat_and _ _)

theorem bitXor_computes (x y : Register) :
    (bitXor x y).Computes machine (machine.storing x (machine.content x ^^^ machine.content y)) :=
  computes_of_put rfl (UInt8.toNat_xor _ _)

theorem add_computes (x y : Register) :
    (add x y).Computes machine
      (machine.flagging x ((machine.content x + machine.content y) % 0x100)
        (if 0xFF < machine.content x + machine.content y then 1 else 0)) := by
  apply computes_of_putWithFlag rfl (UInt8.toNat_add _ _)
  exact flag_eq (by simp [content])

theorem subtract_computes (x y : Register) :
    (subtract x y).Computes machine
      (machine.flagging x ((machine.content x + 0x100 - machine.content y) % 0x100)
        (if machine.content y ≤ machine.content x then 1 else 0)) := by
  have bound := machine.content_lt y
  apply computes_of_putWithFlag rfl
  · rw [UInt8.toNat_sub]
    simp only [content] at *
    omega
  · exact flag_eq (by simp [content, UInt8.le_iff_toNat_le])

theorem subtractFrom_computes (x y : Register) :
    (subtractFrom x y).Computes machine
      (machine.flagging x ((machine.content y + 0x100 - machine.content x) % 0x100)
        (if machine.content x ≤ machine.content y then 1 else 0)) := by
  have bound := machine.content_lt x
  apply computes_of_putWithFlag rfl
  · rw [UInt8.toNat_sub]
    simp only [content] at *
    omega
  · exact flag_eq (by simp [content, UInt8.le_iff_toNat_le])

theorem shiftRight_computes (x : Register) :
    (shiftRight x).Computes machine
      (machine.flagging x (machine.content x / 2) (machine.content x % 2)) := by
  apply computes_of_putWithFlag rfl
  · rw [UInt8.toNat_shiftRight]
    rfl
  · change (if (machine.content x).testBit 0 then 1 else 0) = _
    rw [Nat.testBit_zero]
    split <;> simp_all

theorem shiftLeft_computes (x : Register) :
    (shiftLeft x).Computes machine
      (machine.flagging x (2 * machine.content x % 0x100) (machine.content x / 0x80)) := by
  have bound := machine.content_lt x
  apply computes_of_putWithFlag rfl
  · rw [UInt8.toNat_shiftLeft]
    change machine.content x <<< 1 % 2 ^ 8 = _
    rw [Nat.shiftLeft_eq]
    omega
  · change (if (machine.content x).testBit 7 then 1 else 0) = _
    rw [Nat.testBit_eq_decide_div_mod_eq]
    split <;> simp_all <;> omega

end Instruction

namespace Machine

variable {machine : Machine} {word : Int} {instruction : Instruction}

theorem yields_completes {name : String} {after : Machine} (encodes : instruction.Encodes word)
    (named : instruction.mnemonic = name) (ran : instruction.execute machine = .ok () after) :
    machine.Yields word (.completes name after) := by
  subst named
  have run : execute word machine = .ok (Operation.ofInstruction word instruction) after := by
    rw [execute_encodes encodes, ran]
  exact .completes run rfl

theorem yields_refused {problem : Problem} (encodes : instruction.Encodes word)
    (failed : instruction.execute machine = .error problem machine) :
    machine.Yields word (.refused problem) := by
  apply Yields.refused
  rw [execute_encodes encodes, failed]

theorem yields_computed {name : String} {after : Machine} {numbers : Register → Nat}
    (encodes : instruction.Encodes word) (named : instruction.mnemonic = name)
    (computes : instruction.Computes machine numbers) (assigns : machine.Assigns after numbers) :
    machine.Yields word (.completes name after) := by
  obtain ⟨computed, ran, assigned⟩ := computes
  rw [assigns.unique assigned]
  exact yields_completes encodes named ran

theorem yields_going {name : String} {target : Int} {beyond : Overreach}
    (encodes : instruction.Encodes word) (named : instruction.mnemonic = name)
    (ran : instruction.execute machine =
      if 0 ≤ target ∧ target < 0x1000 then
        .ok () { machine with state := { machine.state with pc := target } }
      else .error (.fault (.outOfBounds beyond)) machine) :
    machine.Yields word (machine.going name target beyond) := by
  unfold going
  split
  · rename_i inside
    rw [if_pos inside] at ran
    exact yields_completes encodes named ran
  · rename_i outside
    rw [if_neg outside] at ran
    exact yields_refused encodes ran

theorem yields_skipping {name : String} {condition : Bool} {holds : Prop} [Decidable holds]
    (encodes : instruction.Encodes word) (named : instruction.mnemonic = name)
    (ran : instruction.execute machine = skipIf condition machine)
    (same : condition = true ↔ holds) :
    machine.Yields word (machine.skipping name holds) := by
  rw [skipIf_apply] at ran
  unfold skipping
  split
  · rename_i holding
    rw [if_pos (same.mpr holding)] at ran
    exact yields_going encodes named ran
  · rename_i failing
    rw [if_neg (fun set => failing (same.mp set))] at ran
    exact yields_completes encodes named ran

/-- Every row of the table tells what its word does. -/
theorem yields_of_table {outcome : Outcome} (row : Table machine word outcome) :
    machine.Yields word outcome := by
  cases row with
  | cls => exact yields_completes (by rfl) (by rfl) (Instruction.execute_clear machine)
  | ret stack =>
      have ran := Instruction.execute_ret machine
      rw [stack] at ran
      exact yields_completes (by rfl) (by rfl) ran
  | retEmpty empty =>
      have failed := Instruction.execute_ret machine
      rw [empty] at failed
      exact yields_refused (by rfl) failed
  | jp nnn => exact yields_completes (by rfl) (by rfl) (Instruction.execute_jump machine nnn)
  | call nnn room =>
      have ran := Instruction.execute_call machine nnn
      rw [if_pos room] at ran
      exact yields_completes (by rfl) (by rfl) ran
  | callFull nnn full =>
      have failed := Instruction.execute_call machine nnn
      rw [if_neg (Int.not_lt.mpr full)] at failed
      exact yields_refused (by rfl) failed
  | seByte x kk =>
      exact yields_skipping (by rfl) (by rfl) (Instruction.execute_skipIfByte machine x kk)
        (by simp [content, UInt8.toNat_inj])
  | sneByte x kk =>
      exact yields_skipping (by rfl) (by rfl) (Instruction.execute_skipUnlessByte machine x kk)
        (by simp [content, UInt8.toNat_inj])
  | se x y free =>
      exact yields_skipping (by exact ⟨free, rfl⟩) (by rfl)
        (Instruction.execute_skipIfEqual machine x y) (by simp [content, UInt8.toNat_inj])
  | sne x y free =>
      exact yields_skipping (by exact ⟨free, rfl⟩) (by rfl)
        (Instruction.execute_skipUnlessEqual machine x y) (by simp [content, UInt8.toNat_inj])
  | ldByte x kk assigns =>
      exact yields_computed (by rfl) (by rfl) (Instruction.loadByte_computes machine x kk) assigns
  | addByte x kk assigns =>
      exact yields_computed (by rfl) (by rfl) (Instruction.addByte_computes machine x kk) assigns
  | ld x y assigns =>
      exact yields_computed (by rfl) (by rfl) (Instruction.copy_computes machine x y) assigns
  | or x y assigns =>
      exact yields_computed (by rfl) (by rfl) (Instruction.bitOr_computes machine x y) assigns
  | and x y assigns =>
      exact yields_computed (by rfl) (by rfl) (Instruction.bitAnd_computes machine x y) assigns
  | xor x y assigns =>
      exact yields_computed (by rfl) (by rfl) (Instruction.bitXor_computes machine x y) assigns
  | add x y assigns =>
      exact yields_computed (by rfl) (by rfl) (Instruction.add_computes machine x y) assigns
  | sub x y assigns =>
      exact yields_computed (by rfl) (by rfl) (Instruction.subtract_computes machine x y) assigns
  | shr x free assigns =>
      exact yields_computed (by exact ⟨free, rfl⟩) (by rfl)
        (Instruction.shiftRight_computes machine x) assigns
  | subn x y assigns =>
      exact yields_computed (by rfl) (by rfl) (Instruction.subtractFrom_computes machine x y) assigns
  | shl x free assigns =>
      exact yields_computed (by exact ⟨free, rfl⟩) (by rfl)
        (Instruction.shiftLeft_computes machine x) assigns
  | ldIndex nnn =>
      exact yields_completes (by rfl) (by rfl) (Instruction.execute_loadIndex machine nnn)
  | jpOffset nnn =>
      have low : 0 ≤ (nnn.val : Int) + machine.content Register.offset := by omega
      have ran := Instruction.execute_jumpOffset machine nnn
      refine yields_going (by rfl) (by rfl) (ran.trans ?_)
      simp only [low, true_and]
      rfl
  | rnd x kk assigns =>
      have drawn := @assigns_put { machine with generator := machine.generator.nextByte.2 }
        x (machine.generator.nextByte.1 &&& kk)
      rw [UInt8.toNat_and] at drawn
      rw [assigns.unique drawn]
      exact yields_completes (by rfl) (by rfl) (Instruction.execute_random machine x kk)
  | unlisted low high unlisted =>
      have unknown := (Instruction.ofWord?_eq_none_iff low high).mpr unlisted
      apply Yields.refused
      rw [execute_apply, Operation.decode_apply, if_pos ⟨low, high⟩, unknown]
  | outside outside =>
      apply Yields.refused
      rw [execute_apply, Operation.decode_apply, if_neg outside]

/-- Every word of an instruction has a row, unless it draws a sprite. -/
theorem exists_row_of_encodes (encodes : instruction.Encodes word)
    (spriteless : ¬ (0xD000 ≤ word ∧ word ≤ 0xDFFF)) : ∃ outcome, Table machine word outcome := by
  cases instruction with
  | clear =>
      subst encodes
      exact ⟨_, .cls⟩
  | ret =>
      subst encodes
      cases stack : machine.state.stack with
      | nil => exact ⟨_, .retEmpty stack⟩
      | cons address rest => exact ⟨_, .ret stack⟩
  | jump target =>
      subst encodes
      exact ⟨_, .jp target⟩
  | call target =>
      subst encodes
      by_cases room : (machine.state.sp : Int) < machine.state.stackLimit
      · exact ⟨_, .call target room⟩
      · exact ⟨_, .callFull target (Int.not_lt.mp room)⟩
  | skipIfByte x byte =>
      subst encodes
      exact ⟨_, .seByte x byte⟩
  | skipUnlessByte x byte =>
      subst encodes
      exact ⟨_, .sneByte x byte⟩
  | skipIfEqual x y =>
      obtain ⟨free, rfl⟩ := encodes
      exact ⟨_, .se x y free⟩
  | skipUnlessEqual x y =>
      obtain ⟨free, rfl⟩ := encodes
      exact ⟨_, .sne x y free⟩
  | loadByte x byte =>
      subst encodes
      obtain ⟨_, _, assigns⟩ := Instruction.loadByte_computes machine x byte
      exact ⟨_, .ldByte x byte assigns⟩
  | addByte x byte =>
      subst encodes
      obtain ⟨_, _, assigns⟩ := Instruction.addByte_computes machine x byte
      exact ⟨_, .addByte x byte assigns⟩
  | copy x y =>
      subst encodes
      obtain ⟨_, _, assigns⟩ := Instruction.copy_computes machine x y
      exact ⟨_, .ld x y assigns⟩
  | bitOr x y =>
      subst encodes
      obtain ⟨_, _, assigns⟩ := Instruction.bitOr_computes machine x y
      exact ⟨_, .or x y assigns⟩
  | bitAnd x y =>
      subst encodes
      obtain ⟨_, _, assigns⟩ := Instruction.bitAnd_computes machine x y
      exact ⟨_, .and x y assigns⟩
  | bitXor x y =>
      subst encodes
      obtain ⟨_, _, assigns⟩ := Instruction.bitXor_computes machine x y
      exact ⟨_, .xor x y assigns⟩
  | add x y =>
      subst encodes
      obtain ⟨_, _, assigns⟩ := Instruction.add_computes machine x y
      exact ⟨_, .add x y assigns⟩
  | subtract x y =>
      subst encodes
      obtain ⟨_, _, assigns⟩ := Instruction.subtract_computes machine x y
      exact ⟨_, .sub x y assigns⟩
  | shiftRight x =>
      obtain ⟨free, rfl⟩ := encodes
      obtain ⟨_, _, assigns⟩ := Instruction.shiftRight_computes machine x
      exact ⟨_, .shr x free assigns⟩
  | subtractFrom x y =>
      subst encodes
      obtain ⟨_, _, assigns⟩ := Instruction.subtractFrom_computes machine x y
      exact ⟨_, .subn x y assigns⟩
  | shiftLeft x =>
      obtain ⟨free, rfl⟩ := encodes
      obtain ⟨_, _, assigns⟩ := Instruction.shiftLeft_computes machine x
      exact ⟨_, .shl x free assigns⟩
  | loadIndex address =>
      subst encodes
      exact ⟨_, .ldIndex address⟩
  | jumpOffset address =>
      subst encodes
      exact ⟨_, .jpOffset address⟩
  | random x mask =>
      subst encodes
      have assigns := @assigns_put { machine with generator := machine.generator.nextByte.2 }
        x (machine.generator.nextByte.1 &&& mask)
      rw [UInt8.toNat_and] at assigns
      exact ⟨_, .rnd x mask assigns⟩
  | draw x y rows =>
      simp only [Instruction.Encodes] at encodes
      omega

/-- The table is complete: apart from the drawing of sprites, every number has a row. -/
theorem exists_row (machine : Machine) (word : Int)
    (spriteless : ¬ (0xD000 ≤ word ∧ word ≤ 0xDFFF)) : ∃ outcome, Table machine word outcome := by
  by_cases inside : 0 ≤ word ∧ word ≤ 0xFFFF
  · cases decoded : Instruction.ofWord? word with
    | none =>
        have unlisted := (Instruction.ofWord?_eq_none_iff inside.1 inside.2).mp decoded
        exact ⟨_, .unlisted inside.1 inside.2 unlisted⟩
    | some instruction =>
        have encodes := Instruction.encodes_of_ofWord? inside.1 inside.2 decoded
        exact exists_row_of_encodes encodes spriteless
  · exact ⟨_, .outside inside⟩

theorem Yields.unique {first second : Outcome} (left : machine.Yields word first)
    (right : machine.Yields word second) : first = second := by
  cases left with
  | completes ran opcode =>
      cases right with
      | completes ran' opcode' =>
          rw [ran] at ran'
          cases ran'
          rfl
      | refused failed => rw [ran] at failed; cases failed
  | refused failed =>
      cases right with
      | completes ran opcode => rw [failed] at ran; cases ran
      | refused failed' =>
          rw [failed] at failed'
          cases failed'
          rfl

/-- Every word but those that draw sprites has a row in the table and does what the row says, and
nothing else; a word that decodes never meets an operation without an instruction. -/
theorem yields_iff_table (machine : Machine) (word : Int) :
    (¬ (0xD000 ≤ word ∧ word ≤ 0xDFFF) →
      (∃ outcome, Table machine word outcome) ∧
        ∀ outcome, machine.Yields word outcome ↔ Table machine word outcome) ∧
    ∀ operation, Operation.decode word = .ok operation →
      ∃ instruction, operation.instruction? = some instruction := by
  refine ⟨fun spriteless => ⟨exists_row machine word spriteless, fun outcome => ?_⟩, ?_⟩
  · refine ⟨fun yields => ?_, yields_of_table⟩
    obtain ⟨tabled, row⟩ := exists_row machine word spriteless
    rw [yields.unique (yields_of_table row)]
    exact row
  · intro operation decoded
    obtain ⟨instruction, encodes, rfl⟩ := Operation.exists_encodes_of_decode decoded
    exact ⟨instruction, Operation.instruction?_ofInstruction encodes⟩

/-- Where VF is added to, the carry stays in it and not the sum. -/
theorem yields_iff_table_carry_in_target :
    let machine : Machine :=
      { state := { v := (Vector.replicate 16 0).set 15 200 |>.set 1 100 }
        bus := {}, generator := ⟨Vector.replicate 624 0, 0⟩, drawPolicy := .wrap
        startAddress := 0x200, stackLimit := 16, cycleCount := 0 }
    ¬ (0xD000 ≤ (0x8F14 : Int) ∧ (0x8F14 : Int) ≤ 0xDFFF) ∧
      ∃ after, machine.Yields 0x8F14 (.completes "ADD" after) ∧
        after.content Register.flag = 1 := by
  intro machine
  have spriteless : ¬ (0xD000 ≤ (0x8F14 : Int) ∧ (0x8F14 : Int) ≤ 0xDFFF) := by decide
  obtain ⟨after, _, assigns⟩ := Instruction.add_computes machine Register.flag 1
  have row : Table machine 0x8F14 (.completes "ADD" after) := .add Register.flag 1 assigns
  refine ⟨spriteless, after, (((yields_iff_table machine 0x8F14).1 spriteless).2 _).mpr row, ?_⟩
  rw [assigns.numbers]
  rfl

end Machine

end Chip8
