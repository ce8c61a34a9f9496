import Chip8.Proofs.Writing
import Mathlib.Algebra.Ring.Nat

/-!
Numbers in reports are numerals. A number that is not negative is written in base sixteen as a numeral
of that number, whatever the width it is padded to, so the text of a number leads back to the number.
-/

namespace Chip8

theorem Numeral.unique {base : Nat} {characters : List Char} {number other : Nat}
    (numeral : Numeral base characters number) (another : Numeral base characters other) :
    number = other := by
  have ends : Chip8.digitRun base [] = some ([], []) := rfl
  obtain ⟨digits, run, value, _⟩ := numeral.digitRun ends
  obtain ⟨digits', run', value', _⟩ := another.digitRun ends
  rw [run, List.append_nil, List.append_nil] at run'
  cases run'
  exact value.symm.trans value'

theorem isDigit_hexChar {digit : Nat} (small : digit < 16) : IsDigit (hexChar 'A' digit) digit := by
  have table : ∀ place : Fin 16, "0123456789ABCDEF".toList[place.val]? = some (hexChar 'A' place) := by
    decide
  exact .inr (table ⟨digit, small⟩)

theorem numeral_zeros (count : Nat) : Numeral 16 (List.replicate (count + 1) '0') 0 := by
  have zero : IsDigit '0' 0 := .inl rfl
  induction count with
  | zero => exact .single zero (by omega)
  | succ count ih =>
      rw [List.replicate_succ']
      exact .append ih zero (by omega)

/-- Zeros in front of the digits of a number do not change it. -/
theorem numeral_hexDigits (zeros number : Nat) :
    Numeral 16 (List.replicate zeros '0' ++ (hexDigits number).map (hexChar 'A')) number := by
  fun_induction hexDigits number with
  | case1 number small =>
      cases zeros with
      | zero => exact .single (isDigit_hexChar small) small
      | succ zeros =>
          have grown := (numeral_zeros zeros).append (isDigit_hexChar small) small
          rwa [Nat.zero_mul, Nat.zero_add] at grown
  | case2 number large ih =>
      have last : number % 16 < 16 := Nat.mod_lt _ (by omega)
      have grown := ih.append (isDigit_hexChar last) last
      rw [Nat.mul_comm, Nat.div_add_mod] at grown
      rwa [List.map_append, ← List.append_assoc]

theorem toList_upperHex (width number : Nat) :
    (upperHex width number).toList =
      List.replicate (width - (hexDigits number).length) '0' ++
        (hexDigits number).map (hexChar 'A') := by
  have natural : ¬ (number : Int) < 0 := by omega
  simp [upperHex, paddedHex, natural]

theorem numeral_upperHex (width number : Nat) :
    Numeral 16 (upperHex width number).toList number := by
  rw [toList_upperHex]
  exact numeral_hexDigits _ number

/-- A number can be told from its text. -/
theorem upperHex_injective {width width' number number' : Nat}
    (same : upperHex width number = upperHex width' number') : number = number' := by
  have numeral := numeral_upperHex width number
  rw [same] at numeral
  exact numeral.unique (numeral_upperHex width' number')

/-- A number of either sign is a numeral behind its sign. -/
theorem signed_upperHex (width : Nat) (value : Int) :
    ∃ sign factor digits, (upperHex width value).toList = sign ++ digits ∧ (sign, factor) ∈ signs ∧
      Numeral 16 digits value.natAbs ∧ factor * value.natAbs = value := by
  by_cases negative : value < 0
  · refine ⟨['-'], -1, _, ?_, by simp [signs],
      numeral_hexDigits (width - (1 + (hexDigits value.natAbs).length)) value.natAbs, by omega⟩
    simp [upperHex, paddedHex, negative]
  · refine ⟨[], 1, _, ?_, by simp [signs],
      numeral_hexDigits (width - (hexDigits value.natAbs).length) value.natAbs, by omega⟩
    simp [upperHex, paddedHex, negative]

/-- No digit is taken for the mark of the base. -/
theorem Numeral.skipBaseMark {digits : List Char} {number : Nat} (numeral : Numeral 16 digits number) :
    Chip8.skipBaseMark 16 digits = digits := by
  unfold Chip8.skipBaseMark
  split
  · rename_i letter rest
    obtain ⟨digit, isDigit⟩ := numeral.isDigit letter (by simp)
    have unmarked : some letter.toLower ≠ baseLetter? 16 :=
      isDigit.of_table (fun character _ => some character.toLower ≠ baseLetter? 16) (by decide) (by decide)
    rw [if_neg unmarked]
  · rfl

/-- A number is read back from its text, whatever its sign and size. -/
theorem readInteger_upperHex (width : Nat) (value : Int) :
    readInteger 16 (.ofChars (upperHex width value).toList) = .ok value := by
  obtain ⟨sign, factor, digits, text, signed, numeral, size⟩ := signed_upperHex width value
  obtain ⟨character, rest, filled⟩ := List.exists_cons_of_ne_nil numeral.ne_nil
  obtain ⟨digit, isDigit⟩ := numeral.isDigit character (by simp [filled])
  obtain ⟨negative, split, sized⟩ := isDigit.splitSign signed rest
  have body : skipBaseMark 16 digits = digits ++ [] := by rw [numeral.skipBaseMark, List.append_nil]
  rw [← filled] at split
  rw [text, readInteger_numeral (by rwa [Text.plain_ofChars]) body numeral (by simp) (by simp), sized, size]

theorem length_hexDigits {width number : Nat} (small : number < 16 ^ (width + 1)) :
    (hexDigits number).length ≤ width + 1 := by
  induction width generalizing number with
  | zero =>
      rw [hexDigits, if_pos (by omega)]
      exact Nat.le_refl 1
  | succ width ih =>
      rw [hexDigits]
      split
      · exact Nat.succ_le_succ (Nat.zero_le _)
      · have front := @ih (number / 16) (by omega)
        simp only [List.length_append, List.length_singleton]
        omega

/-- A number that fits into the width takes exactly the width. -/
theorem length_upperHex (width : Nat) {number : Nat} (small : number < 16 ^ (width + 1)) :
    (upperHex (width + 1) number).toList.length = width + 1 := by
  have short := length_hexDigits small
  simp only [toList_upperHex, List.length_append, List.length_replicate, List.length_map]
  omega

end Chip8
