import Chip8.Settings.Reading

/-!
The ways to write a whole number or a name in a document. Numerals are defined here without the reader:
digit by digit, from the most significant one on. Every way to write a number is then read as that number,
and a name is found whatever the case of its letters.
-/

namespace Chip8

def IsDigit (character : Char) (digit : Nat) : Prop :=
  "0123456789abcdef".toList[digit]? = some character ∨
    "0123456789ABCDEF".toList[digit]? = some character

/-- The numerals of a base of at most sixteen with the numbers that they stand for. -/
inductive Numeral (base : Nat) : List Char → Nat → Prop
  | single {character : Char} {digit : Nat} (isDigit : IsDigit character digit) (small : digit < base) :
      Numeral base [character] digit
  | append {characters : List Char} {number : Nat} {character : Char} {digit : Nat}
      (front : Numeral base characters number) (isDigit : IsDigit character digit)
      (small : digit < base) :
      Numeral base (characters ++ [character]) (number * base + digit)

/-- The signs of a decimal numeral with the factors that they stand for. -/
def signs : List (List Char × Int) := [([], 1), (['+'], 1), (['-'], -1)]

/-- The values that a whole number can be written as. -/
inductive Writes : Int → Value → Prop
  | native {number : Int} : Writes number (.int number)
  | decimal {before sign digits after : List Char} {factor : Int} {size : Nat}
      (whiteBefore : ∀ character ∈ before, character.isWhitespace = true)
      (signed : (sign, factor) ∈ signs)
      (numeral : Numeral 10 digits size)
      (short : digits.length ≤ 4300)
      (whiteAfter : ∀ character ∈ after, character.isWhitespace = true) :
      Writes (factor * size) (.text (.ofChars (before ++ sign ++ digits ++ after)))
  | hexadecimal {mark : Char} {digits : List Char} {size : Nat}
      (marked : mark = 'x' ∨ mark = 'X')
      (numeral : Numeral 16 digits size) :
      Writes size (.text (.ofChars ('0' :: mark :: digits)))

/-! ## Numerals -/

namespace IsDigit

variable {character : Char} {digit : Nat}

theorem of_table (isDigit : IsDigit character digit) (good : Char → Nat → Prop)
    (small : ∀ place : Fin 16, good "0123456789abcdef".toList[place] place)
    (large : ∀ place : Fin 16, good "0123456789ABCDEF".toList[place] place) : good character digit := by
  rcases isDigit with found | found
  · obtain ⟨inside, rfl⟩ := List.getElem?_eq_some_iff.mp found
    exact small ⟨digit, inside⟩
  · obtain ⟨inside, rfl⟩ := List.getElem?_eq_some_iff.mp found
    exact large ⟨digit, inside⟩

theorem value (isDigit : IsDigit character digit) : digitValue? character = some digit := by
  apply isDigit.of_table fun character digit => digitValue? character = some digit
  · decide
  · decide

theorem baseDigit (isDigit : IsDigit character digit) {base : Nat} (small : digit < base) :
    baseDigit? base character = some digit := by
  rw [baseDigit?, isDigit.value, Option.filter_some, if_pos (decide_eq_true small)]

/-- A digit is none of the characters with a meaning of their own. -/
theorem plain (isDigit : IsDigit character digit) :
    isBlank character = false ∧ character ∉ ['_', '-', '+', 'x', 'X'] := by
  apply isDigit.of_table fun character _ =>
    isBlank character = false ∧ character ∉ ['_', '-', '+', 'x', 'X']
  · decide
  · decide

theorem digitRun (isDigit : IsDigit character digit) {base : Nat} (small : digit < base)
    {rest left : List Char} {digits : List Nat} (run : Chip8.digitRun base rest = some (digits, left)) :
    Chip8.digitRun base (character :: rest) = some (digit :: digits, left) := by
  have other : character ≠ '_' := fun same => isDigit.plain.2 (by simp [same])
  rw [Chip8.digitRun]
  · rw [isDigit.baseDigit small, run]
    rfl
  · simp [other]
  · simp [other]

end IsDigit

namespace Numeral

variable {base : Nat} {characters : List Char} {number : Nat}

theorem isDigit (numeral : Numeral base characters number) :
    ∀ character ∈ characters, ∃ digit, IsDigit character digit := by
  induction numeral with
  | single isDigit small => simpa using ⟨_, isDigit⟩
  | append front isDigit small ih =>
      intro character member
      rcases List.mem_append.mp member with earlier | last
      · exact ih character earlier
      · rw [List.mem_singleton.mp last]
        exact ⟨_, isDigit⟩

theorem ne_nil (numeral : Numeral base characters number) : characters ≠ [] := by
  cases numeral <;> simp

theorem digitRun (numeral : Numeral base characters number) {rest left : List Char} {following : List Nat}
    (run : Chip8.digitRun base rest = some (following, left)) :
    ∃ digits, Chip8.digitRun base (characters ++ rest) = some (digits ++ following, left) ∧
      ofDigits base digits = number ∧ digits.length = characters.length := by
  induction numeral generalizing rest following with
  | @single character digit isDigit small =>
      refine ⟨[digit], isDigit.digitRun small run, ?_, rfl⟩
      simp [ofDigits]
  | @append characters number character digit front isDigit small ih =>
      obtain ⟨digits, ran, same, count⟩ := ih (isDigit.digitRun small run)
      refine ⟨digits ++ [digit], ?_, ?_, ?_⟩
      · simpa using ran
      · rw [ofDigits, List.foldl_append, ← ofDigits, same]
        rfl
      · simp [count]

/-- White space ends a run of digits. -/
theorem digitRun_white (base : Nat) {rest : List Char}
    (white : ∀ character ∈ rest, character.isWhitespace = true) :
    Chip8.digitRun base rest = some ([], rest) := by
  cases rest with
  | nil => rfl
  | cons character rest =>
      have blank := white character List.mem_cons_self
      simp only [Char.isWhitespace, Bool.or_eq_true, decide_eq_true_eq] at blank
      have none : digitValue? character = none := by
        rcases blank with ((rfl | rfl) | rfl) | rfl <;> decide
      have other : character ≠ '_' := by
        rintro rfl
        simp at blank
      rw [Chip8.digitRun]
      · simp [baseDigit?, none]
      · simp [other]
      · simp [other]

theorem digitRun_white_after (numeral : Numeral base characters number) {after : List Char}
    (white : ∀ character ∈ after, character.isWhitespace = true) :
    ∃ digits, Chip8.digitRun base (characters ++ after) = some (digits, after) ∧
      ofDigits base digits = number ∧ digits.length = characters.length := by
  obtain ⟨digits, ran, same, count⟩ := numeral.digitRun (digitRun_white base white)
  rw [List.append_nil] at ran
  exact ⟨digits, ran, same, count⟩

end Numeral

/-! ## Whole numbers -/

/-- What stands between the sign and the end of a text is read as the number of its numeral. -/
theorem readInteger_numeral {base size : Nat} {text : Text} {negative : Bool}
    {unsigned digits after : List Char}
    (split : splitSign (text.plain.dropWhile isBlank) = (negative, unsigned))
    (body : skipBaseMark base unsigned = digits ++ after)
    (numeral : Numeral base digits size)
    (short : base = 10 → digits.length ≤ 4300)
    (white : ∀ character ∈ after, character.isWhitespace = true) :
    readInteger base text = .ok (if negative then -size else size) := by
  obtain ⟨values, ran, same, count⟩ := numeral.digitRun_white_after white
  have unmarked : (digits ++ after).head? ≠ some '_' := by
    obtain ⟨character, rest, rfl⟩ := List.exists_cons_of_ne_nil numeral.ne_nil
    obtain ⟨digit, isDigit⟩ := numeral.isDigit character List.mem_cons_self
    intro same
    cases same
    exact isDigit.plain.2 (by simp)
  have fits : ¬ (base = 10 ∧ digitLimit < values.length) := by
    rintro ⟨decimal, long⟩
    have bound := short decimal
    simp only [digitLimit] at long
    omega
  have readable : (values.isEmpty || !after.all isBlank) = false := by
    have filled : values ≠ [] := by
      rw [← List.length_pos_iff, count, List.length_pos_iff]
      exact numeral.ne_nil
    have blank : after.all isBlank = true :=
      List.all_eq_true.mpr fun character member => isBlank_of_isWhitespace (white character member)
    simp [filled, blank]
  rw [readInteger, split]
  dsimp only
  rw [body, if_neg unmarked, ran]
  dsimp only
  rw [if_neg fits, readable, same]
  rfl

theorem IsDigit.splitSign {character : Char} {digit : Nat} (isDigit : IsDigit character digit)
    {sign : List Char} {factor : Int} (signed : (sign, factor) ∈ signs) (rest : List Char) :
    ∃ negative, Chip8.splitSign ((sign ++ character :: rest).dropWhile isBlank) =
        (negative, character :: rest) ∧
      ∀ size : Int, (if negative then -size else size) = factor * size := by
  obtain ⟨filled, special⟩ := isDigit.plain
  simp only [List.mem_cons, not_or] at special
  simp only [signs, List.mem_cons, List.not_mem_nil, or_false, Prod.mk.injEq] at signed
  rcases signed with ⟨rfl, rfl⟩ | ⟨rfl, rfl⟩ | ⟨rfl, rfl⟩
  · refine ⟨false, ?_, by simp⟩
    simp [Chip8.splitSign, filled, special]
  · exact ⟨false, rfl, by simp⟩
  · exact ⟨true, rfl, by simp⟩

theorem skipBaseMark_ten (text : List Char) : skipBaseMark 10 text = text := by
  unfold skipBaseMark
  split
  · simp [baseLetter?]
  · rfl

theorem readInteger_decimal {before sign digits after : List Char} {factor : Int} {size : Nat}
    (whiteBefore : ∀ character ∈ before, character.isWhitespace = true)
    (signed : (sign, factor) ∈ signs)
    (numeral : Numeral 10 digits size)
    (short : digits.length ≤ 4300)
    (whiteAfter : ∀ character ∈ after, character.isWhitespace = true) :
    readInteger 10 (.ofChars (before ++ sign ++ digits ++ after)) = .ok (factor * size) := by
  obtain ⟨character, rest, filled⟩ := List.exists_cons_of_ne_nil numeral.ne_nil
  obtain ⟨digit, isDigit⟩ := numeral.isDigit character (by simp [filled])
  obtain ⟨negative, split, size⟩ := isDigit.splitSign signed (rest ++ after)
  rw [← size]
  apply readInteger_numeral _ (skipBaseMark_ten _) numeral (fun _ => short) whiteAfter
  rw [Text.plain_ofChars, List.append_assoc, List.append_assoc, List.dropWhile_append_of_pos, filled]
  · exact split
  · exact fun character member => isBlank_of_isWhitespace (whiteBefore character member)

theorem readInteger_hexadecimal {mark : Char} {digits : List Char} {size : Nat}
    (marked : mark = 'x' ∨ mark = 'X') (numeral : Numeral 16 digits size) :
    readInteger 16 (.ofChars ('0' :: mark :: digits)) = .ok size := by
  have split : splitSign ((Text.ofChars ('0' :: mark :: digits)).plain.dropWhile isBlank) =
      (false, '0' :: mark :: digits) := by
    rw [Text.plain_ofChars]
    rfl
  have skipped : skipBaseMark 16 ('0' :: mark :: digits) = digits ++ [] := by
    obtain ⟨character, rest, rfl⟩ := List.exists_cons_of_ne_nil numeral.ne_nil
    obtain ⟨digit, isDigit⟩ := numeral.isDigit character List.mem_cons_self
    have lower : some mark.toLower = baseLetter? 16 := by
      rcases marked with rfl | rfl <;> rfl
    have unmarked : character ≠ '_' := fun same => isDigit.plain.2 (by simp [same])
    simp [skipBaseMark, lower, unmarked]
  exact readInteger_numeral split skipped numeral (by simp) (by simp)

theorem hasHexMark_hexadecimal {mark : Char} {digits : List Char} (marked : mark = 'x' ∨ mark = 'X') :
    Settings.hasHexMark (.ofChars ('0' :: mark :: digits)) = true := by
  rw [Settings.hasHexMark, Text.plain_ofChars]
  simpa using marked

theorem hasHexMark_unmarked {characters : List Char}
    (unmarked : ∀ character ∈ characters, character ∉ ['x', 'X']) :
    Settings.hasHexMark (.ofChars characters) = false := by
  rw [Settings.hasHexMark, Text.plain_ofChars]
  split
  · simpa using unmarked _ (List.mem_cons_of_mem _ List.mem_cons_self)
  · rfl

theorem white_unmarked {character : Char} (white : character.isWhitespace = true) :
    character ∉ ['x', 'X'] := by
  intro marked
  simp only [List.mem_cons, List.not_mem_nil, or_false] at marked
  rcases marked with rfl | rfl <;> cases white

theorem sign_unmarked {sign : List Char} {factor : Int} (signed : (sign, factor) ∈ signs) :
    ∀ character ∈ sign, character ∉ ['x', 'X'] := by
  simp only [signs, List.mem_cons, List.not_mem_nil, or_false, Prod.mk.injEq] at signed
  rcases signed with ⟨rfl, _⟩ | ⟨rfl, _⟩ | ⟨rfl, _⟩ <;> simp

/-- No character of a decimal numeral can be taken for the mark of a hexadecimal one. -/
theorem hasHexMark_decimal {before sign digits after : List Char} {factor : Int} {size : Nat}
    (whiteBefore : ∀ character ∈ before, character.isWhitespace = true)
    (signed : (sign, factor) ∈ signs)
    (numeral : Numeral 10 digits size)
    (whiteAfter : ∀ character ∈ after, character.isWhitespace = true) :
    Settings.hasHexMark (.ofChars (before ++ sign ++ digits ++ after)) = false := by
  apply hasHexMark_unmarked
  intro character member
  simp only [List.mem_append] at member
  rcases member with ((inBefore | inSign) | inDigits) | inAfter
  · exact white_unmarked (whiteBefore character inBefore)
  · exact sign_unmarked signed character inSign
  · obtain ⟨digit, isDigit⟩ := numeral.isDigit character inDigits
    exact fun marked => isDigit.plain.2 (List.mem_append_right ['_', '-', '+'] marked)
  · exact white_unmarked (whiteAfter character inAfter)

namespace Writes

variable {number : Int} {value : Value}

theorem wholeNumber (writes : Writes number value) : Settings.wholeNumber value = .ok number := by
  cases writes with
  | native => rfl
  | decimal whiteBefore signed numeral short whiteAfter =>
      rw [Settings.wholeNumber, hasHexMark_decimal whiteBefore signed numeral whiteAfter,
        if_neg Bool.false_ne_true, readInteger_decimal whiteBefore signed numeral short whiteAfter]
      rfl
  | hexadecimal marked numeral =>
      rw [Settings.wholeNumber, hasHexMark_hexadecimal marked, if_pos rfl,
        readInteger_hexadecimal marked numeral]
      rfl

theorem wholeNumber? (writes : Writes number value) :
    Settings.wholeNumber? value = .ok (some number) := by
  have read := writes.wholeNumber
  cases writes with
  | native => rfl
  | decimal | hexadecimal =>
      simp only [Settings.wholeNumber?, read]
      rfl

end Writes

/-! ## Names -/

/-- The values that a name can be written as: its letters in any case. -/
def Spells (name : String) (value : Value) : Prop :=
  ∃ characters : List Char, characters.map Char.toLower = name.toList ∧
    value = .text (.ofChars characters)

/-- Names in small letters that are found again. -/
structure Named {α : Type} (nameOf : α → String) (ofName? : String → Option α) : Prop where
  small : ∀ chosen, (nameOf chosen).toList.all Char.isLower = true
  found : ∀ chosen, ofName? (nameOf chosen) = some chosen

theorem toLower_of_not_capital {character : Char}
    (other : ¬ (0x41 ≤ character.toNat ∧ character.toNat ≤ 0x5A)) : character.toLower = character := by
  unfold Char.toLower
  split
  · rename_i capital
    exact absurd ⟨capital.1, capital.2⟩ other
  · rfl

theorem toNat_of_toLower {character : Char} (ascii : character.toLower.toNat < 128) :
    character.toNat < 128 := by
  by_cases capital : 0x41 ≤ character.toNat ∧ character.toNat ≤ 0x5A
  · omega
  · rwa [toLower_of_not_capital capital] at ascii

theorem small_ascii {character : Char} (small : character.isLower = true) :
    character.toNat < 128 ∧ character.toLower = character := by
  obtain ⟨first, last⟩ := Bool.and_eq_true_iff.mp small
  have low : 0x61 ≤ character.toNat := of_decide_eq_true first
  have high : character.toNat ≤ 0x7A := of_decide_eq_true last
  exact ⟨by omega, toLower_of_not_capital (by omega)⟩

/-- All capital letters but the first range lie beyond the first 128 characters. -/
theorem capitalRanges_beyond : ∀ range ∈ capitalRanges.tail, 128 ≤ range.first := by
  decide +kernel

theorem smallLetter_capital :
    ∀ place : Fin 26, smallLetter (.char (Char.ofNat (0x41 + place))) =
      .char (Char.ofNat (0x41 + place)).toLower := by
  decide

theorem smallLetter_ascii {character : Char} (ascii : character.toNat < 128) :
    smallLetter (.char character) = .char character.toLower := by
  by_cases capital : 0x41 ≤ character.toNat ∧ character.toNat ≤ 0x5A
  · have same := smallLetter_capital ⟨character.toNat - 0x41, by omega⟩
    rw [Nat.add_sub_cancel' capital.1, Char.ofNat_toNat] at same
    exact same
  · have beside : ∀ range ∈ capitalRanges,
        ¬ (range.first ≤ character.toNat ∧ character.toNat ≤ range.last) := by
      intro range member
      change range ∈ ⟨0x41, 0x5a, 1, 32⟩ :: capitalRanges.tail at member
      rcases List.mem_cons.mp member with rfl | later
      · exact capital
      · have far := capitalRanges_beyond range later
        omega
    rw [smallLetter, List.find?_eq_none.mpr, toLower_of_not_capital capital]
    intro range member found
    obtain ⟨low, high⟩ := Bool.and_eq_true_iff.mp (Bool.and_eq_true_iff.mp found).1
    exact beside range member ⟨of_decide_eq_true low, of_decide_eq_true high⟩

theorem lowerCaseAfter_ascii {characters : List Char}
    (ascii : ∀ character ∈ characters, character.toNat < 128) (before : Text) :
    lowerCaseAfter before (.ofChars characters) = .ofChars (characters.map Char.toLower) := by
  induction characters generalizing before with
  | nil => rfl
  | cons character rest ih =>
      have code := ascii character List.mem_cons_self
      have small := smallLetter_ascii code
      have dotted : character ≠ '\u0130' := by
        rintro rfl
        exact absurd code (by decide)
      have sigma : character ≠ 'Σ' := by
        rintro rfl
        exact absurd code (by decide)
      have following := ih (fun other member => ascii other (List.mem_cons_of_mem _ member))
      simp only [Text.ofChars, List.map_cons] at following ⊢
      simp [lowerCaseAfter, dotted, sigma, small, following]

namespace Named

variable {α : Type} {nameOf : α → String} {ofName? : String → Option α} (named : Named nameOf ofName?)
include named

theorem spells_self (chosen : α) : Spells (nameOf chosen) (.text (nameOf chosen)) := by
  have kept : ∀ character ∈ (nameOf chosen).toList, character.toLower = character :=
    fun character member => (small_ascii (List.all_eq_true.mp (named.small chosen) character member)).2
  exact ⟨_, (List.map_congr_left kept).trans (List.map_id' _), rfl⟩

theorem choice {chosen : α} {value : Value} (spells : Spells (nameOf chosen) value) (label : String)
    (choices : List String) : Settings.choice label choices ofName? value = .ok chosen := by
  obtain ⟨characters, same, rfl⟩ := spells
  have ascii : ∀ character ∈ characters, character.toNat < 128 := by
    intro character member
    have listed : character.toLower ∈ (nameOf chosen).toList := same ▸ List.mem_map_of_mem member
    exact toNat_of_toLower (small_ascii (List.all_eq_true.mp (named.small chosen) _ listed)).1
  have lower : (Text.lowerCase (.ofChars characters)).toString = nameOf chosen := by
    rw [Text.lowerCase, lowerCaseAfter_ascii ascii, Text.toString, Text.plain_ofChars, same,
      String.ofList_toList]
  have shown : Settings.show? (.text (.ofChars characters)) = .ok (Text.ofChars characters) := rfl
  simp only [Settings.choice, shown, bind, Except.bind, lower, named.found]
  rfl

end Named

end Chip8
