/-!
Numbers in base sixteen. `hexDigits` gives the digits of a natural number, and the two layouts are
those of the machine's reports: addresses in lower case after `0x`, register contents and instruction
words in upper case. Both pad with zeros on the left and count the minus sign in the width.
-/

namespace Chip8

/-- The digits of a number in base sixteen, most significant first. Zero has the one digit 0. -/
def hexDigits (number : Nat) : List Nat :=
  if number < 16 then [number] else hexDigits (number / 16) ++ [number % 16]

theorem hexDigits_lt (number : Nat) : ∀ digit ∈ hexDigits number, digit < 16 := by
  fun_induction hexDigits number with
  | case1 number small => simpa using small
  | case2 number large ih =>
      intro digit member
      rcases List.mem_append.1 member with front | last
      · exact ih digit front
      · simp only [List.mem_singleton] at last
        omega

/-- The character of one digit; letters start at `ten`. -/
def hexChar (ten : Char) (digit : Nat) : Char :=
  if digit < 10 then Char.ofNat ('0'.toNat + digit) else Char.ofNat (ten.toNat + (digit - 10))

/-- Sign, mark and digits, with zeros after the mark up to the given width. -/
def paddedHex (ten : Char) (mark : List Char) (width : Nat) (value : Int) : List Char :=
  let digits := (hexDigits value.natAbs).map (hexChar ten)
  let front := (if value < 0 then ['-'] else []) ++ mark
  front ++ List.replicate (width - (front.length + digits.length)) '0' ++ digits

/-- An address in a report: lower case after `0x`, six characters at least, such as `0x0200`. -/
def addressText (address : Int) : String :=
  String.ofList (paddedHex 'a' ['0', 'x'] 6 address)

/-- A value in upper case, padded with zeros to the given width, such as `0A`. -/
def upperHex (width : Nat) (value : Int) : String :=
  String.ofList (paddedHex 'A' [] width value)

end Chip8
