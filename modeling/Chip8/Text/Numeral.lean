import Chip8.Text.Blank
import Chip8.Text.Digit
import Chip8.Text.Quoted

/-!
Reading whole numbers: blanks, a sign, digits with single underscores between them, blanks. In a base
that is a power of two the digits may follow the mark of the base, such as `0x`. A decimal numeral may
have 4300 digits at most, and a number with more can be held but not shown.
-/

namespace Chip8

/-- The most digits a decimal numeral may have. -/
def digitLimit : Nat := 4300

inductive NumeralError where
  | malformed (base : Nat) (text : Text)
  | tooManyDigits (count : Nat)
  | tooLargeToShow
  deriving DecidableEq, Repr

/-- A malformed text is quoted up to 200 characters. -/
def NumeralError.message : NumeralError → String
  | malformed base text =>
      s!"invalid literal for int() with base {base}: " ++ String.ofList ((quoted text).toList.take 200)
  | tooManyDigits count =>
      s!"Exceeds the limit ({digitLimit} digits) for integer string conversion: " ++
        s!"value has {count} digits; use sys.set_int_max_str_digits() to increase the limit"
  | tooLargeToShow =>
      s!"Exceeds the limit ({digitLimit} digits) for integer string conversion; " ++
        "use sys.set_int_max_str_digits() to increase the limit"

/-- The value of a digit of the given base. -/
def baseDigit? (base : Nat) (character : Char) : Option Nat :=
  (digitValue? character).filter (· < base)

/-- The value of a hexadecimal digit among the first 128 characters. -/
def hexDigit? (character : Char) : Option Nat :=
  if character.toNat < 0x80 then baseDigit? 16 character else none

/-- The digits at the front of a text, and the rest. An underscore has to stand before a digit. -/
def digitRun (base : Nat) : List Char → Option (List Nat × List Char)
  | [] => some ([], [])
  | '_' :: [] => none
  | '_' :: character :: rest => do
      let digit ← baseDigit? base character
      let (digits, left) ← digitRun base rest
      return (digit :: digits, left)
  | character :: rest =>
      match baseDigit? base character with
      | some digit => do
          let (digits, left) ← digitRun base rest
          return (digit :: digits, left)
      | none => some ([], character :: rest)

/-- The number that digits stand for, most significant first. -/
def ofDigits (base : Nat) (digits : List Nat) : Nat :=
  digits.foldl (fun value digit => value * base + digit) 0

theorem ofDigits_hexDigits (number : Nat) : ofDigits 16 (hexDigits number) = number := by
  fun_induction hexDigits number with
  | case1 number small => simp [ofDigits]
  | case2 number large ih =>
      simp only [ofDigits, List.foldl_append, List.foldl_cons, List.foldl_nil] at ih ⊢
      omega

/-- The letter in the mark of a base, in lower case. -/
def baseLetter? : Nat → Option Char
  | 16 => some 'x'
  | 8 => some 'o'
  | 2 => some 'b'
  | _ => none

/-- Passes over the mark of the base, together with one underscore after it. -/
def skipBaseMark (base : Nat) : List Char → List Char
  | '0' :: letter :: rest =>
      if some letter.toLower = baseLetter? base then
        match rest with
        | '_' :: digits => digits
        | digits => digits
      else '0' :: letter :: rest
  | text => text

/-- Takes a sign off the front. -/
def splitSign : List Char → Bool × List Char
  | '-' :: rest => (true, rest)
  | '+' :: rest => (false, rest)
  | text => (false, text)

/-- Reads a whole number in a base. -/
def readInteger (base : Nat) (text : Text) : Except NumeralError Int :=
  let (negative, unsigned) := splitSign (text.plain.dropWhile isBlank)
  let body := skipBaseMark base unsigned
  match if body.head? = some '_' then none else digitRun base body with
  | none => .error (.malformed base text)
  | some (digits, rest) =>
      if base = 10 ∧ digitLimit < digits.length then .error (.tooManyDigits digits.length)
      else if digits.isEmpty || !rest.all isBlank then .error (.malformed base text)
      else
        let size : Int := ofDigits base digits
        .ok (if negative then -size else size)

/-- Whether a number has few enough digits to be shown. -/
def canShow (number : Int) : Bool := decide (number.natAbs < Nat.pow 10 digitLimit)

end Chip8
