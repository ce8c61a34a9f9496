import Chip8.Decimal.Rounding
import Chip8.Decimal.Shortest
import Chip8.Text.Numeral

/-!
Floating point numbers as text. `floatText` writes the fewest digits that read back, with a point from
10⁻⁴ up to 10¹⁶ and with an exponent beyond; `readFloat?` reads decimals with or without an exponent.
-/

namespace Chip8

/-- How the digits of a decimal are laid out. -/
structure DecimalLayout where
  /-- The lowest and the highest position of the point that is written without an exponent. -/
  lowestPoint : Int
  highestPoint : Int
  /-- The least number of digits of an exponent. -/
  exponentDigits : Nat
  deriving DecidableEq, Repr

/-- Numbers below 10⁻⁴ and from 10¹⁶ on have an exponent of two digits at least. -/
def plainLayout : DecimalLayout := ⟨-3, 16, 2⟩

theorem ofDigits_decimalDigits (number : Nat) : ofDigits 10 (decimalDigits number) = number := by
  fun_induction decimalDigits number with
  | case1 number small => simp [ofDigits]
  | case2 number large ih =>
      simp only [ofDigits, List.foldl_append, List.foldl_cons, List.foldl_nil] at ih ⊢
      omega

def digitText (digits : List Nat) : String :=
  String.ofList (digits.map fun digit => Char.ofNat ('0'.toNat + digit))

/-- Digits in their layout. A number without a fraction keeps one zero after the point, unless it has
an exponent. -/
def DecimalLayout.render (layout : DecimalLayout) (decimal : DecimalDigits) : String :=
  let count : Int := decimal.digits.length
  let zeros := fun (number : Int) => String.ofList (List.replicate number.toNat '0')
  if layout.lowestPoint ≤ decimal.point ∧ decimal.point ≤ layout.highestPoint then
    if decimal.point ≤ 0 then "0." ++ zeros (-decimal.point) ++ digitText decimal.digits
    else if count ≤ decimal.point then
      digitText decimal.digits ++ zeros (decimal.point - count) ++ ".0"
    else
      digitText (decimal.digits.take decimal.point.toNat) ++ "." ++
        digitText (decimal.digits.drop decimal.point.toNat)
  else
    let exponent := decimal.point - 1
    let size := digitText (decimalDigits exponent.natAbs)
    let fraction := digitText (decimal.digits.drop 1)
    digitText (decimal.digits.take 1) ++ (if fraction.isEmpty then "" else "." ++ fraction) ++ "e" ++
      (if exponent < 0 then "-" else "+") ++ zeros (layout.exponentDigits - size.length) ++ size

/-- The text of a floating point number. -/
def floatText (value : Float) : String :=
  let bits := value.toBits.toNat
  let sign := if bits >>> 63 = 1 then "-" else ""
  let field := (bits >>> 52) % 2048
  let fraction := bits % (1 <<< 52)
  if field = 2047 then if fraction = 0 then sign ++ "inf" else "nan"
  else if field = 0 ∧ fraction = 0 then sign ++ "0.0"
  else
    let binary : Binary := {
      mantissa := if field = 0 then fraction else fraction + (1 <<< 52)
      exponent := (max field 1 : Nat) - 1075
      narrow := fraction == 0 && 1 < field }
    sign ++ plainLayout.render binary.shortest

/-- Digits of any script, with single underscores between them; at least none. -/
def floatDigits (text : List Char) : Option (List Nat × List Char) :=
  if text.head? = some '_' then none else digitRun 10 text

/-- Reads an exponent with its sign. -/
def readExponent? (text : List Char) : Option (Int × List Char) := do
  let (negative, unsigned) := splitSign text
  let (digits, rest) ← floatDigits unsigned
  if digits.isEmpty then none
  else
    let size : Int := ofDigits 10 digits
    return (if negative then -size else size, rest)

/-- Reads a decimal without sign. -/
def readDecimal? (text : List Char) : Option Float := do
  let (whole, rest) ← floatDigits text
  let (fraction, rest) ←
    match rest with
    | '.' :: rest => floatDigits rest
    | rest => some ([], rest)
  if whole.isEmpty && fraction.isEmpty then none
  else
    let (exponent, rest) ←
      match rest with
      | 'e' :: rest | 'E' :: rest => readExponent? rest
      | rest => some (0, rest)
    if rest.isEmpty then
      some (scaledFloat (ofDigits 10 (whole ++ fraction)) (exponent - fraction.length))
    else none

/-- Reads a floating point number: a decimal, an infinity or `nan`, with a sign and blanks around. -/
def readFloat? (text : List Char) : Option Float := do
  let trimmed := ((text.dropWhile isBlank).reverse.dropWhile isBlank).reverse
  let (negative, unsigned) := splitSign trimmed
  let size ←
    match String.ofList (unsigned.map Char.toLower) with
    | "inf" | "infinity" => some (1.0 / 0.0)
    | "nan" => some (0.0 / 0.0)
    | _ => readDecimal? unsigned
  return if negative then -size else size

end Chip8
