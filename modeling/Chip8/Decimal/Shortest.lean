import Chip8.Decimal.Rounding

/-!
The fewest decimal digits that read back as a given double. A double is a whole number `mantissa` times
two to the `exponent`; every decimal strictly between the midpoints to its two neighbours reads back as
it, and so do the midpoints if the mantissa is even. For one digit, two digits and so on up to
seventeen, the two decimals of that length next to the double are tried, the nearer first; of two that
are equally near, the one with the even last digit.
-/

namespace Chip8

/-- A positive double as a whole number times a power of two. -/
structure Binary where
  mantissa : Nat
  exponent : Int
  /-- Whether the next double below is only half as far as the one above. -/
  narrow : Bool
  deriving DecidableEq, Repr

/-- Decimal digits with a point: the value is 0.d₁d₂… times ten to the `point`. -/
structure DecimalDigits where
  digits : List Nat
  point : Int
  deriving DecidableEq, Repr

/-- The digits of a number in base ten, most significant first. -/
def decimalDigits (number : Nat) : List Nat :=
  if number < 10 then [number] else decimalDigits (number / 10) ++ [number % 10]

namespace Binary

/-- The exponent of ten such that the double is below ten to it, but not below a tenth of that. -/
def decimalExponent (value : Binary) : Int :=
  if 0 ≤ value.exponent then (decimalDigits (value.mantissa <<< value.exponent.toNat)).length
  else
    let unit := 1 <<< (-value.exponent).toNat
    if unit ≤ value.mantissa then (decimalDigits (value.mantissa / unit)).length
    else below unit value.mantissa 400
where
  /-- For a fraction below one, counts the factors of ten that bring it to one. -/
  below (unit numerator : Nat) : Nat → Int
    | 0 => 0
    | fuel + 1 => if unit ≤ numerator * 10 then 0 else below unit (numerator * 10) fuel - 1

/-- The decimal with `count` digits nearest to the double, if it reads back as the double. -/
def decimalOfLength? (value : Binary) (count : Nat) : Option DecimalDigits :=
  let top := value.decimalExponent
  let place := top - count
  -- Compared are multiples of a quarter of the last binary place and of the last decimal place.
  let grid := (4 <<< (-value.exponent).toNat) * Nat.pow 10 place.toNat
  let scale := (1 <<< value.exponent.toNat) * Nat.pow 10 (-place).toNat
  let exact := 4 * value.mantissa * scale
  let low := (4 * value.mantissa - (if value.narrow then 1 else 2)) * scale
  let high := (4 * value.mantissa + 2) * scale
  let closed := value.mantissa % 2 == 0
  let inside := fun (candidate : Nat) =>
    if closed then low ≤ candidate * grid && candidate * grid ≤ high
    else low < candidate * grid && candidate * grid < high
  let nearer := roundedQuotient exact grid
  let floor := exact / grid
  let other := if nearer = floor then floor + 1 else floor
  ([nearer, other].find? inside).map fun number =>
    let digits := decimalDigits number
    { digits := (digits.reverse.dropWhile (· == 0)).reverse
      point := place + digits.length }

/-- The shortest decimal that reads back as the double. -/
def shortest (value : Binary) : DecimalDigits :=
  ((List.range 17).findSome? fun shorter => value.decimalOfLength? (shorter + 1)).getD ⟨[0], 1⟩

end Binary

end Chip8
