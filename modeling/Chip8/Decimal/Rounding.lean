/-!
From fractions to floating point. `nearestFloat` gives the double nearest to a quotient of natural
numbers, a tie going to the even one, and `scaledFloat` that of a decimal with an exponent. `floatOfInt?`
and `wholeNumber?` lead from whole numbers to doubles and back.
-/

namespace Chip8

/-- The quotient rounded to the nearest whole number, a tie to the even one. -/
def roundedQuotient (numerator denominator : Nat) : Nat :=
  let quotient := numerator / denominator
  let twice := 2 * (numerator % denominator)
  if denominator < twice ∨ (twice = denominator ∧ quotient % 2 = 1) then quotient + 1 else quotient

/-- The rounded quotient is at most half a unit away. -/
theorem roundedQuotient_near (numerator : Nat) {denominator : Nat} (positive : 0 < denominator) :
    2 * numerator ≤ (2 * roundedQuotient numerator denominator + 1) * denominator ∧
      2 * roundedQuotient numerator denominator * denominator ≤ 2 * numerator + denominator := by
  have parts := Nat.div_add_mod numerator denominator
  have below := Nat.mod_lt numerator positive
  unfold roundedQuotient
  generalize numerator / denominator = quotient at *
  generalize numerator % denominator = left at *
  subst parts
  have spread : denominator * quotient = quotient * denominator := Nat.mul_comm ..
  simp only [spread]
  split
  · constructor <;> simp only [Nat.add_mul, Nat.mul_add, Nat.mul_assoc] <;> omega
  · constructor <;> simp only [Nat.add_mul, Nat.mul_add, Nat.mul_assoc] <;> omega

/-- The binary exponent of the lowest bit that a double near the quotient keeps. -/
def lowestExponent (numerator denominator : Nat) : Int :=
  let guess : Int := (numerator.log2 : Int) - denominator.log2
  -- The quotient lies between 2 to the guess - 1 and 2 to the guess + 1.
  let reaches :=
    if 0 ≤ guess then decide (denominator <<< guess.toNat ≤ numerator)
    else decide (denominator ≤ numerator <<< (-guess).toNat)
  max (-1074) ((if reaches then guess else guess - 1) - 52)

/-- The bits of the double nearest to a positive quotient. -/
def nearestBits (numerator denominator : Nat) : Nat :=
  let exponent := lowestExponent numerator denominator
  let mantissa :=
    if 0 ≤ exponent then roundedQuotient numerator (denominator <<< exponent.toNat)
    else roundedQuotient (numerator <<< (-exponent).toNat) denominator
  -- A mantissa that was rounded up to the next power of two carries into the exponent field.
  min (((exponent + 1074).toNat <<< 52) + mantissa) (0x7ff <<< 52)

/-- The double nearest to a quotient; infinite from half a unit past the largest double on. -/
def nearestFloat (numerator denominator : Nat) : Float :=
  if numerator = 0 then 0.0
  else Float.ofBits (UInt64.ofNat (nearestBits numerator denominator))

/-- The double nearest to a number times a power of ten. Exponents that leave nothing or everything of
the number are not worked out. -/
def scaledFloat (digits : Nat) (exponent : Int) : Float :=
  if digits = 0 then 0.0
  else
    let top : Int := (digits.log2 : Int) + exponent * 3
    if 0 ≤ exponent then
      if 2000 < top then Float.ofBits 0x7ff0000000000000
      else nearestFloat (digits * Nat.pow 10 exponent.toNat) 1
    else if top < -2000 then 0.0
    else nearestFloat digits (Nat.pow 10 (-exponent).toNat)

/-- The double nearest to a whole number. -/
def floatOfInt (value : Int) : Float :=
  let size := nearestFloat value.natAbs 1
  if value < 0 then -size else size

/-- Whether the double nearest to a whole number is finite. -/
def hasFloat (value : Int) : Bool := nearestBits value.natAbs 1 < 0x7ff <<< 52

/-- The double nearest to a whole number, unless the number is beyond all doubles. -/
def floatOfInt? (value : Int) : Option Float :=
  if hasFloat value then some (floatOfInt value) else none

/-- The whole number that a double is. -/
def wholeNumber? (value : Float) : Option Int :=
  let bits := value.toBits.toNat
  let field := (bits >>> 52) % 2048
  let fraction := bits % (1 <<< 52)
  let mantissa := if field = 0 then fraction else fraction + (1 <<< 52)
  let exponent : Int := (max field 1 : Nat) - 1075
  let unit := 1 <<< (-exponent).toNat
  if field = 2047 ∨ mantissa % unit ≠ 0 then none
  else
    let size : Int := (mantissa / unit) <<< exponent.toNat
    some (if bits >>> 63 = 1 then -size else size)

end Chip8
