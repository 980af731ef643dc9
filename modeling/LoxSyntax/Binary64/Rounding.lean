/-
# Rounding to binary64

A non-negative rational number is rounded to the nearest binary64 number, and of two equally near
ones to the one with the even payload.  What lies half a step or more beyond the largest finite
number becomes infinity.
-/
import LoxSyntax.Binary64.Basic

namespace LoxSyntax.Binary64

/-- The quotient rounded to the nearest whole number, a half to the even one. -/
def roundToEven (numerator denominator : Nat) : Nat :=
  let floor := numerator / denominator
  let twice := 2 * (numerator % denominator)
  if twice < denominator then floor
  else if denominator < twice then floor + 1
  else floor + floor % 2

theorem roundToEven_mul (n denominator : Nat) (positive : 0 < denominator) :
    roundToEven (n * denominator) denominator = n := by
  simp [roundToEven, Nat.mul_div_cancel n positive, positive]

/-- The payload of the nearest number, with the magnitudes from infinity on continued upwards.
The quotient is counted in units; where it needs more than 53 binary digits, the surplus digits
are rounded away, and their number is added to the exponent field. -/
def nearestPayload (numerator denominator : Nat) : Nat :=
  let scaled := numerator * unitsOfOne
  let surplus := Nat.log2 (scaled / denominator) - 52
  surplus * binade + roundToEven scaled (denominator <<< surplus)

/-- The binary64 number nearest to the quotient. -/
def nearest (numerator denominator : Nat) : Binary64 where
  negative := false
  payload := min (nearestPayload numerator denominator) infinitePayload
  payload_lt := Nat.lt_of_le_of_lt (Nat.min_le_right _ _) (by decide)

theorem isNaN_nearest (numerator denominator : Nat) :
    (nearest numerator denominator).isNaN = false :=
  decide_eq_false (Nat.not_lt.2 (Nat.min_le_right _ _))

/-! ## Decimal numerals -/

/-- The number that a sequence of decimal digits denotes. -/
def digitsValue (digits : List Char) : Nat :=
  digits.foldl (fun value digit => 10 * value + (digit.toNat - '0'.toNat)) 0

/-- The number nearest to the numeral with these digits before and after the point. -/
def ofDecimal (whole fraction : List Char) : Binary64 :=
  nearest (digitsValue (whole ++ fraction)) (Nat.pow 10 fraction.length)

/-- One tenth lies between two numbers and goes to the upper one. -/
example : (ofDecimal ['0'] ['1']).bits = 0x3FB999999999999A := by decide +kernel

end LoxSyntax.Binary64
