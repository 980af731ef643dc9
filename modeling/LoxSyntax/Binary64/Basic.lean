/-
# Binary64 numbers

A binary64 number is a sign and a payload of 63 bits: the exponent field of eleven bits and, below
it, the fraction of 52 bits.  Read as one natural number the payload counts the numbers of its sign
from zero upwards, so neighbouring payloads are neighbouring numbers, and the first payload that is
no finite number is infinity.  All magnitudes are whole multiples of the least positive number,
`2 ^ -1074`, and are counted in that unit.
-/

namespace LoxSyntax

/-- A number of the binary64 format, infinities and not-a-numbers included.  The payload lies below
`2 ^ 63`. -/
structure Binary64 where
  negative : Bool
  payload : Nat
  payload_lt : payload < 0x8000000000000000 := by decide
  deriving DecidableEq, Repr

namespace Binary64

/-- The number of fractions, `2 ^ 52`: so many numbers share one exponent. -/
def binade : Nat := 0x10000000000000

/-- The payload of infinity: the exponent field is full and the fraction is zero. -/
def infinitePayload : Nat := 2047 * binade

/-- Payloads above the one of infinity are not numbers. -/
def isNaN (x : Binary64) : Bool := infinitePayload < x.payload

/-- The number is one of the two infinities. -/
def isInfinite (x : Binary64) : Bool := x.payload = infinitePayload

/-- The number has a magnitude. -/
def isFinite (x : Binary64) : Bool := x.payload < infinitePayload

/-- Positive zero. -/
def zero : Binary64 := { negative := false, payload := 0 }

/-- One: the exponent field holds the bias and the fraction is zero. -/
def one : Binary64 := { negative := false, payload := 1023 * binade }

/-! ## Bits -/

/-- The number with the given 64 bits; higher bits are ignored. -/
def ofBits (bits : Nat) : Binary64 where
  negative := bits / 0x8000000000000000 % 2 = 1
  payload := bits % 0x8000000000000000
  payload_lt := Nat.mod_lt _ (by decide)

/-- The sign bit followed by the payload. -/
def bits (x : Binary64) : Nat := (if x.negative then 0x8000000000000000 else 0) + x.payload

/-- The bits determine the number. -/
theorem ofBits_bits (x : Binary64) : ofBits x.bits = x := by
  have lt := x.payload_lt
  have low : x.bits % 0x8000000000000000 = x.payload := by
    unfold bits
    split <;> omega
  have high : x.bits / 0x8000000000000000 % 2 = if x.negative then 1 else 0 := by
    unfold bits
    split <;> omega
  have sign : decide (x.bits / 0x8000000000000000 % 2 = 1) = x.negative := by
    rw [high]
    cases x.negative <;> rfl
  unfold ofBits
  cases x
  congr

/-! ## Magnitude -/

/-- The magnitude of a payload in units of the least positive number.  In the first binade the
payload itself counts them; above, the exponent field says how far the full significand is shifted.
The payload of infinity stands for the power of two that follows the finite numbers. -/
def units (payload : Nat) : Nat :=
  if payload < binade then payload
  else (binade + payload % binade) <<< (payload / binade - 1)

/-- The number of units in the number one, `2 ^ 1074`. -/
def unitsOfOne : Nat := 1 <<< 1074

theorem units_one : units one.payload = unitsOfOne := by decide +kernel

/-! ## Equality of numbers -/

/-- The two stand for the same number: the zeros of both signs agree, and what is not a number
agrees with nothing, itself included. -/
def agrees (x y : Binary64) : Bool :=
  ! x.isNaN && ! y.isNaN && (x == y || x.payload == 0 && y.payload == 0)

/-- What agrees with itself is a number. -/
theorem agrees_self (x : Binary64) : x.agrees x = ! x.isNaN := by
  simp [agrees]

theorem agrees_comm (x y : Binary64) : x.agrees y = y.agrees x := by
  have flip : (x == y) = (y == x) := by
    rw [Bool.eq_iff_iff, beq_iff_eq, beq_iff_eq, eq_comm]
  rw [agrees, agrees, flip, Bool.and_comm (! x.isNaN), Bool.and_comm (x.payload == 0)]

end Binary64

end LoxSyntax
