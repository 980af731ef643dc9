/-
# Shortest decimal

Every decimal number in the stretch half way to the two neighbours of a binary64 number is read back
as that number.  Among those decimals the shortest is the one with the fewest digits; of two with
the same number of digits it is the nearer to the exact value, and of two equally near the even one.
-/
import LoxSyntax.Binary64.Basic

namespace LoxSyntax.Binary64

/-- A positive decimal number: its digits, first and last not zero, and the power of ten that the
first digit counts. -/
structure Decimal where
  digits : List Char
  exponent : Int
  deriving DecidableEq, Repr

/-- Magnitudes are counted in units of `10 ^ -1074`, of which the least positive number holds this
many, so that both binary and decimal numbers of the range are whole. -/
def decimalUnits : Nat := Nat.pow 5 1074

/-- The magnitude of a payload in decimal units. -/
def decimalMagnitude (payload : Nat) : Nat := units payload * decimalUnits

/-- A count of decimal units is read back as the payload: it lies between the two midpoints, which
belong to the payload only if it is even. -/
def readsBack (payload count : Nat) : Bool :=
  let low := decimalMagnitude (payload - 1) + decimalMagnitude payload
  let high := decimalMagnitude payload + decimalMagnitude (payload + 1)
  if payload % 2 = 0 then low ≤ 2 * count && 2 * count ≤ high
  else low < 2 * count && 2 * count < high

/-- The multiple of a grid, of the two around the magnitude, that is read back and is nearest. -/
def onGrid? (payload grid : Nat) : Option Nat :=
  let magnitude := decimalMagnitude payload
  let below := magnitude / grid
  let above := below + 1
  match readsBack payload (below * grid), readsBack payload (above * grid) with
  | false, false => none
  | true, false => some below
  | false, true => some above
  | true, true =>
    let toBelow := magnitude - below * grid
    let toAbove := above * grid - magnitude
    if toBelow < toAbove then some below
    else if toAbove < toBelow then some above
    else some (below + below % 2)

/-- The decimal number of so many grid steps. -/
def Decimal.ofSteps (steps gridExponent : Nat) : Decimal :=
  let digits := Nat.toDigits 10 steps
  { digits := (digits.reverse.dropWhile (· = '0')).reverse
    exponent := (digits.length - 1 + gridExponent : Nat) - 1074 }

/-- The shortest decimal of a payload that is neither zero nor beyond the finite ones.  Seventeen
digits are always enough. -/
def shortest (payload : Nat) : Decimal :=
  let width := (Nat.toDigits 10 (decimalMagnitude payload)).length
  let candidate? (count : Nat) : Option Decimal :=
    (onGrid? payload (Nat.pow 10 (width - count))).map (Decimal.ofSteps · (width - count))
  ((List.range' 1 17).findSome? candidate?).getD (Decimal.ofSteps (decimalMagnitude payload) 0)

/-- One needs one digit, and so does the least positive number. -/
example : shortest one.payload = ⟨['1'], 0⟩ ∧ shortest 1 = ⟨['5'], -324⟩ := by decide +kernel

end LoxSyntax.Binary64
