/-
# Written numbers

A number is written with the digits of its shortest decimal, positionally while the first digit
counts a power of ten from -4 to 15, and with an exponent otherwise.  Positional notation always
shows a digit after the point.
-/
import LoxSyntax.Binary64.Shortest

namespace LoxSyntax.Binary64

/-- Digits with a point after the first, unless there is only one. -/
def Decimal.significand (d : Decimal) : List Char :=
  match d.digits with
  | first :: second :: rest => first :: '.' :: second :: rest
  | digits => digits

/-- The exponent with its sign and at least two digits. -/
def exponentText (exponent : Int) : List Char :=
  let digits := Nat.toDigits 10 exponent.natAbs
  (if exponent < 0 then '-' else '+') :: (List.replicate (2 - digits.length) '0' ++ digits)

/-- All digits in their places, filled up with zeros to the point. -/
def Decimal.positional (d : Decimal) : List Char :=
  if d.exponent < 0 then
    '0' :: '.' :: (List.replicate (d.exponent.natAbs - 1) '0' ++ d.digits)
  else
    let places := d.exponent.natAbs + 1
    let whole := d.digits.take places
    let fraction := d.digits.drop places
    whole ++ List.replicate (places - d.digits.length) '0' ++ '.' ::
      (if fraction.isEmpty then ['0'] else fraction)

/-- The decimal number as it is written. -/
def Decimal.text (d : Decimal) : List Char :=
  if -4 ≤ d.exponent ∧ d.exponent < 16 then d.positional
  else d.significand ++ 'e' :: exponentText d.exponent

/-- The number without its sign. -/
def magnitudeText (x : Binary64) : List Char :=
  if x.payload = 0 then ['0', '.', '0']
  else if x.isInfinite then ['i', 'n', 'f']
  else (shortest x.payload).text

/-- The number as it is written; what is not a number has no sign. -/
def text (x : Binary64) : String :=
  if x.isNaN then "nan"
  else String.ofList (if x.negative then '-' :: x.magnitudeText else x.magnitudeText)

/-- The exact whole number, if the number is one. -/
def whole? (x : Binary64) : Option Int :=
  if x.isFinite && units x.payload % unitsOfOne == 0 then
    let magnitude : Int := (units x.payload / unitsOfOne : Nat)
    some (if x.negative then -magnitude else magnitude)
  else none

/-- Both notations, at the two ends of the positional range. -/
example : (ofBits 0x4341C37937E08000).text = "1e+16" ∧ (ofBits 0x430C6BF526340000).text =
    "1000000000000000.0" ∧ (ofBits 0x3F1A36E2EB1C432D).text = "0.0001" := by decide +kernel

end LoxSyntax.Binary64
