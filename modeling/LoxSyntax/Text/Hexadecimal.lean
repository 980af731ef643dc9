/-
# Hexadecimal numerals

Code points and bytes are shown in base sixteen with a least number of digits.
-/

namespace LoxSyntax.Text

/-- The numeral in small letters, filled with zeros on the left up to the given width. -/
def hexadecimal (width n : Nat) : List Char :=
  let digits := Nat.toDigits 16 n
  List.replicate (width - digits.length) '0' ++ digits

/-- The numeral in capital letters. -/
def hexadecimalCapital (width n : Nat) : List Char := (hexadecimal width n).map Char.toUpper

/-- A numeral that needs more digits than the width keeps them all. -/
example : hexadecimal 4 0xAB = "00ab".toList ∧ hexadecimalCapital 4 0x1F600 = "1F600".toList := by
  decide +kernel

end LoxSyntax.Text
