/-
# Blanks

Blanks are the characters that Unicode counts as white space together with the four information
separators.  They are trimmed from the ends of a line, and they separate words.
-/
import LoxSyntax.Text.CodePoints
import LoxSyntax.Text.Split

namespace LoxSyntax.Text

/-- The blank code points. -/
def blanks : CodePoints := ⟨[
    (0x9, 0xD), (0x1C, 0x20), (0x85, 0x85), (0xA0, 0xA0), (0x1680, 0x1680), (0x2000, 0x200A),
    (0x2028, 0x2029), (0x202F, 0x202F), (0x205F, 0x205F), (0x3000, 0x3000)]⟩

/-- A character that separates words. -/
def isBlank (c : Char) : Bool := blanks.has c

theorem isBlank_of_isWhitespace {c : Char} (h : c.isWhitespace = true) : isBlank c = true := by
  simp only [Char.isWhitespace, Bool.or_eq_true, decide_eq_true_eq] at h
  rcases h with ((rfl | rfl) | rfl) | rfl <;> decide

/-- The text without the blanks at its two ends. -/
def trim (text : List Char) : List Char :=
  ((text.dropWhile isBlank).reverse.dropWhile isBlank).reverse

/-- The maximal stretches without blanks, in order. -/
def words (text : List Char) : List (List Char) :=
  (pieces isBlank text).filter (! ·.isEmpty)

/-- Words are separated by any number of blanks of any kind. -/
example : words "\t a\u3000\nb ".toList = [['a'], ['b']] := by decide +kernel

end LoxSyntax.Text
