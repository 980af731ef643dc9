/-
# Sets of code points

The character classes of Unicode are unions of a few hundred stretches of the code space.  Such a
class is written as the list of its stretches, and membership is a search through the list.
-/

namespace LoxSyntax.Text

/-- A set of code points, given by ranges with both ends included. -/
structure CodePoints where
  ranges : List (Nat × Nat)

/-- The character lies in one of the ranges. -/
def CodePoints.has (set : CodePoints) (c : Char) : Bool :=
  set.ranges.any fun range => range.1 ≤ c.toNat && c.toNat ≤ range.2

/-- Membership says which range holds the character. -/
theorem CodePoints.has_iff (set : CodePoints) (c : Char) :
    set.has c = true ↔ ∃ range ∈ set.ranges, range.1 ≤ c.toNat ∧ c.toNat ≤ range.2 := by
  simp [CodePoints.has]

end LoxSyntax.Text
