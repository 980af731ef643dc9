/-
# The nearest number

The value of a number is read off its fields.  What rounding a quotient yields is then the number
with the nearest value, and of two such numbers the one with the even significand; from the midpoint
behind the largest finite number on it is infinity.
-/
import Mathlib.Algebra.Order.Field.Basic
import Mathlib.Data.Rat.Cast.Order
import Mathlib.Tactic.FieldSimp
import LoxSyntax.Proofs.Rounding

namespace LoxSyntax.Binary64

/-! ## Values -/

/-- The fraction field, with the hidden digit in front unless the exponent field is zero. -/
def significand (x : Binary64) : Nat :=
  x.payload % 2 ^ 52 + if x.payload / 2 ^ 52 = 0 then 0 else 2 ^ 52

/-- The value of a finite number: its significand, scaled by its exponent field, with its sign.  The
numbers with an exponent field of zero have the scale of those with an exponent field of one. -/
def value (x : Binary64) : ℚ :=
  (if x.negative then -1 else 1) *
    (x.significand * 2 ^ ((max 1 (x.payload / 2 ^ 52) : ℕ) - 1075 : ℤ))

/-- The number is finite, no finite number has a value nearer to the given one, and the significand
is even if another value is as near. -/
structure IsNearest (q : ℚ) (x : Binary64) : Prop where
  finite : x.isFinite = true
  nearest : ∀ y : Binary64, y.isFinite = true → |x.value - q| ≤ |y.value - q|
  even : ∀ y : Binary64, y.isFinite = true → |y.value - q| = |x.value - q| → y.value ≠ x.value →
    Even x.significand

/-- The midpoint between the largest finite number and the power of two behind it. -/
def overflow : ℚ := 2 ^ 1024 - 2 ^ 970

/-- The magnitude that a payload stands for. -/
def magnitude (payload : Nat) : ℚ := units payload / unitsOfOne

theorem unitsOfOne_pos : (0 : ℚ) < unitsOfOne := by
  rw [unitsOfOne, Nat.shiftLeft_eq]
  positivity

/-- Payloads are ordered like magnitudes. -/
theorem magnitude_strictMono : StrictMono magnitude := by
  intro p p' hlt
  have hunits : (units p : ℚ) < units p' := by exact_mod_cast units_strictMono hlt
  exact div_lt_div_of_pos_right hunits unitsOfOne_pos

theorem magnitude_zero : magnitude 0 = 0 := by
  rw [magnitude, units, if_pos (by decide), Nat.cast_zero, zero_div]

theorem magnitude_nonneg (payload : Nat) : 0 ≤ magnitude payload := by
  rw [← magnitude_zero]
  exact magnitude_strictMono.monotone (Nat.zero_le payload)

/-- The scale of the least positive number. -/
theorem two_zpow_sub (k : Nat) : (2 : ℚ) ^ ((k : ℤ) - 1074) = 2 ^ k / unitsOfOne := by
  have hpower (m : Nat) : (2 : ℚ) ^ (m : ℤ) = ((1 <<< m : Nat) : ℚ) := by
    rw [Nat.one_shiftLeft, Nat.cast_pow, Nat.cast_ofNat, zpow_natCast]
  calc (2 : ℚ) ^ ((k : ℤ) - 1074) = 2 ^ (k : ℤ) / 2 ^ ((1074 : Nat) : ℤ) :=
        zpow_sub₀ two_ne_zero k 1074
    _ = 2 ^ k / unitsOfOne := by rw [zpow_natCast, hpower, unitsOfOne]

/-- **The value of a number** is the magnitude of its payload with its sign. -/
theorem value_eq (x : Binary64) :
    x.value = (if x.negative then -1 else 1) * magnitude x.payload := by
  rw [value, significand, magnitude, units, ← binade_eq]
  congr 1
  by_cases hsmall : x.payload < binade
  · have hscale : (2 : ℚ) ^ ((1 : ℤ) - 1075) = 1 / unitsOfOne := two_zpow_sub 0
    rw [if_pos hsmall, Nat.div_eq_of_lt hsmall, Nat.mod_eq_of_lt hsmall, if_pos rfl, Nat.add_zero,
      div_eq_mul_one_div, ← hscale]
    rfl
  · have hfield : 1 ≤ x.payload / binade := (Nat.one_le_div_iff (by decide)).2 (Nat.not_lt.1 hsmall)
    obtain ⟨k, hk⟩ := Nat.exists_eq_add_of_le hfield
    have hexponent : ((max 1 (x.payload / binade) : ℕ) - 1075 : ℤ) = k - 1074 := by
      rw [Nat.max_eq_right hfield, hk]
      omega
    rw [if_neg hsmall, if_neg (Nat.ne_of_gt hfield), hexponent, two_zpow_sub, hk,
      Nat.add_sub_cancel_left, Nat.shiftLeft_eq, Nat.add_comm binade]
    push_cast
    ring

/-! ## Every quotient is rounded -/

section Rounds

variable {p count scale : Nat}

/-- The units of neighbours, in some scale. -/
theorem units_mul_le (p scale : Nat) :
    units (p - 1) * scale ≤ units p * scale ∧ units p * scale ≤ units (p + 1) * scale :=
  ⟨Nat.mul_le_mul_right scale (units_strictMono.monotone (Nat.sub_le p 1)),
    Nat.mul_le_mul_right scale (units_strictMono.monotone (Nat.le_succ p))⟩

/-- A count lies between the units of two neighbours. -/
theorem exists_floor (count : Nat) (hscale : 0 < scale) :
    ∃ p, units p * scale ≤ count ∧ count < units (p + 1) * scale := by
  have hbeyond : ∃ p, count < units (p + 1) * scale := by
    refine ⟨count, ?_⟩
    calc count < count + 1 := Nat.lt_succ_self count
      _ ≤ units (count + 1) := units_strictMono.le_apply
      _ ≤ units (count + 1) * scale := Nat.le_mul_of_pos_right _ hscale
  refine ⟨Nat.find hbeyond, ?_, Nat.find_spec hbeyond⟩
  cases hfirst : Nat.find hbeyond with
  | zero =>
    rw [units, if_pos (by decide), Nat.zero_mul]
    exact Nat.zero_le count
  | succ m => exact Nat.not_lt.1 (Nat.find_min hbeyond (by omega))

/-- A count below the midpoint is rounded down. -/
theorem roundsTo_floor (hscale : 0 < scale) (hfloor : units p * scale ≤ count)
    (hbelow : 2 * count < (units p + units (p + 1)) * scale) : RoundsTo p count scale := by
  have hle := units_mul_le p scale
  rw [Nat.add_mul] at hbelow
  refine ⟨?_, ?_, fun hodd => ?_⟩
  · rw [Nat.add_mul]
    omega
  · rw [Nat.add_mul]
    omega
  · -- an odd payload is not the first one
    have hunits : units (p - 1) < units p := units_strictMono (by omega)
    have hlt := Nat.mul_lt_mul_of_pos_right hunits hscale
    rw [Nat.add_mul, Nat.add_mul]
    omega

/-- A count above the midpoint is rounded up. -/
theorem roundsTo_ceiling (hceiling : count < units (p + 1) * scale)
    (habove : (units p + units (p + 1)) * scale < 2 * count) : RoundsTo (p + 1) count scale := by
  have hnext := (units_mul_le (p + 1) scale).2
  have hhigh : 2 * count < (units (p + 1) + units (p + 1 + 1)) * scale := by
    rw [Nat.add_mul]
    omega
  exact ⟨Nat.le_of_lt habove, Nat.le_of_lt hhigh,
    fun _ => ⟨Nat.ne_of_lt habove, Nat.ne_of_lt hhigh⟩⟩

/-- A count at the midpoint is rounded to the even one. -/
theorem exists_roundsTo_midpoint (hmidpoint : 2 * count = (units p + units (p + 1)) * scale) :
    ∃ p, RoundsTo p count scale := by
  have hle := units_mul_le p scale
  have hle' := units_mul_le (p + 1) scale
  rw [Nat.add_mul] at hmidpoint
  rcases Nat.mod_two_eq_zero_or_one p with heven | hodd
  · refine ⟨p, ?_, ?_, by omega⟩
    · rw [Nat.add_mul]
      omega
    · rw [Nat.add_mul]
      omega
  · refine ⟨p + 1, ?_, ?_, by omega⟩
    · rw [Nat.add_sub_cancel, Nat.add_mul]
      omega
    · rw [Nat.add_mul]
      omega

/-- **Every count is rounded to some number.** -/
theorem exists_roundsTo (count : Nat) (hscale : 0 < scale) : ∃ p, RoundsTo p count scale := by
  obtain ⟨p, hfloor, hceiling⟩ := exists_floor count hscale
  rcases Nat.lt_trichotomy (2 * count) ((units p + units (p + 1)) * scale) with
    hbelow | hmidpoint | habove
  · exact ⟨p, roundsTo_floor hscale hfloor hbelow⟩
  · exact exists_roundsTo_midpoint hmidpoint
  · exact ⟨p + 1, roundsTo_ceiling hceiling habove⟩

/-- What is rounded lies between the midpoints of the outcome. -/
theorem roundsTo_nearestPayload {n d : Nat} (hd : 0 < d) :
    RoundsTo (nearestPayload n d) (n * unitsOfOne) d := by
  obtain ⟨p, hp⟩ := exists_roundsTo (n * unitsOfOne) hd
  rw [hp.nearestPayload_eq hd]
  exact hp

end Rounds

/-! ## Midpoints -/

/-- A rational number lies between the midpoints to the two neighbours of a payload, which belong to
it only if it is even. -/
structure LiesAt (q : ℚ) (payload : Nat) : Prop where
  low : (magnitude (payload - 1) + magnitude payload) / 2 ≤ q
  high : q ≤ (magnitude payload + magnitude (payload + 1)) / 2
  odd : payload % 2 = 1 → (magnitude (payload - 1) + magnitude payload) / 2 < q ∧
    q < (magnitude payload + magnitude (payload + 1)) / 2

section Midpoints

variable {p k n d : Nat} {q : ℚ}

/-- To compare a midpoint with a quotient is to compare counts of units. -/
theorem midpoint_le_iff (hd : 0 < d) : (magnitude p + magnitude k) / 2 ≤ n / d ↔
    (units p + units k) * d ≤ 2 * (n * unitsOfOne) := by
  have hpos : (0 : ℚ) < d := by exact_mod_cast hd
  have hsame : n * (unitsOfOne * 2) = 2 * (n * unitsOfOne) := by ring
  rw [magnitude, magnitude, ← add_div, div_div,
    div_le_div_iff₀ (mul_pos unitsOfOne_pos two_pos) hpos, ← hsame]
  norm_cast

/-- To compare a quotient with a midpoint is to compare counts of units. -/
theorem le_midpoint_iff (hd : 0 < d) : n / d ≤ (magnitude p + magnitude k) / 2 ↔
    2 * (n * unitsOfOne) ≤ (units p + units k) * d := by
  have hpos : (0 : ℚ) < d := by exact_mod_cast hd
  have hsame : n * (unitsOfOne * 2) = 2 * (n * unitsOfOne) := by ring
  rw [magnitude, magnitude, ← add_div, div_div,
    div_le_div_iff₀ hpos (mul_pos unitsOfOne_pos two_pos), ← hsame]
  norm_cast

/-- A quotient lies at the payload that it is rounded to. -/
theorem RoundsTo.liesAt (h : RoundsTo p (n * unitsOfOne) d) (hd : 0 < d) :
    LiesAt (n / d) p := by
  refine ⟨(midpoint_le_iff hd).2 h.low, (le_midpoint_iff hd).2 h.high, fun hodd => ?_⟩
  obtain ⟨hlow, hhigh⟩ := h.odd hodd
  constructor
  · rw [← not_le, le_midpoint_iff hd]
    exact fun hle => hlow (Nat.le_antisymm h.low hle)
  · rw [← not_le, midpoint_le_iff hd]
    exact fun hle => hhigh (Nat.le_antisymm h.high hle)

/-- **Where a rational number lies is nearest**, and another magnitude is as near only if the
payload is even. -/
theorem LiesAt.nearest (h : LiesAt q p) (k : Nat) : |magnitude p - q| ≤ |magnitude k - q| ∧
    (|magnitude k - q| = |magnitude p - q| → k ≠ p → p % 2 = 0) := by
  have hprevious : magnitude (p - 1) ≤ magnitude p :=
    magnitude_strictMono.monotone (Nat.sub_le p 1)
  have hnext : magnitude p ≤ magnitude (p + 1) := magnitude_strictMono.monotone (Nat.le_succ p)
  have hlow := h.low
  have hhigh := h.high
  rcases Nat.lt_trichotomy k p with hlt | rfl | hgt
  · have hk : magnitude k ≤ magnitude (p - 1) := magnitude_strictMono.monotone (by omega)
    have hdistance : |magnitude k - q| = q - magnitude k := by
      rw [abs_sub_comm, abs_of_nonneg (by linarith)]
    rw [hdistance]
    refine ⟨abs_le.2 ⟨by linarith, by linarith⟩, fun htie _ => ?_⟩
    by_contra hodd
    have hstrict := (h.odd (by omega)).1
    have hstep : magnitude k < magnitude p := magnitude_strictMono hlt
    have hnearer : |magnitude p - q| < q - magnitude k :=
      abs_lt.2 ⟨by linarith, by linarith⟩
    exact absurd htie (ne_of_gt hnearer)
  · exact ⟨le_rfl, fun _ hne => absurd rfl hne⟩
  · have hk : magnitude (p + 1) ≤ magnitude k := magnitude_strictMono.monotone hgt
    have hdistance : |magnitude k - q| = magnitude k - q := abs_of_nonneg (by linarith)
    rw [hdistance]
    refine ⟨abs_le.2 ⟨by linarith, by linarith⟩, fun htie _ => ?_⟩
    by_contra hodd
    have hstrict := (h.odd (by omega)).2
    have hstep : magnitude p < magnitude k := magnitude_strictMono hgt
    have hnearer : |magnitude p - q| < magnitude k - q :=
      abs_lt.2 ⟨by linarith, by linarith⟩
    exact absurd htie (ne_of_gt hnearer)

/-- Where nothing lies, zero does. -/
theorem LiesAt.eq_zero (h : LiesAt 0 p) : p = 0 := by
  by_contra hne
  have hnearest := (h.nearest 0).1
  have hpositive : magnitude 0 < magnitude p := magnitude_strictMono (Nat.pos_of_ne_zero hne)
  rw [magnitude_zero] at hnearest hpositive
  rw [sub_zero, sub_zero, abs_zero, abs_of_pos hpositive] at hnearest
  exact absurd hpositive (not_lt.2 hnearest)

/-- A midpoint that is a difference of two powers. -/
theorem midpoint_eq {a b : Nat}
    (h : units p + units k + 2 * (2 ^ a * unitsOfOne) = 2 * (2 ^ b * unitsOfOne)) :
    (magnitude p + magnitude k) / 2 = 2 ^ b - 2 ^ a := by
  have hcast : (units p + units k + 2 * (2 ^ a * unitsOfOne) : ℚ) = 2 * (2 ^ b * unitsOfOne) := by
    exact_mod_cast h
  have hpos := unitsOfOne_pos
  rw [magnitude, magnitude]
  field_simp
  linarith

/-- **Overflow begins at the midpoint** behind the largest finite number, whose payload is odd. -/
theorem LiesAt.lt_infinitePayload_iff (h : LiesAt q p) : p < infinitePayload ↔ q < overflow := by
  have hmidpoint : (magnitude (infinitePayload - 1) + magnitude infinitePayload) / 2 = overflow :=
    midpoint_eq (by decide +kernel)
  have hodd : (infinitePayload - 1) % 2 = 1 := by decide
  have hmonotone := magnitude_strictMono.monotone
  constructor
  · intro hlt
    rcases Nat.lt_or_eq_of_le (show p ≤ infinitePayload - 1 by omega) with hinside | rfl
    · have hp : magnitude p < magnitude (infinitePayload - 1) := magnitude_strictMono hinside
      have hnext : magnitude (p + 1) ≤ magnitude infinitePayload := hmonotone hlt
      have hhigh := h.high
      linarith
    · have hhigh := (h.odd hodd).2
      rwa [Nat.sub_add_cancel (by decide), hmidpoint] at hhigh
  · intro hlt
    by_contra hge
    have hprevious : magnitude (infinitePayload - 1) ≤ magnitude (p - 1) := hmonotone (by omega)
    have hp : magnitude infinitePayload ≤ magnitude p := hmonotone (Nat.not_lt.1 hge)
    have hlow := h.low
    linarith

/-- The last digit of the significand is the one of the payload. -/
theorem even_significand_iff (x : Binary64) : Even x.significand ↔ x.payload % 2 = 0 := by
  rw [Nat.even_iff, significand]
  split <;> omega

/-- The distance of the opposite of a magnitude from what is not negative. -/
theorem abs_opposite_sub {m : ℚ} (hm : 0 ≤ m) (hq : 0 ≤ q) : |-1 * m - q| = m + q := by
  rw [abs_of_nonpos (by linarith)]
  ring

/-- **The number at which a rational number lies is nearest to it.** -/
theorem LiesAt.isNearest {x : Binary64} (h : LiesAt q x.payload) (hsign : x.negative = false)
    (hfinite : x.isFinite = true) (hq : 0 ≤ q) : IsNearest q x := by
  have hx : x.value = magnitude x.payload := by
    rw [value_eq, hsign, if_neg Bool.false_ne_true, one_mul]
  have hfarther (y : Binary64) : |magnitude y.payload - q| ≤ magnitude y.payload + q := by
    have hm := magnitude_nonneg y.payload
    exact abs_le.2 ⟨by linarith, by linarith⟩
  refine ⟨hfinite, fun y _ => ?_, fun y _ => ?_⟩
  · have hnearest := (h.nearest y.payload).1
    rw [hx, value_eq]
    cases y.negative with
    | false => rwa [if_neg Bool.false_ne_true, one_mul]
    | true =>
      rw [if_pos rfl, abs_opposite_sub (magnitude_nonneg _) hq]
      exact hnearest.trans (hfarther y)
  · obtain ⟨hnearest, heven⟩ := h.nearest y.payload
    rw [hx, value_eq, even_significand_iff]
    cases y.negative with
    | false =>
      rw [if_neg Bool.false_ne_true, one_mul]
      exact fun htie hne => heven htie fun hsame => hne (by rw [hsame])
    | true =>
      rw [if_pos rfl, abs_opposite_sub (magnitude_nonneg _) hq]
      intro htie _
      by_cases hsame : y.payload = x.payload
      · -- the opposite of a magnitude is as near only if one of the two is zero
        rw [hsame] at htie
        have hzero : x.payload = 0 := by
          rcases abs_choice (magnitude x.payload - q) with hsum | hsum
          · obtain rfl : q = 0 := by linarith
            exact h.eq_zero
          · have hnone : magnitude x.payload = magnitude 0 := by
              rw [magnitude_zero]
              linarith
            exact magnitude_strictMono.injective hnone
        rw [hzero]
      · exact heven (le_antisymm ((hfarther y).trans_eq htie) hnearest) hsame

end Midpoints

/-! ## Rounding is to the nearest number -/

section Nearest

variable {n d : Nat}

/-- **A quotient below the overflow is rounded to the nearest number.** -/
theorem isNearest_nearest (hd : 0 < d) (h : (n / d : ℚ) < overflow) :
    IsNearest (n / d) (nearest n d) := by
  have hlies := (roundsTo_nearestPayload (n := n) hd).liesAt hd
  have hfinite := hlies.lt_infinitePayload_iff.2 h
  have hpayload : (nearest n d).payload = nearestPayload n d :=
    Nat.min_eq_left (Nat.le_of_lt hfinite)
  rw [← hpayload] at hlies hfinite
  exact hlies.isNearest rfl (decide_eq_true hfinite) (by positivity)

/-- **A quotient from the overflow on is rounded to infinity**, and no other one is. -/
theorem isInfinite_nearest_iff (hd : 0 < d) :
    (nearest n d).isInfinite = true ↔ overflow ≤ n / d := by
  have hlies := (roundsTo_nearestPayload (n := n) hd).liesAt hd
  rw [← not_lt, ← hlies.lt_infinitePayload_iff, Nat.not_lt, isInfinite, decide_eq_true_iff]
  exact min_eq_right_iff

end Nearest

end LoxSyntax.Binary64
