/-
# Rounding

A quotient that lies between the midpoints to the two neighbours of a number is rounded to that
number, and the midpoints themselves go to the number with the even payload.  Within one binade the
numbers are the points of a grid; only at the lower end of a binade the grid below is finer.
-/
import Mathlib.Tactic.Ring
import Mathlib.Tactic.Linarith
import LoxSyntax.Binary64.Rounding

namespace LoxSyntax.Binary64

/-! ## The grid of a binade -/

/-- The size of a binade as a power of two. -/
theorem binade_eq : binade = 2 ^ 52 := by decide

/-- **The numbers of a binade are multiples of one step**, and so is the number behind them. -/
theorem units_grid {s m : Nat} (hm : m ≤ 2 * binade) (hs : s = 0 ∨ binade ≤ m) :
    units (s * binade + m) = m * 2 ^ s := by
  have hpos : 0 < binade := by decide
  by_cases hsmall : m < binade
  · obtain rfl : s = 0 := hs.resolve_right (Nat.not_le.2 hsmall)
    rw [Nat.zero_mul, Nat.zero_add, units, if_pos hsmall, Nat.pow_zero, Nat.mul_one]
  · obtain ⟨f, rfl⟩ := Nat.exists_eq_add_of_le (Nat.not_lt.1 hsmall)
    have hpayload : s * binade + (binade + f) = f + (s + 1) * binade := by ring
    have hlarge : ¬ f + (s + 1) * binade < binade := by
      rw [Nat.succ_mul]
      omega
    rw [hpayload, units, if_neg hlarge, Nat.add_mul_mod_self_right, Nat.add_mul_div_right _ _ hpos,
      Nat.shiftLeft_eq]
    rcases Nat.lt_or_eq_of_le (show f ≤ binade by omega) with hf | rfl
    · rw [Nat.mod_eq_of_lt hf, Nat.div_eq_of_lt hf, Nat.zero_add, Nat.add_sub_cancel]
    · -- the number behind the binade is the first one of the next binade
      rw [Nat.mod_self, Nat.div_self hpos, Nat.add_zero, Nat.add_comm 1, Nat.add_sub_cancel,
        Nat.pow_succ]
      ring

/-- Every payload has its place on the grid of a binade. -/
theorem exists_grid (payload : Nat) :
    ∃ s m, payload = s * binade + m ∧ m < 2 * binade ∧ (s = 0 ∨ binade ≤ m) := by
  by_cases hsmall : payload < binade
  · exact ⟨0, payload, by omega, by omega, Or.inl rfl⟩
  · have hpos : 0 < binade := by decide
    have hsplit := Nat.div_add_mod' payload binade
    have hmod := Nat.mod_lt payload hpos
    have hone : 1 ≤ payload / binade := (Nat.one_le_div_iff hpos).2 (Nat.not_lt.1 hsmall)
    obtain ⟨s, hs⟩ := Nat.exists_eq_add_of_le hone
    refine ⟨s, binade + payload % binade, ?_, by omega, Or.inr (by omega)⟩
    rw [hs, Nat.add_mul, Nat.one_mul] at hsplit
    omega

/-- The number behind a point of the grid is the next point. -/
theorem units_next {s m : Nat} (hm : m < 2 * binade) (hs : s = 0 ∨ binade ≤ m) :
    units (s * binade + m + 1) = (m + 1) * 2 ^ s := by
  rw [Nat.add_assoc]
  exact units_grid hm (hs.imp_right Nat.le_succ_of_le)

/-- Inside of the binade the number before a point is the point before it. -/
theorem units_previous {s m : Nat} (hm : m < 2 * binade) (hs : s = 0 ∨ binade ≤ m) :
    units (s * binade + (m + 1) - 1) = m * 2 ^ s := by
  rw [← Nat.add_assoc, Nat.add_sub_cancel]
  exact units_grid (Nat.le_of_lt hm) hs

/-- The number before the start of a binade lies in the binade before, at half the distance. -/
theorem units_previous_edge (s : Nat) :
    units ((s + 1) * binade + binade - 1) = (2 * binade - 1) * 2 ^ s := by
  have hpos : 0 < binade := by decide
  have hpayload : (s + 1) * binade + binade - 1 = s * binade + (2 * binade - 1) := by
    rw [Nat.add_one_mul]
    omega
  rw [hpayload]
  exact units_grid (Nat.sub_le _ _) (Or.inr (by omega))

theorem units_lt_succ (payload : Nat) : units payload < units (payload + 1) := by
  obtain ⟨s, m, rfl, hm, hs⟩ := exists_grid payload
  rw [units_grid (Nat.le_of_lt hm) hs, units_next hm hs, Nat.succ_mul]
  exact Nat.lt_add_of_pos_right (Nat.two_pow_pos s)

theorem units_strictMono : StrictMono units := strictMono_nat_of_lt_succ units_lt_succ

/-! ## Rounding on a grid -/

/-- A quotient is rounded to the whole number that is at most half a step away, and half a step only
if that number is even. -/
theorem roundToEven_eq {n d m : Nat} (hlow : 2 * (m * d) ≤ 2 * n + d)
    (hhigh : 2 * n ≤ 2 * (m * d) + d)
    (hodd : m % 2 = 1 → 2 * (m * d) ≠ 2 * n + d ∧ 2 * n ≠ 2 * (m * d) + d) (hd : 0 < d) :
    roundToEven n d = m := by
  have hsplit := Nat.div_add_mod' n d
  have hmod := Nat.mod_lt n hd
  rw [roundToEven]
  generalize n / d = q at *
  generalize n % d = r at *
  subst hsplit
  have hle : q ≤ m := by
    by_contra hlt
    have hstep : (m + 1) * d ≤ q * d := Nat.mul_le_mul_right d (Nat.not_le.1 hlt)
    rw [Nat.add_one_mul] at hstep
    omega
  have hge : m ≤ q + 1 := by
    by_contra hlt
    have hstep : (q + 1 + 1) * d ≤ m * d := Nat.mul_le_mul_right d (Nat.not_le.1 hlt)
    rw [Nat.add_one_mul, Nat.add_one_mul] at hstep
    omega
  rcases (show m = q ∨ m = q + 1 by omega) with rfl | rfl
  · split
    · rfl
    split
    · omega
    · omega
  · rw [Nat.add_one_mul q d] at hlow hhigh hodd
    split
    · omega
    split
    · rfl
    · omega

/-- The number of surplus digits of a quotient that lies in a binade. -/
theorem log2_sub_eq {n d s : Nat} (hd : 0 < d) (hbelow : n < 2 * binade * (d * 2 ^ s))
    (habove : s = 0 ∨ binade * (d * 2 ^ s) ≤ n) : Nat.log2 (n / d) - 52 = s := by
  have hlt : n / d < 2 ^ (53 + s) := by
    rw [Nat.div_lt_iff_lt_mul hd]
    calc n < 2 * binade * (d * 2 ^ s) := hbelow
      _ = 2 ^ (53 + s) * d := by rw [binade_eq, Nat.pow_add]; ring
  by_cases hzero : n / d = 0
  · rw [hzero, Nat.log2_zero]
    rcases habove with rfl | habove
    · rfl
    · have hone : 1 ≤ binade * 2 ^ s := Nat.mul_pos (by decide) (Nat.two_pow_pos s)
      have hge : binade * 2 ^ s ≤ n / d := by
        rw [Nat.le_div_iff_mul_le hd]
        calc binade * 2 ^ s * d = binade * (d * 2 ^ s) := by ring
          _ ≤ n := habove
      omega
  · have hlog := (Nat.log2_lt hzero).2 hlt
    rcases habove with rfl | habove
    · omega
    · have hge : 2 ^ (52 + s) ≤ n / d := by
        rw [Nat.le_div_iff_mul_le hd]
        calc 2 ^ (52 + s) * d = binade * (d * 2 ^ s) := by rw [binade_eq, Nat.pow_add]; ring
          _ ≤ n := habove
      have hlog' := (Nat.le_log2 hzero).2 hge
      omega

section Grid

variable {n d s m : Nat}

/-- **A quotient in a binade is rounded to the point of its grid** that is at most half a step away,
and half a step only if the point is even. -/
theorem nearestPayload_grid (hd : 0 < d) (hbelow : n * unitsOfOne < 2 * binade * (d * 2 ^ s))
    (habove : s = 0 ∨ binade * (d * 2 ^ s) ≤ n * unitsOfOne)
    (hlow : 2 * (m * (d * 2 ^ s)) ≤ 2 * (n * unitsOfOne) + d * 2 ^ s)
    (hhigh : 2 * (n * unitsOfOne) ≤ 2 * (m * (d * 2 ^ s)) + d * 2 ^ s)
    (hodd : m % 2 = 1 → 2 * (m * (d * 2 ^ s)) ≠ 2 * (n * unitsOfOne) + d * 2 ^ s ∧
      2 * (n * unitsOfOne) ≠ 2 * (m * (d * 2 ^ s)) + d * 2 ^ s) :
    nearestPayload n d = s * binade + m := by
  have hstep : 0 < d * 2 ^ s := Nat.mul_pos hd (Nat.two_pow_pos s)
  rw [nearestPayload, log2_sub_eq hd hbelow habove, Nat.shiftLeft_eq,
    roundToEven_eq hlow hhigh hodd hstep]

/-- What is at most half a step above a number of the binade lies below the end of the binade. -/
theorem lt_of_half_step (hd : 0 < d) (hm : m < 2 * binade)
    (hhigh : 2 * (n * unitsOfOne) ≤ 2 * (m * (d * 2 ^ s)) + d * 2 ^ s) :
    n * unitsOfOne < 2 * binade * (d * 2 ^ s) := by
  have hstep : 0 < d * 2 ^ s := Nat.mul_pos hd (Nat.two_pow_pos s)
  have hnext : (m + 1) * (d * 2 ^ s) ≤ 2 * binade * (d * 2 ^ s) := Nat.mul_le_mul_right _ hm
  rw [Nat.add_one_mul] at hnext
  omega

/-- Inside of the binade, what is at most half a step below a number lies above the start of the
binade. -/
theorem le_of_half_step (hm : s = 0 ∨ binade < m)
    (hlow : 2 * (m * (d * 2 ^ s)) ≤ 2 * (n * unitsOfOne) + d * 2 ^ s) :
    s = 0 ∨ binade * (d * 2 ^ s) ≤ n * unitsOfOne := by
  rcases hm with hs | hm
  · exact Or.inl hs
  · have hnext : (binade + 1) * (d * 2 ^ s) ≤ m * (d * 2 ^ s) := Nat.mul_le_mul_right _ hm
    rw [Nat.add_one_mul] at hnext
    exact Or.inr (by omega)

/-- At the start of a binade the grid below is finer, and what is rounded up from there lies on that
grid. -/
theorem nearestPayload_edge (hd : 0 < d)
    (hlow : ((2 * binade - 1) * 2 ^ s + binade * 2 ^ (s + 1)) * d ≤ 2 * (n * unitsOfOne))
    (hbelow : n * unitsOfOne < binade * (d * 2 ^ (s + 1))) :
    nearestPayload n d = (s + 1) * binade + binade := by
  have hpos : 0 < binade := by decide
  have htwice : binade * (d * 2 ^ (s + 1)) = 2 * binade * (d * 2 ^ s) := by
    rw [Nat.pow_succ]
    ring
  have hmidpoint : ((2 * binade - 1) * 2 ^ s + binade * 2 ^ (s + 1)) * d + d * 2 ^ s =
      2 * (2 * binade * (d * 2 ^ s)) := by
    obtain ⟨b, hb⟩ : ∃ b, 2 * binade = b + 1 := ⟨2 * binade - 1, by omega⟩
    rw [Nat.pow_succ, Nat.mul_comm (2 ^ s) 2, ← Nat.mul_assoc binade, Nat.mul_comm binade 2, hb,
      Nat.add_sub_cancel]
    ring
  have hpoint : 1 * (d * 2 ^ s) ≤ binade * (d * 2 ^ s) := Nat.mul_le_mul_right _ hpos
  have hsplit : 2 * binade * (d * 2 ^ s) = 2 * (binade * (d * 2 ^ s)) := Nat.mul_assoc 2 _ _
  have hpayload : (s + 1) * binade + binade = s * binade + 2 * binade := by ring
  rw [htwice] at hbelow
  rw [hpayload]
  refine nearestPayload_grid hd hbelow (Or.inr ?_) ?_ ?_ fun hodd => ?_
  · omega
  · omega
  · omega
  · rw [Nat.mul_mod_right] at hodd
    cases hodd

end Grid

/-! ## Between the midpoints -/

/-- A count of units in some scale lies between the midpoints to the two neighbours of a payload,
which belong to it only if it is even. -/
structure RoundsTo (payload count scale : Nat) : Prop where
  low : (units (payload - 1) + units payload) * scale ≤ 2 * count
  high : 2 * count ≤ (units payload + units (payload + 1)) * scale
  odd : payload % 2 = 1 → (units (payload - 1) + units payload) * scale ≠ 2 * count ∧
    2 * count ≠ (units payload + units (payload + 1)) * scale

/-- **What lies between the midpoints of a number is rounded to it.** -/
theorem RoundsTo.nearestPayload_eq {payload n d : Nat} (h : RoundsTo payload (n * unitsOfOne) d)
    (hd : 0 < d) : nearestPayload n d = payload := by
  obtain ⟨s, m, rfl, hm, hs⟩ := exists_grid payload
  obtain ⟨hlow, hhigh, hodd⟩ := h
  have hparity : (s * binade + m) % 2 = m % 2 := by
    have heven : binade = 2 * 2251799813685248 := by decide
    rw [heven, Nat.mul_left_comm, Nat.add_comm, Nat.add_mul_mod_self_left]
  have hupper : (m * 2 ^ s + (m + 1) * 2 ^ s) * d = 2 * (m * (d * 2 ^ s)) + d * 2 ^ s := by ring
  rw [units_grid (Nat.le_of_lt hm) hs] at hlow hhigh hodd
  rw [units_next hm hs, hupper] at hhigh hodd
  rw [hparity] at hodd
  have hbelow := lt_of_half_step hd hm hhigh
  by_cases hedge : m = binade ∧ s ≠ 0
  · -- the number below lies in the binade before, at half the distance
    obtain ⟨rfl, hs'⟩ := hedge
    obtain ⟨k, rfl⟩ : ∃ k, s = k + 1 := ⟨s - 1, by omega⟩
    rw [units_previous_edge] at hlow
    by_cases hfiner : n * unitsOfOne < binade * (d * 2 ^ (k + 1))
    · exact nearestPayload_edge hd hlow hfiner
    · refine nearestPayload_grid hd hbelow (Or.inr (by omega)) (by omega) hhigh fun hodd' => ?_
      exact absurd hodd' (by decide)
  · have hlower : 2 * (m * (d * 2 ^ s)) ≤ 2 * (n * unitsOfOne) + d * 2 ^ s ∧
        (m % 2 = 1 → 2 * (m * (d * 2 ^ s)) ≠ 2 * (n * unitsOfOne) + d * 2 ^ s) := by
      rcases Nat.eq_zero_or_pos m with rfl | hpos
      · rw [Nat.zero_mul]
        exact ⟨Nat.zero_le _, fun hodd' => by cases hodd'⟩
      · obtain ⟨b, rfl⟩ : ∃ b, m = b + 1 := ⟨m - 1, by omega⟩
        have hprevious : units (s * binade + (b + 1) - 1) = b * 2 ^ s :=
          units_previous (by omega) (by omega)
        have hmidpoint : (b * 2 ^ s + (b + 1) * 2 ^ s) * d + d * 2 ^ s =
            2 * ((b + 1) * (d * 2 ^ s)) := by ring
        rw [hprevious] at hlow hodd
        exact ⟨by omega, fun hodd' heq => (hodd hodd').1 (by omega)⟩
    exact nearestPayload_grid hd hbelow (le_of_half_step (by omega) hlower.1) hlower.1 hhigh
      fun hodd' => ⟨hlower.2 hodd', (hodd hodd').2⟩

section Order

variable {p q count count' scale scale' : Nat}

/-- Only the quotient of the count and the scale matters. -/
theorem RoundsTo.of_same_quotient (h : RoundsTo p count scale)
    (hsame : count' * scale = count * scale') (hscale : 0 < scale) (hscale' : 0 < scale') :
    RoundsTo p count' scale' := by
  have hcross : 2 * count' * scale = 2 * count * scale' := by
    rw [Nat.mul_assoc, hsame, Nat.mul_assoc]
  have hswap (x : Nat) : x * scale' * scale = x * scale * scale' :=
    Nat.mul_right_comm x scale' scale
  obtain ⟨hlow, hhigh, hodd⟩ := h
  refine ⟨?_, ?_, fun hp => ⟨fun heq => (hodd hp).1 ?_, fun heq => (hodd hp).2 ?_⟩⟩
  · apply Nat.le_of_mul_le_mul_right _ hscale
    rw [hswap, hcross]
    exact Nat.mul_le_mul_right scale' hlow
  · apply Nat.le_of_mul_le_mul_right _ hscale
    rw [hswap, hcross]
    exact Nat.mul_le_mul_right scale' hhigh
  · apply Nat.eq_of_mul_eq_mul_right hscale'
    rw [← hswap, heq, hcross]
  · apply Nat.eq_of_mul_eq_mul_right hscale'
    rw [← hswap, ← heq, hcross]

/-- The magnitude of a number is rounded to the number. -/
theorem roundsTo_units (payload : Nat) (hscale : 0 < scale) :
    RoundsTo payload (units payload * scale) scale := by
  have hbelow : units (payload - 1) ≤ units payload := units_strictMono.monotone (Nat.sub_le _ _)
  have habove := units_lt_succ payload
  rw [show units payload * scale = scale * units payload from Nat.mul_comm _ _]
  refine ⟨?_, ?_, fun hodd => ⟨Nat.ne_of_lt ?_, Nat.ne_of_lt ?_⟩⟩
  · rw [Nat.mul_left_comm, Nat.mul_comm _ scale]
    exact Nat.mul_le_mul_left scale (by omega)
  · rw [Nat.mul_left_comm, Nat.mul_comm _ scale]
    exact Nat.mul_le_mul_left scale (by omega)
  · -- an odd payload is not the first one
    have hstrict : units (payload - 1) < units payload := units_strictMono (by omega)
    rw [Nat.mul_left_comm, Nat.mul_comm _ scale]
    exact Nat.mul_lt_mul_of_pos_left (by omega) hscale
  · rw [Nat.mul_left_comm, Nat.mul_comm _ scale]
    exact Nat.mul_lt_mul_of_pos_left (by omega) hscale

/-- **Rounding keeps the order.** -/
theorem RoundsTo.le_of_le (h : RoundsTo p count scale) (h' : RoundsTo q count' scale)
    (hcount : count ≤ count') (hscale : 0 < scale) : p ≤ q := by
  by_contra hlt
  have hlast : q ≤ p - 1 := by omega
  have hnext : q + 1 ≤ p := by omega
  have hsum : units q + units (q + 1) ≤ units (p - 1) + units p :=
    Nat.add_le_add (units_strictMono.monotone hlast) (units_strictMono.monotone hnext)
  have hmidpoints := Nat.mul_le_mul_right scale hsum
  have hhigh := h'.high
  have hlow := h.low
  -- so both midpoints are one, between neighbours, of which one is odd
  have hequal : units q + units (q + 1) = units (p - 1) + units p :=
    Nat.eq_of_mul_eq_mul_right hscale (by omega)
  have hneighbour : q + 1 = p := by
    by_contra hne
    have hstrict : units (q + 1) < units p := units_strictMono (by omega)
    have hle : units q ≤ units (p - 1) := units_strictMono.monotone hlast
    omega
  rcases Nat.mod_two_eq_zero_or_one q with heven | hodd
  · exact (h.odd (by omega)).1 (by omega)
  · exact (h'.odd hodd).2 (by omega)

end Order

theorem isFinite_nearest {n d : Nat} (h : (nearest n d).isInfinite = false) :
    (nearest n d).isFinite = true := by
  have hle : (nearest n d).payload ≤ infinitePayload := Nat.min_le_right _ _
  exact decide_eq_true (Nat.lt_of_le_of_ne hle (of_decide_eq_false h))

end LoxSyntax.Binary64
