/-
# Shortest decimals are read back

The shortest decimal of a number lies between the midpoints to its two neighbours.  Written
positionally it is a numeral, and the numeral is rounded to the number again.  The first digit of
the decimal tells the range of the number, so the positional notation is used for one range of
numbers.
-/
import Mathlib.Data.List.TakeWhile
import LoxSyntax.Binary64.Notation
import LoxSyntax.Source.Segmentation
import LoxSyntax.Proofs.Rounding

namespace LoxSyntax.Binary64

/-! ## Counts of decimal units -/

/-- The number of places behind the point that decimal units have. -/
@[irreducible] def decimalPlaces : Nat := 1074

/-- The number of decimal units in the number one. -/
def decimalUnitsOfOne : Nat := Nat.pow 10 decimalPlaces

theorem decimalUnits_mul : decimalUnits * unitsOfOne = decimalUnitsOfOne := by decide +kernel

theorem decimalUnits_pos : 0 < decimalUnits := by decide +kernel

theorem pow_mul_decimalUnitsOfOne (n : Nat) :
    10 ^ n * decimalUnitsOfOne = 10 ^ (n + decimalPlaces) := by
  rw [decimalUnitsOfOne, Nat.pow_eq, Nat.pow_add]

section Counts

variable {payload count steps grid n d : Nat}

/-- **A count of decimal units is read back exactly if it lies between the midpoints.** -/
theorem readsBack_iff : readsBack payload count = true ↔ RoundsTo payload count decimalUnits := by
  simp only [readsBack, decimalMagnitude, ← Nat.add_mul]
  constructor
  · intro h
    split at h
    · rename_i heven
      simp only [Bool.and_eq_true, decide_eq_true_eq] at h
      exact ⟨h.1, h.2, fun hodd => by omega⟩
    · simp only [Bool.and_eq_true, decide_eq_true_eq] at h
      exact ⟨Nat.le_of_lt h.1, Nat.le_of_lt h.2, fun _ => ⟨Nat.ne_of_lt h.1, Nat.ne_of_lt h.2⟩⟩
  · rintro ⟨hlow, hhigh, hodd⟩
    split
    · simp only [Bool.and_eq_true, decide_eq_true_eq]
      exact ⟨hlow, hhigh⟩
    · obtain ⟨hne, hne'⟩ := hodd (by omega)
      simp only [Bool.and_eq_true, decide_eq_true_eq]
      exact ⟨Nat.lt_of_le_of_ne hlow hne, Nat.lt_of_le_of_ne hhigh hne'⟩

theorem readsBack_decimalMagnitude (payload : Nat) :
    readsBack payload (decimalMagnitude payload) = true :=
  readsBack_iff.2 (roundsTo_units payload decimalUnits_pos)

/-- What is chosen on a grid is read back. -/
theorem readsBack_of_onGrid? (h : onGrid? payload grid = some steps) :
    readsBack payload (steps * grid) = true := by
  simp only [onGrid?] at h
  split at h
  case h_1 => cases h
  case h_2 hbelow _ =>
    cases h
    exact hbelow
  case h_3 _ habove =>
    cases h
    exact habove
  case h_4 hbelow habove =>
    split at h
    · cases h
      exact hbelow
    split at h
    · cases h
      exact habove
    · -- the even one of the two
      cases h
      rcases Nat.mod_two_eq_zero_or_one (decimalMagnitude payload / grid) with heven | hodd
      · rw [heven, Nat.add_zero]
        exact hbelow
      · rw [hodd]
        exact habove

/-- **The shortest decimal is read back**, whatever its number of digits. -/
theorem shortest_readsBack (payload : Nat) : ∃ steps grid,
    shortest payload = Decimal.ofSteps steps grid ∧
      readsBack payload (steps * Nat.pow 10 grid) = true := by
  rw [shortest]
  cases hfound : (List.range' 1 17).findSome? _ with
  | none =>
    refine ⟨decimalMagnitude payload, 0, rfl, ?_⟩
    rw [Nat.pow_eq, Nat.pow_zero, Nat.mul_one]
    exact readsBack_decimalMagnitude payload
  | some decimal =>
    obtain ⟨digits, -, hdigits⟩ := List.exists_of_findSome?_eq_some hfound
    obtain ⟨steps, hsteps, rfl⟩ := Option.map_eq_some_iff.1 hdigits
    exact ⟨steps, _, rfl, readsBack_of_onGrid? hsteps⟩

/-- A positive number is not read back from nothing. -/
theorem count_pos (hpayload : 0 < payload) (h : readsBack payload count = true) : 0 < count := by
  have hlow := (readsBack_iff.1 h).low
  have hunits : units 0 < units payload := units_strictMono hpayload
  have hmidpoint : 0 < (units (payload - 1) + units payload) * decimalUnits :=
    Nat.mul_pos (by omega) decimalUnits_pos
  omega

/-- **A quotient that is a count read back is rounded to the number.** -/
theorem nearestPayload_of_readsBack (h : readsBack payload count = true) (hd : 0 < d)
    (hsame : n * decimalUnitsOfOne = count * d) : nearestPayload n d = payload := by
  refine RoundsTo.nearestPayload_eq ?_ hd
  refine (readsBack_iff.1 h).of_same_quotient ?_ decimalUnits_pos hd
  rw [Nat.mul_assoc, Nat.mul_comm unitsOfOne, decimalUnits_mul, hsame]

end Counts

/-! ## Digits -/

section Digits

variable {digits digits' : List Char} {n : Nat}

theorem isDigit_of_mem_toDigits {n : Nat} : ∀ c ∈ Nat.toDigits 10 n, Segment.isDigit c = true :=
  fun _ hc => Nat.isDigit_of_mem_toDigits (by decide) (by decide) hc

theorem isDigit_of_mem_zeros {n : Nat} : ∀ c ∈ List.replicate n '0', Segment.isDigit c = true := by
  intro c hc
  rw [List.eq_of_mem_replicate hc]
  rfl

theorem digitsValue_toDigits (n : Nat) : digitsValue (Nat.toDigits 10 n) = n :=
  Nat.ofDigitChars_ten_toDigits

/-- Digits behind others leave these their places. -/
theorem digitsValue_append (digits digits' : List Char) :
    digitsValue (digits ++ digits') = 10 ^ digits'.length * digitsValue digits +
      digitsValue digits' := by
  have happend : digitsValue (digits ++ digits') =
      Nat.ofDigitChars 10 digits' (digitsValue digits) := Nat.ofDigitChars_append 0
  rw [happend, Nat.ofDigitChars_eq_ofDigitChars_zero]
  rfl

theorem digitsValue_zeros (n : Nat) : digitsValue (List.replicate n '0') = 0 := by
  have hzeros : digitsValue (List.replicate n '0') = 10 ^ n * 0 := Nat.ofDigitChars_replicate_zero
  rw [hzeros, Nat.mul_zero]

theorem digitsValue_append_zeros (digits : List Char) (n : Nat) :
    digitsValue (digits ++ List.replicate n '0') = digitsValue digits * 10 ^ n := by
  rw [digitsValue_append, digitsValue_zeros, List.length_replicate, Nat.add_zero, Nat.mul_comm]

theorem digitsValue_zeros_append (n : Nat) (digits : List Char) :
    digitsValue (List.replicate n '0' ++ digits) = digitsValue digits := by
  rw [digitsValue_append, digitsValue_zeros, Nat.mul_zero, Nat.zero_add]

/-- The digits of a number, without the zeros at the end. -/
theorem exists_zeros (digits : List Char) : ∃ zeros,
    digits = (digits.reverse.dropWhile (· = '0')).reverse ++ List.replicate zeros '0' := by
  have hsplit := List.takeWhile_append_dropWhile (p := (· = '0')) (l := digits.reverse)
  have hzeros : digits.reverse.takeWhile (· = '0') =
      List.replicate (digits.reverse.takeWhile (· = '0')).length '0' := by
    rw [List.eq_replicate_iff]
    exact ⟨rfl, fun c hc => by simpa using List.mem_takeWhile_imp hc⟩
  refine ⟨(digits.reverse.takeWhile (· = '0')).length, ?_⟩
  rw [← List.reverse_replicate, ← hzeros, ← List.reverse_append, hsplit, List.reverse_reverse]

end Digits

/-! ## Decimals as counts -/

/-- The decimal is a count of decimal units: its digits make a number with so many digits, and
zeros follow that fill up the units. -/
structure Decimal.Counts (d : Decimal) (count : Nat) : Prop where
  digits : ∀ c ∈ d.digits, Segment.isDigit c = true
  ne_nil : d.digits ≠ []
  low : 10 ^ (d.digits.length - 1) ≤ digitsValue d.digits
  high : digitsValue d.digits < 10 ^ d.digits.length
  place : ∃ zeros : Nat, count = digitsValue d.digits * 10 ^ zeros ∧
    d.exponent = (d.digits.length - 1 + zeros : Nat) - 1074

/-- A positive number needs all its digits. -/
theorem toDigits_bounds {n : Nat} (h : 0 < n) :
    10 ^ ((Nat.toDigits 10 n).length - 1) ≤ n ∧ n < 10 ^ (Nat.toDigits 10 n).length := by
  have hpos : 0 < (Nat.toDigits 10 n).length := Nat.length_toDigits_pos
  constructor
  · by_cases hone : (Nat.toDigits 10 n).length = 1
    · rw [hone]
      exact h
    · by_contra hlt
      have hfewer := (Nat.length_toDigits_le_iff (by decide) (by omega)).2 (Nat.not_le.1 hlt)
      omega
  · exact (Nat.length_toDigits_le_iff (by decide) hpos).1 (Nat.le_refl _)

/-- **Grid steps are counted by the decimal made of them.** -/
theorem Decimal.counts_ofSteps {steps : Nat} (grid : Nat) (hsteps : 0 < steps) :
    (Decimal.ofSteps steps grid).Counts (steps * Nat.pow 10 grid) := by
  obtain ⟨zeros, hzeros⟩ := exists_zeros (Nat.toDigits 10 steps)
  obtain ⟨hlow, hhigh⟩ := toDigits_bounds hsteps
  have hvalue := digitsValue_toDigits steps
  have hkept : (Decimal.ofSteps steps grid).digits =
      ((Nat.toDigits 10 steps).reverse.dropWhile (· = '0')).reverse := rfl
  have hexponent : (Decimal.ofSteps steps grid).exponent =
      ((Nat.toDigits 10 steps).length - 1 + grid : Nat) - 1074 := rfl
  rw [← hkept] at hzeros
  rw [hzeros, List.length_append, List.length_replicate] at hlow hhigh hexponent
  rw [hzeros, digitsValue_append_zeros] at hvalue
  have hne : (Decimal.ofSteps steps grid).digits ≠ [] := by
    intro hnil
    rw [hnil] at hvalue
    have hzero : digitsValue [] * 10 ^ zeros = 0 := Nat.zero_mul _
    omega
  have hpos : 0 < (Decimal.ofSteps steps grid).digits.length := List.length_pos_iff.2 hne
  have hscale : 0 < 10 ^ zeros := Nat.pow_pos (by decide)
  refine ⟨fun c hc => isDigit_of_mem_toDigits (n := steps) c ?_, hne, ?_, ?_, zeros + grid, ?_, ?_⟩
  · rw [hzeros]
    exact List.mem_append_left _ hc
  · apply Nat.le_of_mul_le_mul_right _ hscale
    rw [hvalue, ← Nat.pow_add]
    rwa [Nat.sub_add_comm hpos] at hlow
  · apply Nat.lt_of_mul_lt_mul_right (a := 10 ^ zeros)
    rwa [hvalue, ← Nat.pow_add]
  · rw [Nat.pow_add, ← Nat.mul_assoc, hvalue, Nat.pow_eq]
  · rw [hexponent]
    omega

section Positional

variable {d : Decimal} {count : Nat}

/-- A count has as many places as the exponent of its decimal says. -/
theorem Decimal.Counts.bounds (h : d.Counts count) : ∃ place : Nat, d.exponent = place - 1074 ∧
    10 ^ place ≤ count ∧ count < 10 ^ (place + 1) := by
  obtain ⟨zeros, rfl, hexponent⟩ := h.place
  have hpos : 0 < d.digits.length := List.length_pos_iff.2 h.ne_nil
  refine ⟨d.digits.length - 1 + zeros, hexponent, ?_, ?_⟩
  · rw [Nat.pow_add]
    exact Nat.mul_le_mul_right _ h.low
  · rw [show d.digits.length - 1 + zeros + 1 = d.digits.length + zeros by omega, Nat.pow_add]
    exact Nat.mul_lt_mul_of_pos_right h.high (Nat.pow_pos (by decide))

/-- Two parts of a numeral that have the value of a count. -/
structure SpellsCount (whole fraction : List Char) (count : Nat) : Prop where
  whole_ne : whole ≠ []
  whole_digits : ∀ c ∈ whole, Segment.isDigit c = true
  fraction_ne : fraction ≠ []
  fraction_digits : ∀ c ∈ fraction, Segment.isDigit c = true
  value : digitsValue (whole ++ fraction) * decimalUnitsOfOne = count * 10 ^ fraction.length

/-- The digits of a count, with zeros before and behind them, have its value if they stand in the
right places. -/
theorem Decimal.Counts.spellsCount (h : d.Counts count) {whole fraction : List Char} (shift : Nat)
    (hwhole : whole ≠ [] ∧ ∀ c ∈ whole, Segment.isDigit c = true)
    (hfraction : fraction ≠ [] ∧ ∀ c ∈ fraction, Segment.isDigit c = true)
    (hvalue : digitsValue (whole ++ fraction) = digitsValue d.digits * 10 ^ shift)
    (hshift : d.exponent + fraction.length = (d.digits.length - 1 + shift : Nat)) :
    SpellsCount whole fraction count := by
  obtain ⟨zeros, rfl, hexponent⟩ := h.place
  have hplaces : decimalPlaces = 1074 := by rw [decimalPlaces]
  refine ⟨hwhole.1, hwhole.2, hfraction.1, hfraction.2, ?_⟩
  rw [hvalue, Nat.mul_assoc, Nat.mul_assoc, pow_mul_decimalUnitsOfOne, ← Nat.pow_add,
    show shift + decimalPlaces = zeros + fraction.length by omega]

/-- **Positional notation is a numeral** of the same value. -/
theorem Decimal.Counts.positional (h : d.Counts count) : ∃ whole fraction,
    d.positional = whole ++ '.' :: fraction ∧ SpellsCount whole fraction count := by
  have hpos : 0 < d.digits.length := List.length_pos_iff.2 h.ne_nil
  have hzero : ∀ c ∈ ['0'], Segment.isDigit c = true := isDigit_of_mem_zeros (n := 1)
  rw [Decimal.positional]
  split
  · rename_i hnegative
    have hfront : digitsValue (['0'] ++ (List.replicate (d.exponent.natAbs - 1) '0' ++ d.digits)) =
        digitsValue d.digits := by
      rw [← List.append_assoc, show ['0'] = List.replicate 1 '0' from rfl,
        List.replicate_append_replicate, digitsValue_zeros_append]
    refine ⟨['0'], List.replicate (d.exponent.natAbs - 1) '0' ++ d.digits, rfl, ?_⟩
    refine h.spellsCount 0 ⟨by simp, hzero⟩ ⟨?_, ?_⟩ ?_ ?_
    · exact List.append_ne_nil_of_right_ne_nil _ h.ne_nil
    · exact List.forall_mem_append.2 ⟨isDigit_of_mem_zeros, h.digits⟩
    · rw [hfront, Nat.pow_zero, Nat.mul_one]
    · rw [List.length_append, List.length_replicate]
      omega
  · rename_i hnonnegative
    set places := d.exponent.natAbs + 1 with hplaces
    by_cases hshort : d.digits.length ≤ places
    · -- all digits stand before the point
      refine ⟨d.digits ++ List.replicate (places - d.digits.length) '0', ['0'], ?_, ?_⟩
      · show d.digits.take places ++ List.replicate (places - d.digits.length) '0' ++ '.' ::
          (if (d.digits.drop places).isEmpty then ['0'] else d.digits.drop places) = _
        rw [List.take_of_length_le hshort, List.drop_of_length_le hshort]
        rfl
      refine h.spellsCount (places - d.digits.length + 1) ⟨?_, ?_⟩ ⟨by simp, hzero⟩ ?_ ?_
      · exact List.append_ne_nil_of_left_ne_nil h.ne_nil _
      · exact List.forall_mem_append.2 ⟨h.digits, isDigit_of_mem_zeros⟩
      · rw [List.append_assoc, show ['0'] = List.replicate 1 '0' from rfl,
          List.replicate_append_replicate, digitsValue_append_zeros]
      · rw [List.length_singleton]
        omega
    · -- the point stands among the digits
      have hdrop : (d.digits.drop places).length = d.digits.length - places := List.length_drop
      have hne : d.digits.drop places ≠ [] := List.length_pos_iff.1 (by omega)
      refine ⟨d.digits.take places, d.digits.drop places, ?_, ?_⟩
      · show d.digits.take places ++ List.replicate (places - d.digits.length) '0' ++ '.' ::
          (if (d.digits.drop places).isEmpty then ['0'] else d.digits.drop places) = _
        rw [Nat.sub_eq_zero_of_le (Nat.le_of_not_le hshort), List.replicate_zero, List.append_nil,
          if_neg]
        rwa [List.isEmpty_iff]
      refine h.spellsCount 0 ⟨?_, ?_⟩ ⟨hne, ?_⟩ ?_ ?_
      · apply List.length_pos_iff.1
        rw [List.length_take]
        omega
      · exact fun c hc => h.digits c (List.mem_of_mem_take hc)
      · exact fun c hc => h.digits c (List.mem_of_mem_drop hc)
      · rw [List.take_append_drop, Nat.pow_zero, Nat.mul_one]
      · omega

end Positional

/-! ## Numbers read back -/

section ReadBack

variable {x : Binary64} {payload count : Nat} {whole fraction : List Char}

/-- **The shortest decimal of a positive number is a count that is read back.** -/
theorem exists_counts_shortest (hpayload : 0 < payload) :
    ∃ count, readsBack payload count = true ∧ (shortest payload).Counts count := by
  obtain ⟨steps, grid, hshortest, hback⟩ := shortest_readsBack payload
  have hsteps : 0 < steps := Nat.pos_of_mul_pos_right (count_pos hpayload hback)
  rw [hshortest]
  exact ⟨_, hback, Decimal.counts_ofSteps grid hsteps⟩

/-- What is rounded to the payload of a finite number without a sign is rounded to the number. -/
theorem nearest_eq {n d : Nat} (hsign : x.negative = false) (hfinite : x.isFinite = true)
    (h : nearestPayload n d = x.payload) : nearest n d = x := by
  have hle : x.payload ≤ infinitePayload := Nat.le_of_lt (of_decide_eq_true hfinite)
  obtain ⟨negative, payload, hlt⟩ := x
  cases hsign
  simp only [nearest, h, Nat.min_eq_left hle]

/-- **A numeral with the value of a count that is read back denotes the number.** -/
theorem SpellsCount.ofDecimal_eq (h : SpellsCount whole fraction count)
    (hback : readsBack x.payload count = true) (hsign : x.negative = false)
    (hfinite : x.isFinite = true) : ofDecimal whole fraction = x := by
  refine nearest_eq hsign hfinite ?_
  exact nearestPayload_of_readsBack hback (Nat.pow_pos (by decide)) h.value

/-- Digits with the value of a whole number denote it. -/
theorem ofDecimal_of_whole (hsign : x.negative = false) (hfinite : x.isFinite = true)
    (hwhole : digitsValue whole * unitsOfOne = units x.payload) : ofDecimal whole [] = x := by
  refine nearest_eq hsign hfinite ?_
  rw [List.append_nil]
  refine RoundsTo.nearestPayload_eq ?_ Nat.one_pos
  rw [hwhole, ← Nat.mul_one (units x.payload)]
  exact roundsTo_units x.payload Nat.one_pos

end ReadBack

/-! ## The range of positional notation -/

/-- The number nearest to one ten thousandth, the least one that is written positionally. -/
def tenThousandth : Binary64 := ofDecimal ['0'] ['0', '0', '0', '1']

section Range

variable {payload count : Nat}

/-- Counts that are read back are ordered like the numbers. -/
theorem le_of_readsBack {payload' count' : Nat} (h : readsBack payload count = true)
    (h' : readsBack payload' count' = true) (hcount : count ≤ count') : payload ≤ payload' :=
  (readsBack_iff.1 h).le_of_le (readsBack_iff.1 h') hcount decimalUnits_pos

/-- **The notation is positional from one ten thousandth on.** -/
theorem neg_four_le_exponent_iff (hpayload : 0 < payload) :
    -4 ≤ (shortest payload).exponent ↔ tenThousandth.payload ≤ payload := by
  have hplaces : decimalPlaces = 1074 := by rw [decimalPlaces]
  have hback : readsBack tenThousandth.payload (10 ^ (decimalPlaces - 4)) = true := by
    decide +kernel
  have hexponent : (shortest tenThousandth.payload).exponent = -4 := by decide +kernel
  obtain ⟨count, hcount, hcounts⟩ := exists_counts_shortest hpayload
  obtain ⟨place, hplace, hlow, hhigh⟩ := hcounts.bounds
  constructor
  · intro h
    have hle : 10 ^ (decimalPlaces - 4) ≤ 10 ^ place := Nat.pow_le_pow_right (by decide) (by omega)
    exact le_of_readsBack hback hcount (Nat.le_trans hle hlow)
  · intro h
    by_contra hlt
    have hle : 10 ^ (place + 1) ≤ 10 ^ (decimalPlaces - 4) :=
      Nat.pow_le_pow_right (by decide) (by omega)
    have hge : payload ≤ tenThousandth.payload :=
      le_of_readsBack hcount hback (Nat.le_of_lt (Nat.lt_of_lt_of_le hhigh hle))
    rw [Nat.le_antisymm hge h, hexponent] at hlt
    exact hlt (Int.le_refl _)

/-- The units of one divide those of larger powers of two. -/
theorem unitsOfOne_dvd_pow {s : Nat} (h : decimalPlaces ≤ s) : unitsOfOne ∣ 2 ^ s := by
  have hone : unitsOfOne = 2 ^ decimalPlaces := by decide +kernel
  rw [hone]
  exact Nat.pow_dvd_pow 2 h

/-- Numbers from two to the power of 53 on are whole. -/
theorem unitsOfOne_dvd_units (h : 1076 * binade ≤ payload) : unitsOfOne ∣ units payload := by
  have hplaces : decimalPlaces = 1074 := by rw [decimalPlaces]
  obtain ⟨s, m, rfl, hm, hs⟩ := exists_grid payload
  have hlarge : decimalPlaces ≤ s := by
    by_contra hlt
    have hle : s * binade ≤ 1073 * binade := Nat.mul_le_mul_right binade (by omega)
    omega
  rw [units_grid (Nat.le_of_lt hm) hs]
  exact Nat.dvd_mul_left_of_dvd (unitsOfOne_dvd_pow hlarge) m

/-- **Numbers that are not whole have few digits before the point.** -/
theorem exponent_lt_of_not_dvd (h : ¬ unitsOfOne ∣ units payload) :
    (shortest payload).exponent < 16 := by
  have hplaces : decimalPlaces = 1074 := by rw [decimalPlaces]
  have hpayload : 0 < payload := by
    apply Nat.pos_of_ne_zero
    rintro rfl
    exact h (Nat.dvd_zero _)
  obtain ⟨count, hcount, hcounts⟩ := exists_counts_shortest hpayload
  obtain ⟨place, hplace, hlow, hhigh⟩ := hcounts.bounds
  by_contra hge
  apply h
  apply unitsOfOne_dvd_units
  have hunits : decimalMagnitude (1076 * binade) ≤ 10 ^ (decimalPlaces + 16) := by decide +kernel
  have hle : 10 ^ (decimalPlaces + 16) ≤ 10 ^ place := Nat.pow_le_pow_right (by decide) (by omega)
  exact le_of_readsBack (readsBack_decimalMagnitude _) hcount
    (Nat.le_trans hunits (Nat.le_trans hle hlow))

theorem one_le_of_dvd (hpayload : 0 < payload) (h : unitsOfOne ∣ units payload) :
    one.payload ≤ payload := by
  have hpos : units 0 < units payload := units_strictMono hpayload
  rw [← units_strictMono.le_iff_le, units_one]
  exact Nat.le_of_dvd (Nat.zero_lt_of_lt hpos) h

end Range

end LoxSyntax.Binary64
