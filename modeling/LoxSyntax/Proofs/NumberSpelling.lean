/-
# Numerals and the spelling of their numbers

A numeral is scanned to its number, and the number is spelled again: a whole number with all its
digits, another one with its shortest decimal.  Digits and positional decimals are numerals for the
number.  An exponent is no part of a numeral: a number below one ten thousandth is spelled with one,
and the spelling falls into four tokens.
-/
import LoxSyntax.Proofs.Lines
import LoxSyntax.Proofs.ScannedTokens
import LoxSyntax.Proofs.ShortestDecimal

namespace LoxSyntax

/-! ## Scanning numerals -/

namespace Segment

variable {whole fraction : List Char}

/-- The parts of a numeral. -/
theorem IsNumeral.exists_number {numeral : List Char} (h : IsNumeral numeral) :
    ∃ whole fraction, numeral = (number whole fraction).text ∧
      Munch (number whole fraction) [] := by
  cases h with
  | digits hne hw => exact ⟨numeral, [], rfl, munch_number_nil hne hw (by simp)⟩
  | @decimal whole fraction hne hw hne' hf =>
    refine ⟨whole, fraction, ?_, munch_number_nil hne hw hf⟩
    rw [text_number, if_neg hne']

/-- **A numeral is scanned to one token**, and to an error if it is at fault. -/
theorem scan_number (h : Munch (number whole fraction) []) :
    scan (String.ofList (number whole fraction).text) =
      ⟨[⟨.number, String.ofList (number whole fraction).text,
        .number (.ofDecimal whole fraction), 1⟩, Token.endAt 1],
        ((number whole fraction).error? 1).toList⟩ := by
  have htoken : (number whole fraction).token? 1 = some ⟨.number,
      String.ofList (number whole fraction).text, .number (.ofDecimal whole fraction), 1⟩ := rfl
  rw [scan_of_segment h (lineFeeds_of_isSolid h trivial), htoken,
    Option.toList_some, List.singleton_append]

/-- A numeral for a finite number is scanned without errors. -/
theorem scan_number_of_finite (h : Munch (number whole fraction) [])
    (hfinite : (Binary64.ofDecimal whole fraction).isInfinite = false) :
    scan (String.ofList (number whole fraction).text) =
      ⟨[⟨.number, String.ofList (number whole fraction).text,
        .number (.ofDecimal whole fraction), 1⟩, Token.endAt 1], []⟩ := by
  have hfault : (number whole fraction).fault? = none := by
    rw [fault?, hfinite, if_neg (by decide)]
  rw [scan_number h, error?, hfault]
  rfl

/-- A numeral that is not reported as out of range denotes a finite number. -/
theorem not_isInfinite_of_errors (h : Munch (number whole fraction) [])
    (hrange : ∀ e ∈ (scan (String.ofList (number whole fraction).text)).errors,
      e.code? ≠ some "L004") : (Binary64.ofDecimal whole fraction).isInfinite = false := by
  rw [Bool.eq_false_iff]
  intro hinfinite
  have herror : (number whole fraction).error? 1 = some
      ((LexicalFault.numberTooLarge (number whole fraction).text).at
        (1 + (number whole fraction).lineFeeds)) := by
    rw [error?, fault?, if_pos hinfinite, Option.map_some]
  rw [scan_number h, herror] at hrange
  exact hrange _ (List.mem_singleton_self _) rfl

/-- A numeral with a negative exponent falls into four segments. -/
theorem segmented_exponent {digits : List Char} (hne : whole ≠ [])
    (hw : ∀ c ∈ whole, isDigit c = true) (hf : ∀ c ∈ fraction, isDigit c = true)
    (hne' : digits ≠ []) (hd : ∀ c ∈ digits, isDigit c = true) :
    Segmented ((number whole fraction).text ++ 'e' :: '-' :: digits)
      [number whole fraction, word ['e'], symbol .minus ['-'], number digits []] := by
  have hdigits : Segmented ((number digits []).text ++ []) [number digits []] :=
    Segmented.cons (munch_number_nil hne' hd (by simp)) Segmented.nil
  rw [List.append_nil] at hdigits
  have hminus : Segmented ('-' :: digits) [symbol .minus ['-'], number digits []] :=
    Segmented.cons (Munch.single (by decide)) hdigits
  have hletter : Munch (word ['e']) ('-' :: digits) := by
    refine Munch.word rfl (by simp) ?_
    rintro c ⟨⟩
    rfl
  have hword : Segmented ('e' :: '-' :: digits)
      [word ['e'], symbol .minus ['-'], number digits []] := Segmented.cons hletter hminus
  refine Segmented.cons (munch_number_append hne hw hf ?_) hword
  rintro c ⟨⟩
  decide

end Segment

/-! ## The spelling of a number -/

namespace Value

open Binary64

variable {x : Binary64}

/-- A whole number is spelled with its digits, which denote it. -/
theorem exists_spelling_of_whole (hsign : x.negative = false) (hfinite : x.isFinite = true)
    (h : unitsOfOne ∣ units x.payload) : ∃ whole fraction,
      (number x).spelling = .ok (String.ofList (Segment.number whole fraction).text) ∧
        Segment.Munch (.number whole fraction) [] ∧ ofDecimal whole fraction = x := by
  have hwhole : x.whole? = some (units x.payload / unitsOfOne : Nat) := by
    rw [whole?, hfinite, Nat.mod_eq_zero_of_dvd h, hsign]
    rfl
  refine ⟨Nat.toDigits 10 (units x.payload / unitsOfOne), [], ?_, ?_, ?_⟩
  · simp only [spelling, hwhole]
    rfl
  · exact Segment.munch_number_nil Nat.toDigits_ne_nil isDigit_of_mem_toDigits (by simp)
  · refine ofDecimal_of_whole hsign hfinite ?_
    rw [digitsValue_toDigits, Nat.div_mul_cancel h]

/-- Another number is spelled with its shortest decimal. -/
theorem spelling_of_not_whole (hsign : x.negative = false) (hfinite : x.isFinite = true)
    (h : ¬ unitsOfOne ∣ units x.payload) :
    (number x).spelling = .ok (String.ofList (shortest x.payload).text) := by
  have hlt : x.payload < infinitePayload := of_decide_eq_true hfinite
  have hwhole : x.whole? = none := by
    rw [whole?, hfinite, Bool.true_and, if_neg]
    rw [beq_iff_eq]
    exact fun hmod => h (Nat.dvd_of_mod_eq_zero hmod)
  have hnaN : x.isNaN = false := decide_eq_false (Nat.not_lt.2 (Nat.le_of_lt hlt))
  have hinfinite : x.isInfinite = false := decide_eq_false (Nat.ne_of_lt hlt)
  have hzero : x.payload ≠ 0 := by
    intro hzero
    rw [hzero] at h
    exact h (Nat.dvd_zero _)
  simp only [spelling, hwhole, Binary64.text, hnaN, hsign, magnitudeText, hzero, hinfinite,
    Bool.false_eq_true, if_false]

/-- **Zero, and a number from one ten thousandth on, is spelled by a numeral that denotes it.** -/
theorem exists_spelling_numeral (hsign : x.negative = false) (hfinite : x.isFinite = true)
    (h : x.payload = 0 ∨ tenThousandth.payload ≤ x.payload) : ∃ whole fraction,
      (number x).spelling = .ok (String.ofList (Segment.number whole fraction).text) ∧
        Segment.Munch (.number whole fraction) [] ∧ ofDecimal whole fraction = x := by
  by_cases hwhole : unitsOfOne ∣ units x.payload
  · exact exists_spelling_of_whole hsign hfinite hwhole
  · have hpositive : 0 < x.payload := by
      apply Nat.pos_of_ne_zero
      intro hzero
      rw [hzero] at hwhole
      exact hwhole (Nat.dvd_zero _)
    have hrange : -4 ≤ (shortest x.payload).exponent ∧ (shortest x.payload).exponent < 16 :=
      ⟨(neg_four_le_exponent_iff hpositive).2 (h.resolve_left (Nat.ne_of_gt hpositive)),
        exponent_lt_of_not_dvd hwhole⟩
    obtain ⟨count, hback, hcounts⟩ := exists_counts_shortest hpositive
    obtain ⟨whole, fraction, htext, hspells⟩ := hcounts.positional
    refine ⟨whole, fraction, ?_, ?_, hspells.ofDecimal_eq hback hsign hfinite⟩
    · rw [spelling_of_not_whole hsign hfinite hwhole, Decimal.text, if_pos hrange, htext,
        Segment.text_number, if_neg hspells.fraction_ne]
    · exact Segment.munch_number_nil hspells.whole_ne hspells.whole_digits hspells.fraction_digits

/-- The digits of a decimal with a point after the first are a numeral. -/
theorem exists_significand {d : Decimal} {count : Nat} (h : d.Counts count) :
    ∃ whole fraction, d.significand = (Segment.number whole fraction).text ∧ whole ≠ [] ∧
      (∀ c ∈ whole, Segment.isDigit c = true) ∧ ∀ c ∈ fraction, Segment.isDigit c = true := by
  obtain ⟨first, rest, hsplit⟩ := List.exists_cons_of_ne_nil h.ne_nil
  have hdigits := h.digits
  rw [hsplit, List.forall_mem_cons] at hdigits
  refine ⟨[first], rest, ?_, by simp, ?_, hdigits.2⟩
  · rw [Decimal.significand, hsplit]
    cases rest with
    | nil => rfl
    | cons second others => rfl
  · rw [List.forall_mem_singleton]
    exact hdigits.1

/-- A negative exponent is written with its sign and digits. -/
theorem exists_exponentText {exponent : Int} (h : exponent < 0) : ∃ digits,
    exponentText exponent = '-' :: digits ∧ digits ≠ [] ∧
      ∀ c ∈ digits, Segment.isDigit c = true := by
  refine ⟨_, by rw [exponentText, if_pos h], ?_, ?_⟩
  · exact List.append_ne_nil_of_right_ne_nil _ Nat.toDigits_ne_nil
  · exact List.forall_mem_append.2 ⟨isDigit_of_mem_zeros, isDigit_of_mem_toDigits⟩

/-- **A positive number below one ten thousandth is spelled with a negative exponent.** -/
theorem exists_spelling_exponent (hsign : x.negative = false) (hpositive : 0 < x.payload)
    (h : x.payload < tenThousandth.payload) : ∃ whole fraction digits,
      (number x).spelling =
        .ok (String.ofList ((Segment.number whole fraction).text ++ 'e' :: '-' :: digits)) ∧
      Segment.Segmented ((Segment.number whole fraction).text ++ 'e' :: '-' :: digits)
        [.number whole fraction, .word ['e'], .symbol .minus ['-'], .number digits []] := by
  have hone : tenThousandth.payload < one.payload := by decide +kernel
  have hfinite : x.isFinite = true := by
    have hlarge : one.payload < infinitePayload := by decide +kernel
    exact decide_eq_true (by omega)
  have hwhole : ¬ unitsOfOne ∣ units x.payload := by
    intro hdvd
    have hle := one_le_of_dvd hpositive hdvd
    omega
  have hexponent : (shortest x.payload).exponent < -4 := by
    have hiff := neg_four_le_exponent_iff hpositive
    omega
  obtain ⟨count, -, hcounts⟩ := exists_counts_shortest hpositive
  obtain ⟨whole, fraction, hsignificand, hne, hw, hf⟩ := exists_significand hcounts
  obtain ⟨digits, hdigits, hne', hd⟩ := exists_exponentText (Int.lt_trans hexponent (by decide))
  have hrange : ¬ (-4 ≤ (shortest x.payload).exponent ∧ (shortest x.payload).exponent < 16) :=
    fun hpositional => absurd hpositional.1 (Int.not_le.2 hexponent)
  refine ⟨whole, fraction, digits, ?_, Segment.segmented_exponent hne hw hf hne' hd⟩
  rw [spelling_of_not_whole hsign hfinite hwhole, Decimal.text, if_neg hrange, hsignificand,
    hdigits]

/-- **The spelling of a finite number without a sign starts with a digit.** -/
theorem exists_spelling_digit (hsign : x.negative = false) (hfinite : x.isFinite = true) :
    ∃ c run, (number x).spelling = .ok (String.ofList (c :: run)) ∧ Segment.isDigit c = true := by
  have hstart {whole fraction rest : List Char}
      (h : Segment.Munch (.number whole fraction) rest) (others : List Char) :
      ∃ c run, (Segment.number whole fraction).text ++ others = c :: run ∧
        Segment.isDigit c = true := by
    cases h with
    | number hne hw =>
      obtain ⟨c, run, rfl⟩ := List.exists_cons_of_ne_nil hne
      rw [Segment.text_number]
      exact ⟨c, _, rfl, hw c List.mem_cons_self⟩
  by_cases hpositional : x.payload = 0 ∨ tenThousandth.payload ≤ x.payload
  · obtain ⟨whole, fraction, hspelling, hmunch, -⟩ :=
      exists_spelling_numeral hsign hfinite hpositional
    obtain ⟨c, run, htext, hdigit⟩ := hstart hmunch []
    rw [List.append_nil] at htext
    exact ⟨c, run, by rw [hspelling, htext], hdigit⟩
  · obtain ⟨whole, fraction, digits, hspelling, hsegmented⟩ :=
      exists_spelling_exponent hsign (by omega) (by omega)
    obtain ⟨rest, hmunch⟩ := (hsegmented.munch_of_mem _ List.mem_cons_self).1
    obtain ⟨c, run, htext, hdigit⟩ := hstart hmunch ('e' :: '-' :: digits)
    exact ⟨c, run, by rw [hspelling, htext], hdigit⟩

end Value

open Binary64

/-- **Numerals are spelled again as source text spells them, down to one ten thousandth.**  A
numeral that is not out of range is scanned to one number token.  If its number is zero, or at least
one ten thousandth, then the spelling of the number is scanned to one number token as well, with the
same value.  The spelling of any smaller number has an exponent and is scanned to four tokens. -/
theorem scan_spelling_numeral (lexeme : String) (h : Segment.IsNumeral lexeme.toList)
    (hrange : ∀ e ∈ (scan lexeme).errors, e.code? ≠ some "L004") :
    ∃ x text, scan lexeme = ⟨[⟨.number, lexeme, .number x, 1⟩, Token.endAt 1], []⟩ ∧
      (Value.number x).spelling = .ok text ∧
      (x.payload = 0 ∨ tenThousandth.payload ≤ x.payload →
        scan text = ⟨[⟨.number, text, .number x, 1⟩, Token.endAt 1], []⟩) ∧
      (0 < x.payload ∧ x.payload < tenThousandth.payload →
        (scan text).tokens.map (·.kind) =
          [.number, .identifier, .minus, .number, .endOfInput]) := by
  obtain ⟨whole, fraction, hlexeme, hmunch⟩ := h.exists_number
  rw [← String.ofList_toList (s := lexeme), hlexeme] at hrange ⊢
  have hinfinite := Segment.not_isInfinite_of_errors hmunch hrange
  have hfinite : (ofDecimal whole fraction).isFinite = true := isFinite_nearest hinfinite
  have hsign : (ofDecimal whole fraction).negative = false := rfl
  have hscan := Segment.scan_number_of_finite hmunch hinfinite
  generalize ofDecimal whole fraction = x at *
  by_cases hpositional : x.payload = 0 ∨ tenThousandth.payload ≤ x.payload
  · obtain ⟨whole', fraction', hspelling, hmunch', rfl⟩ :=
      Value.exists_spelling_numeral hsign hfinite hpositional
    exact ⟨_, _, hscan, hspelling, fun _ => Segment.scan_number_of_finite hmunch' hinfinite,
      fun hsmall => by omega⟩
  · obtain ⟨whole', fraction', digits, hspelling, hsegmented⟩ :=
      Value.exists_spelling_exponent hsign (by omega) (by omega)
    refine ⟨_, _, hscan, hspelling, fun hlarge => absurd hlarge hpositional, fun _ => ?_⟩
    rw [Segment.kinds_scan hsegmented]
    rfl

/-- A numeral below one ten thousandth is scanned without errors, and its number is spelled with an
exponent. -/
theorem scan_spelling_numeral_exponent :
    let source := "0.00001"
    (Segment.IsNumeral source.toList ∧ ∀ e ∈ (scan source).errors, e.code? ≠ some "L004") ∧
      ∃ x text, scan source = ⟨[⟨.number, source, .number x, 1⟩, Token.endAt 1], []⟩ ∧
        (Value.number x).spelling = .ok text ∧
        (x.payload = 0 ∨ tenThousandth.payload ≤ x.payload →
          scan text = ⟨[⟨.number, text, .number x, 1⟩, Token.endAt 1], []⟩) ∧
        (0 < x.payload ∧ x.payload < tenThousandth.payload →
          (scan text).tokens.map (·.kind) =
            [.number, .identifier, .minus, .number, .endOfInput]) := by
  intro source
  have hnumeral : Segment.IsNumeral source.toList := by
    have hsource : source.toList = ['0'] ++ '.' :: ['0', '0', '0', '0', '1'] := by decide +kernel
    rw [hsource]
    exact Segment.IsNumeral.decimal (List.cons_ne_nil _ _) (List.all_eq_true.1 rfl)
      (List.cons_ne_nil _ _) (List.all_eq_true.1 rfl)
  have herrors : ∀ e ∈ (scan source).errors, e.code? ≠ some "L004" := by decide +kernel
  exact ⟨⟨hnumeral, herrors⟩, scan_spelling_numeral source hnumeral herrors⟩

/-- Not every numeral is spelled again as source text spells it. -/
theorem exists_numeral_spelled_with_exponent :
    ∃ x, scan "0.00001" = ⟨[⟨.number, "0.00001", .number x, 1⟩, Token.endAt 1], []⟩ ∧
      (Value.number x).spelling = .ok "1e-05" ∧
      ∀ t eof, (scan "1e-05").tokens = [t, eof] → t.kind ≠ .number := by
  refine ⟨.ofDecimal ['0'] ['0', '0', '0', '0', '1'], by decide +kernel, by decide +kernel, ?_⟩
  have hlength : (scan "1e-05").tokens.length = 5 := by decide +kernel
  intro t eof htokens
  rw [htokens] at hlength
  cases hlength

end LoxSyntax
