/-
# The conversion of numerals

Every numeral of a source makes a number token, whose value is the number nearest to what the
numeral denotes.  From the midpoint behind the largest finite number on the value is infinity, and
these are the numerals that are reported as too large, each of them once.
-/
import LoxSyntax.Proofs.Lines
import LoxSyntax.Proofs.NearestNumber
import LoxSyntax.Proofs.ScannedTokens
import LoxSyntax.Proofs.ShortestDecimal

namespace LoxSyntax

open Binary64

/-! ## What a numeral denotes -/

/-- The rational number that a numeral denotes: its digits before the point, and those behind it as
a decimal fraction. -/
def numeralValue (numeral : List Char) : ℚ :=
  let whole := numeral.takeWhile Segment.isDigit
  let fraction := numeral.drop (whole.length + 1)
  digitsValue whole + digitsValue fraction / 10 ^ fraction.length

/-- The number is what a rational number is converted to: the nearest one, or infinity where no
finite number is near enough. -/
structure IsConverted (q : ℚ) (x : Binary64) : Prop where
  positive : x.negative = false
  nearest : q < overflow → IsNearest q x
  infinite : overflow ≤ q → x.isInfinite = true

section Numerals

variable {whole fraction : List Char}

/-- The value of a numeral by its two parts. -/
theorem numeralValue_text (hw : ∀ c ∈ whole, Segment.isDigit c = true) :
    numeralValue (Segment.number whole fraction).text =
      digitsValue whole + digitsValue fraction / 10 ^ fraction.length := by
  have hwhole : (Segment.number whole fraction).text.takeWhile Segment.isDigit = whole := by
    rw [Segment.text_number]
    exact Segment.takeWhile_run hw fun _ => Segment.isDigit_of_head?_fraction fraction
  have hfraction : (Segment.number whole fraction).text.drop (whole.length + 1) = fraction := by
    rw [Segment.text_number, List.drop_length_add_append]
    split
    · rename_i hnil
      rw [hnil]
      rfl
    · rfl
  simp only [numeralValue, hwhole, hfraction]

/-- The value of a numeral is the quotient that is rounded. -/
theorem quotient_eq (hw : ∀ c ∈ whole, Segment.isDigit c = true) :
    (digitsValue (whole ++ fraction) / (Nat.pow 10 fraction.length : Nat) : ℚ) =
      numeralValue (Segment.number whole fraction).text := by
  have hten : ((10 : ℚ) ^ fraction.length) ≠ 0 := pow_ne_zero _ (by norm_num)
  rw [numeralValue_text hw, digitsValue_append, Nat.pow_eq]
  push_cast
  field_simp

theorem denominator_pos (fraction : List Char) : 0 < Nat.pow 10 fraction.length :=
  Nat.pow_pos (by decide)

/-- A numeral denotes infinity exactly from the overflow on. -/
theorem isInfinite_ofDecimal_iff (hw : ∀ c ∈ whole, Segment.isDigit c = true) :
    (ofDecimal whole fraction).isInfinite = true ↔
      overflow ≤ numeralValue (Segment.number whole fraction).text := by
  rw [ofDecimal, isInfinite_nearest_iff (denominator_pos fraction), quotient_eq hw]

/-- **The value of a numeral is converted.** -/
theorem isConverted_ofDecimal (hw : ∀ c ∈ whole, Segment.isDigit c = true) :
    IsConverted (numeralValue (Segment.number whole fraction).text) (ofDecimal whole fraction) := by
  refine ⟨rfl, fun hbelow => ?_, (isInfinite_ofDecimal_iff hw).2⟩
  rw [← quotient_eq hw] at hbelow ⊢
  exact isNearest_nearest (denominator_pos fraction) hbelow

end Numerals

/-! ## Number tokens and what is reported of them -/

/-- The number tokens of a scan. -/
def Scan.numbers (s : Scan) : List Token := s.tokens.filter (·.kind == .number)

/-- The error about a number token whose numeral denotes too much. -/
def Token.overflowError? (t : Token) : Option LexicalError :=
  if overflow ≤ numeralValue t.lexeme.toList then
    some ((LexicalFault.numberTooLarge t.lexeme.toList).at t.line)
  else none

namespace Segment

variable {s : Segment} {rest : List Char} {source : String} {t : Token}

/-- The text of a segment that is a numeral. -/
def numeral? : Segment → Option (List Char)
  | number whole fraction => some (number whole fraction).text
  | _ => none

/-- The token that a numeral makes. -/
def numberToken? (s : Segment) (line : Int) : Option Token :=
  s.numeral?.map fun numeral => ⟨.number, String.ofList numeral, s.literal, line⟩

/-- Number tokens are those that numerals make. -/
theorem filter_token? (h : Munch s rest) (line : Int) :
    (s.token? line).filter (·.kind == .number) = s.numberToken? line := by
  by_cases hkind : s.kind? = some .number
  · obtain ⟨whole, fraction, rfl⟩ := eq_number_of_kind? h hkind
    rfl
  · have hnone : s.numeral? = none := by
      cases s with
      | number whole fraction => exact absurd rfl hkind
      | _ => rfl
    rw [numberToken?, hnone, Option.map_none, Option.filter_eq_none_iff]
    intro t htoken hnumber
    obtain ⟨kind, hmade, rfl⟩ := Option.map_eq_some_iff.1 htoken
    exact hkind (hmade.trans (congrArg some (beq_iff_eq.1 hnumber)))

/-- **Of the numerals those are reported as too large that denote too much**, and nothing
else is. -/
theorem filter_error? (h : Munch s rest) (line : Nat) :
    (s.error? line).filter (·.code? == some "L004") =
      (s.numberToken? line).bind Token.overflowError? := by
  cases h with
  | @number whole fraction _ hne hw hf hlongest =>
    have hlines := lineFeeds_of_isSolid (.number hne hw hf hlongest) trivial
    have htoken : (number whole fraction).numberToken? line = some ⟨.number,
        String.ofList (number whole fraction).text, (number whole fraction).literal, line⟩ := rfl
    rw [htoken, Option.bind_some, Token.overflowError?, error?, fault?, String.toList_ofList,
      hlines]
    by_cases hover : overflow ≤ numeralValue (number whole fraction).text
    · rw [if_pos hover, if_pos ((isInfinite_ofDecimal_iff hw).2 hover)]
      rfl
    · rw [if_neg hover, if_neg (mt (isInfinite_ofDecimal_iff hw).1 hover)]
      rfl
  | _ => rfl

/-- The number tokens of a scan are made by its numerals. -/
theorem numbers_scan (source : String) : (scan source).numbers =
    (withLines 1 (segments source.toList)).filterMap fun (line, s) => s.numberToken? line := by
  have hend : [Token.endAt (lastLine source.toList)].filter (·.kind == .number) = [] := rfl
  show ((withLines 1 (segments source.toList)).filterMap (fun (line, s) => s.token? line) ++
    [Token.endAt (lastLine source.toList)]).filter _ = _
  rw [List.filter_append, hend, List.append_nil, List.filter_filterMap]
  refine List.filterMap_congr fun entry hentry => ?_
  obtain ⟨rest, hmunch⟩ := munch_of_mem_withLines hentry
  exact filter_token? hmunch entry.1

/-- The numerals that are reported as too large. -/
theorem filter_errors (source : String) :
    (scan source).errors.filter (·.code? == some "L004") =
      (scan source).numbers.filterMap Token.overflowError? := by
  rw [numbers_scan, List.filterMap_filterMap]
  show ((withLines 1 (segments source.toList)).filterMap
    fun (line, s) => s.error? line).filter _ = _
  rw [List.filter_filterMap]
  refine List.filterMap_congr fun entry hentry => ?_
  obtain ⟨rest, hmunch⟩ := munch_of_mem_withLines hentry
  exact filter_error? hmunch entry.1

/-- The lexemes of the number tokens are the numerals of the source, in order. -/
theorem lexemes_numbers {segs : List Segment} (h : Segmented source.toList segs) :
    (scan source).numbers.map (·.lexeme.toList) = segs.filterMap numeral? := by
  rw [numbers_scan, List.map_filterMap, h.eq_segments, ← filterMap_withLines numeral? 1]
  refine List.filterMap_congr ?_
  rintro ⟨line, s⟩ -
  show (s.numberToken? line).map _ = s.numeral?
  rw [numberToken?]
  cases s.numeral? with
  | none => rfl
  | some numeral => exact congrArg some String.toList_ofList

/-- **The literal of a number token** is what its numeral denotes, converted. -/
theorem isConverted_of_mem_numbers (h : t ∈ (scan source).numbers) :
    IsNumeral t.lexeme.toList ∧
      ∃ x, t.literal = .number x ∧ IsConverted (numeralValue t.lexeme.toList) x := by
  rw [numbers_scan] at h
  obtain ⟨⟨line, s⟩, hentry, htoken⟩ := List.mem_filterMap.1 h
  obtain ⟨rest, hmunch⟩ := munch_of_mem_withLines hentry
  obtain ⟨numeral, hnumeral, rfl⟩ := Option.map_eq_some_iff.1 htoken
  cases hmunch with
  | number hne hw hf hlongest =>
    cases hnumeral
    rw [String.toList_ofList]
    exact ⟨isNumeral_text hne hw hf, _, rfl, isConverted_ofDecimal hw⟩
  | _ => cases hnumeral

end Segment

/-- **Numerals are converted exactly.**  Every numeral of a source makes a number token, in order.
Its literal has no sign, and it is the number nearest to what the numeral denotes, the even one of
two that are as near, or infinity from the overflow on.  The numerals from the overflow on are
reported as too large, each of them once and in order, and no other one is. -/
theorem scan_numerals_exact (source : String) :
    (∀ segs, Segment.Segmented source.toList segs →
      (scan source).numbers.map (·.lexeme.toList) = segs.filterMap Segment.numeral?) ∧
    (∀ t ∈ (scan source).numbers, Segment.IsNumeral t.lexeme.toList ∧
      ∃ x, t.literal = .number x ∧ IsConverted (numeralValue t.lexeme.toList) x) ∧
    (scan source).errors.filter (·.code? == some "L004") =
      (scan source).numbers.filterMap Token.overflowError? :=
  ⟨fun _ => Segment.lexemes_numbers, fun _ => Segment.isConverted_of_mem_numbers,
    Segment.filter_errors source⟩

/-- The numeral `2 ^ 53 + 1` is halfway between two numbers and goes to the even one, `2 ^ 53`. -/
theorem scan_numerals_exact_halfway :
    let x : Binary64 := ⟨false, (53 + 1023) * binade, by decide⟩
    (scan "9007199254740993").numbers = [⟨.number, "9007199254740993", .number x, 1⟩] ∧
    numeralValue "9007199254740993".toList = 2 ^ 53 + 1 ∧ x.value = 2 ^ 53 ∧
    IsNearest (2 ^ 53 + 1) x := by
  intro x
  have htokens : (scan "9007199254740993").numbers =
      [⟨.number, "9007199254740993", .number x, 1⟩] := by decide +kernel
  have hvalue : numeralValue "9007199254740993".toList = 2 ^ 53 + 1 := by decide +kernel
  obtain ⟨-, x', hliteral, hconverted⟩ :=
    (scan_numerals_exact "9007199254740993").2.1 _ (htokens ▸ List.mem_singleton_self _)
  obtain rfl : x = x' := Value.number.inj hliteral
  have hbelow : (2 ^ 53 + 1 : ℚ) < overflow := by decide +kernel
  refine ⟨htokens, hvalue, by decide +kernel, ?_⟩
  rw [← hvalue]
  exact hconverted.nearest (hvalue.trans_lt hbelow)

end LoxSyntax
