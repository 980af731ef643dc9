/-
# Numbers in their own spelling

A number is written with digits, letters, signs and points, and none of these separates tokens.  So
if its spelling scans to a single number token of the same value, the spelling is one numeral, and
nothing is wrong with it.
-/
import LoxSyntax.Proofs.MaximalMunch

namespace LoxSyntax

/-! ## Numbers that agree -/

namespace Binary64

variable {x y : Binary64} {whole fraction : List Char}

/-- The number that stands for all numbers that agree with this one: zero has no sign. -/
def representative (x : Binary64) : Binary64 := if x.payload = 0 then zero else x

/-- Agreeing numbers have the same representative. -/
theorem agrees_iff : x.agrees y = true ↔
    x.isNaN = false ∧ y.isNaN = false ∧ x.representative = y.representative := by
  have hzero : zero.payload = 0 := rfl
  simp only [agrees, representative, Bool.and_eq_true, Bool.not_eq_true', Bool.or_eq_true,
    beq_iff_eq, and_assoc]
  refine and_congr_right fun _ => and_congr_right fun _ => ?_
  split <;> split <;> constructor <;> grind

/-- A representative has the payload of its number. -/
theorem payload_representative (x : Binary64) : x.representative.payload = x.payload := by
  rw [representative]
  split
  · rename_i hzero
    rw [hzero]
    rfl
  · rfl

/-- A number without a sign represents itself. -/
theorem representative_of_positive (hsign : x.negative = false) : x.representative = x := by
  rw [representative]
  split
  · rename_i hzero
    cases x
    cases hsign
    cases hzero
    rfl
  · rfl

/-! ## The characters of a written number -/

/-- A character of a written number. -/
def isMark (c : Char) : Bool := Segment.isWordPart c || c == '-' || c == '+' || c == '.'

theorem isMark_of_mem_toDigits {n : Nat} : ∀ c ∈ Nat.toDigits 10 n, isMark c = true := by
  intro c hc
  have hdigit : Segment.isDigit c = true := Nat.isDigit_of_mem_toDigits (by decide) (by decide) hc
  rw [isMark, Segment.isWordPart, hdigit, Bool.or_true, Bool.true_or, Bool.true_or, Bool.true_or]

theorem isMark_of_mem_zeros {n : Nat} : ∀ c ∈ List.replicate n '0', isMark c = true := by
  intro c hc
  rw [List.eq_of_mem_replicate hc]
  rfl

theorem isMark_of_mem_ofSteps (steps grid : Nat) :
    ∀ c ∈ (Decimal.ofSteps steps grid).digits, isMark c = true := by
  intro c hc
  rw [Decimal.ofSteps, List.mem_reverse] at hc
  exact isMark_of_mem_toDigits c (List.mem_reverse.1 ((List.dropWhile_suffix _).subset hc))

/-- The digits of the shortest decimal are such characters. -/
theorem isMark_of_mem_shortest (payload : Nat) :
    ∀ c ∈ (shortest payload).digits, isMark c = true := by
  rw [shortest]
  cases hfound : (List.range' 1 17).findSome? _ with
  | none => exact isMark_of_mem_ofSteps _ _
  | some d =>
    obtain ⟨count, -, hcount⟩ := List.exists_of_findSome?_eq_some hfound
    obtain ⟨steps, -, rfl⟩ := Option.map_eq_some_iff.1 hcount
    exact isMark_of_mem_ofSteps _ _

theorem isMark_of_mem_exponentText (exponent : Int) :
    ∀ c ∈ exponentText exponent, isMark c = true := by
  simp only [exponentText, List.forall_mem_cons, List.forall_mem_append]
  refine ⟨?_, isMark_of_mem_zeros, isMark_of_mem_toDigits⟩
  split <;> rfl

/-- Decimal digits are written with such characters in both notations. -/
theorem isMark_of_mem_decimalText {d : Decimal} (hdigits : ∀ c ∈ d.digits, isMark c = true) :
    ∀ c ∈ d.text, isMark c = true := by
  have hpositional : ∀ c ∈ d.positional, isMark c = true := by
    rw [Decimal.positional]
    split
    · simp only [List.forall_mem_cons, List.forall_mem_append]
      exact ⟨rfl, rfl, isMark_of_mem_zeros, hdigits⟩
    · simp only [List.forall_mem_cons, List.forall_mem_append]
      refine ⟨⟨fun c hc => hdigits c (List.mem_of_mem_take hc), isMark_of_mem_zeros⟩, rfl, ?_⟩
      split
      · simp only [List.forall_mem_singleton]
        rfl
      · exact fun c hc => hdigits c (List.mem_of_mem_drop hc)
  have hsignificand : ∀ c ∈ d.significand, isMark c = true := by
    rw [Decimal.significand]
    split
    · rename_i hsplit
      rw [hsplit] at hdigits
      simp only [List.forall_mem_cons] at hdigits ⊢
      exact ⟨hdigits.1, rfl, hdigits.2⟩
    · exact hdigits
  rw [Decimal.text]
  split
  · exact hpositional
  · simp only [List.forall_mem_cons, List.forall_mem_append]
    exact ⟨hsignificand, rfl, isMark_of_mem_exponentText _⟩

/-- A number is written with such characters. -/
theorem isMark_of_mem_text (x : Binary64) : ∀ c ∈ x.text.toList, isMark c = true := by
  have hmagnitude : ∀ c ∈ x.magnitudeText, isMark c = true := by
    rw [magnitudeText]
    split
    · exact List.all_eq_true.1 rfl
    split
    · exact List.all_eq_true.1 rfl
    · exact isMark_of_mem_decimalText (isMark_of_mem_shortest _)
  rw [text]
  split
  · exact List.all_eq_true.1 rfl
  · rw [String.toList_ofList]
    split
    · simp only [List.forall_mem_cons]
      exact ⟨rfl, hmagnitude⟩
    · exact hmagnitude

end Binary64

/-- Source text spells a number with such characters. -/
theorem Value.isMark_of_mem_spelling {x : Binary64} {text : String}
    (h : (number x).spelling = .ok text) : ∀ c ∈ text.toList, Binary64.isMark c = true := by
  rw [spelling] at h
  split at h
  · cases h
    rename_i n _
    rw [Int.toString_eq_repr, Int.repr_eq_if]
    split
    · rw [Nat.toList_repr]
      exact Binary64.isMark_of_mem_toDigits
    · rw [String.toList_append, Nat.toList_repr, List.forall_mem_append]
      exact ⟨List.all_eq_true.1 rfl, Binary64.isMark_of_mem_toDigits⟩
  · cases h
    exact Binary64.isMark_of_mem_text x

/-! ## One numeral -/

namespace Segment

variable {s : Segment} {rest source : List Char} {segs : List Segment} {whole fraction : List Char}

/-- A numeral has digits and a point. -/
theorem isDigit_or_point {numeral : List Char} (h : IsNumeral numeral) :
    ∀ c ∈ numeral, isDigit c = true ∨ c = '.' := by
  intro c hc
  cases h with
  | digits hne hw => exact Or.inl (hw c hc)
  | decimal hne hw hne' hf =>
    rcases List.mem_append.1 hc with hc | hc
    · exact Or.inl (hw c hc)
    rcases List.mem_cons.1 hc with rfl | hc
    · exact Or.inr rfl
    · exact Or.inl (hf c hc)

/-- Digits, and digits behind a point, are munched at the end of a text. -/
theorem munch_number_nil (hne : whole ≠ []) (hw : ∀ c ∈ whole, isDigit c = true)
    (hf : ∀ c ∈ fraction, isDigit c = true) : Munch (number whole fraction) [] := by
  refine Munch.number hne hw hf fun numeral _ hfront => ?_
  rw [List.append_nil] at hfront
  exact hfront.length_le

/-- A numeral is munched before anything that neither a digit nor a point starts. -/
theorem munch_number_append (hne : whole ≠ []) (hw : ∀ c ∈ whole, isDigit c = true)
    (hf : ∀ c ∈ fraction, isDigit c = true)
    (hrest : ∀ c, rest.head? = some c → isDigit c = false ∧ c ≠ '.') :
    Munch (number whole fraction) rest := by
  refine Munch.number hne hw hf fun numeral hnumeral hfront => ?_
  rcases List.prefix_or_prefix_of_prefix hfront (List.prefix_append _ rest) with hle | hlonger
  · exact hle.length_le
  · -- a longer numeral would go on with the first character of the rest
    obtain ⟨extra, rfl⟩ := hlonger
    cases extra with
    | nil => rw [List.append_nil]
    | cons c others =>
      obtain ⟨tail, htail⟩ := (List.prefix_append_right_inj _).1 hfront
      obtain ⟨hdigit, hpoint⟩ := hrest c (by rw [← htail]; rfl)
      rcases isDigit_or_point hnumeral c (by simp) with hc | hc
      · rw [hdigit] at hc
        cases hc
      · exact absurd hc hpoint

/-- A segment of such characters makes a token. -/
theorem kind?_ne_none (h : Munch s rest) (hmarks : ∀ c ∈ s.text, Binary64.isMark c = true) :
    s.kind? ≠ none := by
  cases h with
  | @blank c _ hc =>
    have hmark := hmarks c List.mem_cons_self
    rcases hc with rfl | rfl | rfl | rfl <;> exact absurd hmark (by decide)
  | lineComment | blockComment | openBlockComment =>
    exact absurd (hmarks '/' List.mem_cons_self) (by decide)
  | @stray c _ hc =>
    have hmark := hmarks c List.mem_cons_self
    simp only [Binary64.isMark, isWordPart, hc.wordStart, hc.digit, Bool.false_or, Bool.or_eq_true,
      beq_iff_eq] at hmark
    have hsingle := hc.single
    rcases hmark with (rfl | rfl) | rfl
    · exact absurd (by decide) (hsingle .minus)
    · exact absurd (by decide) (hsingle .plus)
    · exact absurd (by decide) (hsingle .dot)
  | _ => exact Option.some_ne_none _

/-- A word is a name or a reserved word. -/
theorem wordKind_mem (word : List Char) :
    Token.wordKind word ∈ .identifier :: Token.keywords.map Prod.snd := by
  rw [Token.wordKind]
  cases hlookup : Token.keywords.lookup (String.ofList word) with
  | none => exact List.mem_cons_self
  | some kind =>
    obtain ⟨before, after, hsplit, -⟩ := List.lookup_eq_some_iff.1 hlookup
    refine List.mem_cons_of_mem _ (List.mem_map.2 ⟨(String.ofList word, kind), ?_, rfl⟩)
    rw [hsplit]
    simp

/-- The kinds of punctuation, operators, names and reserved words. -/
def plainKinds : List Token.Kind :=
  Token.singles.map Prod.snd ++ Token.equalsPairs.flatMap (fun entry => [entry.2.1, entry.2.2]) ++
    .slash :: .identifier :: Token.keywords.map Prod.snd

/-- **The kind of a token** is that of a number or a string, or a plain one. -/
theorem kind?_cases {kind : Token.Kind} (h : Munch s rest) (hkind : s.kind? = some kind) :
    kind ∈ plainKinds ∨ (kind = .number ∧ ∃ whole fraction, s = number whole fraction) ∨
      kind = .string ∧ ∃ body closed, s = string body closed := by
  have hsingles : ∀ entry ∈ Token.singles, entry.2 ∈ plainKinds := by decide
  have hpairs : ∀ entry ∈ Token.equalsPairs,
      entry.2.1 ∈ plainKinds ∧ entry.2.2 ∈ plainKinds := by decide
  cases h with
  | single hc =>
    obtain rfl := Option.some.inj hkind
    exact Or.inl (hsingles _ hc)
  | alone hc =>
    obtain rfl := Option.some.inj hkind
    exact Or.inl (hpairs _ hc).1
  | withEquals hc =>
    obtain rfl := Option.some.inj hkind
    exact Or.inl (hpairs _ hc).2
  | slash =>
    obtain rfl := Option.some.inj hkind
    exact Or.inl (by decide)
  | word =>
    obtain rfl := Option.some.inj hkind
    exact Or.inl (List.mem_append_right _ (List.mem_cons_of_mem _ (wordKind_mem _)))
  | number => exact Or.inr (Or.inl ⟨(Option.some.inj hkind).symm, _, _, rfl⟩)
  | string | openString => exact Or.inr (Or.inr ⟨(Option.some.inj hkind).symm, _, _, rfl⟩)
  | blank | lineComment | blockComment | openBlockComment | stray => cases hkind

/-- Number tokens come from numerals. -/
theorem eq_number_of_kind? (h : Munch s rest) (hkind : s.kind? = some .number) :
    ∃ whole fraction, s = number whole fraction := by
  rcases kind?_cases h hkind with hplain | ⟨-, hnumber⟩ | ⟨hstring, -⟩
  · exact absurd hplain (by decide)
  · exact hnumber
  · cases hstring

/-- String tokens come from strings. -/
theorem eq_string_of_kind? (h : Munch s rest) (hkind : s.kind? = some .string) :
    ∃ body closed, s = string body closed := by
  rcases kind?_cases h hkind with hplain | ⟨hnumber, -⟩ | ⟨-, hstring⟩
  · exact absurd hplain (by decide)
  · cases hnumber
  · exact hstring

/-- No segment makes the token that ends the input. -/
theorem kind?_ne_endOfInput (h : Munch s rest) : s.kind? ≠ some .endOfInput := by
  intro hkind
  rcases kind?_cases h hkind with hplain | ⟨hnumber, -⟩ | ⟨hstring, -⟩
  · exact absurd hplain (by decide)
  · cases hnumber
  · cases hstring

/-- Each segment of a text is munched, and it consists of characters of the text. -/
theorem Segmented.munch_of_mem (h : Segmented source segs) :
    ∀ s ∈ segs, (∃ rest, Munch s rest) ∧ ∀ c ∈ s.text, c ∈ source := by
  induction h with
  | nil => simp
  | @cons s rest segs hs hrest ih =>
    intro s' hs'
    rcases List.mem_cons.1 hs' with rfl | hs'
    · exact ⟨⟨rest, hs⟩, fun c hc => List.mem_append_left rest hc⟩
    · obtain ⟨hmunch, hchars⟩ := ih s' hs'
      exact ⟨hmunch, fun c hc => List.mem_append_right s.text (hchars c hc)⟩

/-- A text that is one segment is the text of that segment. -/
theorem Segmented.munch_of_singleton (h : Segmented source [s]) :
    source = s.text ∧ Munch s [] := by
  cases h with
  | cons hs hrest =>
    cases hrest
    exact ⟨List.append_nil _, hs⟩

/-- A text of such characters that makes one token is one segment. -/
theorem segments_of_tokens {t eof : Token} {text : String}
    (hmarks : ∀ c ∈ text.toList, Binary64.isMark c = true) (h : (scan text).tokens = [t, eof]) :
    ∃ s, Segmented text.toList [s] ∧ s.token? 1 = some t := by
  have hsegmented := segmented_segments text.toList
  have htoken : ∀ entry ∈ withLines 1 (segments text.toList), entry.2.token? entry.1 ≠ none := by
    rintro ⟨line, s⟩ hentry
    have hmem : s ∈ segments text.toList := by
      rw [← map_snd_withLines 1 (segments text.toList)]
      exact List.mem_map_of_mem hentry
    obtain ⟨⟨rest, hmunch⟩, hchars⟩ := hsegmented.munch_of_mem s hmem
    have hkind := kind?_ne_none hmunch fun c hc => hmarks c (hchars c hc)
    rw [token?]
    simpa using hkind
  -- every segment makes a token, so that there is one segment before the end of the input
  have happend : (scan text).tokens = [t] ++ [eof] := h
  have hone := (List.append_inj' happend rfl).1
  obtain ⟨before, ⟨line, s⟩, after, hsplit, hbefore, hs, hafter⟩ :=
    List.filterMap_eq_cons_iff.1 hone
  rw [List.filterMap_eq_nil_iff] at hafter
  rw [hsplit] at htoken
  have hnothing : before = [] ∧ after = [] := by
    constructor <;> rw [List.eq_nil_iff_forall_not_mem] <;> intro entry hentry
    · exact htoken entry (by simp [hentry]) (hbefore entry hentry)
    · exact htoken entry (by simp [hentry]) (hafter entry hentry)
  obtain ⟨rfl, rfl⟩ := hnothing
  have hsegments : segments text.toList = [s] := by
    rw [← map_snd_withLines 1 (segments text.toList), hsplit]
    rfl
  rw [hsegments] at hsegmented hsplit
  cases hsplit
  exact ⟨s, hsegmented, hs⟩

/-- A text of such characters that makes one number token is one numeral. -/
theorem number_of_tokens {t eof : Token} {text : String}
    (hmarks : ∀ c ∈ text.toList, Binary64.isMark c = true) (h : (scan text).tokens = [t, eof])
    (hkind : t.kind = .number) :
    ∃ whole fraction, Munch (number whole fraction) [] ∧
      text = String.ofList (number whole fraction).text ∧
      t.literal = .number (.ofDecimal whole fraction) := by
  obtain ⟨s, hsegmented, htoken⟩ := segments_of_tokens hmarks h
  obtain ⟨htext, hmunch⟩ := hsegmented.munch_of_singleton
  obtain ⟨kind, hs, rfl⟩ := Option.map_eq_some_iff.1 htoken
  cases hkind
  obtain ⟨whole, fraction, rfl⟩ := eq_number_of_kind? hmunch hs
  exact ⟨whole, fraction, hmunch, by rw [← htext, String.ofList_toList], rfl⟩

end Segment

/-- The value is spelled without quotes, and a number so that its spelling scans to a single number
token of an equal value. -/
def Value.ReadsBack : Value → Prop
  | nil | bool _ => True
  | number x => ∃ text t eof y, (number x).spelling = .ok text ∧ (scan text).tokens = [t, eof] ∧
      t.kind = .number ∧ t.literal = .number y ∧ y.agrees x = true
  | text _ | foreign _ => False

/-- The spelling of an infinite number. -/
theorem Value.spelling_of_isInfinite {x : Binary64} (h : x.isInfinite = true) :
    (number x).spelling = .ok (String.ofList (if x.negative then ['-', 'i', 'n', 'f']
      else ['i', 'n', 'f'])) := by
  have hpayload : x.payload = Binary64.infinitePayload := of_decide_eq_true h
  have hwhole : x.whole? = none := by simp [Binary64.whole?, Binary64.isFinite, hpayload]
  have hnaN : x.isNaN = false := by simp [Binary64.isNaN, hpayload]
  have hmagnitude : x.magnitudeText = ['i', 'n', 'f'] := by
    rw [Binary64.magnitudeText, hpayload, if_neg (by decide), if_pos h]
  simp only [spelling, hwhole, Binary64.text, hnaN, hmagnitude, Bool.false_eq_true, if_false]

/-- A number that a numeral spells is finite. -/
theorem Value.not_isInfinite_of_numeral {x : Binary64} {whole fraction : List Char}
    (h : Segment.Munch (.number whole fraction) [])
    (hspelling : (number x).spelling = .ok (String.ofList (Segment.number whole fraction).text)) :
    x.isInfinite = false := by
  rw [Bool.eq_false_iff]
  intro hinfinite
  rw [spelling_of_isInfinite hinfinite] at hspelling
  have htext := String.ofList_injective (Except.ok.inj hspelling)
  rw [Segment.text_number] at htext
  cases h with
  | number hne hw hf hlongest =>
    -- a numeral starts with a digit
    obtain ⟨c, run, rfl⟩ := List.exists_cons_of_ne_nil hne
    have hdigit := hw c List.mem_cons_self
    rw [List.cons_append] at htext
    split at htext <;> rw [← (List.cons.inj htext).1] at hdigit <;> exact absurd hdigit (by decide)

/-- **A number that is read back is spelled by one numeral**, which denotes a finite number: the one
that stands for the number itself. -/
theorem Value.exists_numeral {x : Binary64} (h : (number x).ReadsBack) :
    ∃ whole fraction, Segment.Munch (.number whole fraction) [] ∧
      (number x).spelling = .ok (String.ofList (Segment.number whole fraction).text) ∧
      (Binary64.ofDecimal whole fraction).isInfinite = false ∧
      Binary64.ofDecimal whole fraction = x.representative := by
  obtain ⟨text, t, eof, y, hspelling, htokens, hkind, hliteral, hagrees⟩ := h
  obtain ⟨whole, fraction, hmunch, rfl, hvalue⟩ :=
    Segment.number_of_tokens (isMark_of_mem_spelling hspelling) htokens hkind
  rw [hliteral] at hvalue
  cases hvalue
  obtain ⟨-, -, hsame⟩ := Binary64.agrees_iff.1 hagrees
  rw [Binary64.representative_of_positive rfl] at hsame
  have hfinite : (Binary64.ofDecimal whole fraction).isInfinite = false := by
    rw [hsame, Binary64.isInfinite, Binary64.payload_representative]
    exact not_isInfinite_of_numeral hmunch hspelling
  exact ⟨whole, fraction, hmunch, hspelling, hfinite, hsame⟩

end LoxSyntax
