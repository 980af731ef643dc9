/-
# Maximal munch

What the segment at the front of a text has to be, said without the order in which a scan tries the
classes: the longest of its class, up to a boundary in what follows it.  A text falls into such
segments in exactly one way, and a scan finds the tokens and the faults of these segments.
-/
import Mathlib.Data.List.TakeWhile
import LoxSyntax.Source.Scan

namespace LoxSyntax

namespace Segment

/-! ## What has to be at the front -/

/-- Digits, or digits, a point and digits again. -/
inductive IsNumeral : List Char → Prop
  /-- Digits. -/
  | digits {whole : List Char} (hne : whole ≠ []) (hw : ∀ c ∈ whole, isDigit c = true) :
      IsNumeral whole
  /-- Digits on both sides of a point. -/
  | decimal {whole fraction : List Char} (hne : whole ≠ [])
      (hw : ∀ c ∈ whole, isDigit c = true) (hne' : fraction ≠ [])
      (hf : ∀ c ∈ fraction, isDigit c = true) :
      IsNumeral (whole ++ '.' :: fraction)

/-- The closing mark of a block comment stands somewhere in the text. -/
def Closes (text : List Char) : Prop := ['*', '/'] <:+: text

/-- The character is in none of the classes that start a segment. -/
structure StartsNothing (c : Char) : Prop where
  single : ∀ kind, (c, kind) ∉ Token.singles
  operator : ∀ kinds, (c, kinds) ∉ Token.equalsPairs
  slash : c ≠ '/'
  spacing : isSpacing c = false
  quote : c ≠ '"'
  digit : isDigit c = false
  wordStart : isWordStart c = false

/-- **Maximal munch.**  The segment belongs at the front of a text that goes on with the rest. -/
inductive Munch : Segment → List Char → Prop
  /-- Punctuation of one character. -/
  | single {c : Char} {kind : Token.Kind} {rest : List Char} (hc : (c, kind) ∈ Token.singles) :
      Munch (symbol kind [c]) rest
  /-- An operator of one character, without an equals sign behind it. -/
  | alone {c : Char} {kind withEquals : Token.Kind} {rest : List Char}
      (hc : (c, kind, withEquals) ∈ Token.equalsPairs) (hrest : rest.head? ≠ some '=') :
      Munch (symbol kind [c]) rest
  /-- An operator with its equals sign. -/
  | withEquals {c : Char} {alone kind : Token.Kind} {rest : List Char}
      (hc : (c, alone, kind) ∈ Token.equalsPairs) : Munch (symbol kind [c, '=']) rest
  /-- A slash that opens no comment. -/
  | slash {rest : List Char} (hline : rest.head? ≠ some '/') (hblock : rest.head? ≠ some '*') :
      Munch (symbol .slash ['/']) rest
  /-- The longest run of letters, digits and underscores, which no digit starts. -/
  | word {c : Char} {run rest : List Char} (hc : isWordStart c = true)
      (hrun : ∀ d ∈ run, isWordPart d = true)
      (hrest : ∀ d, rest.head? = some d → isWordPart d = false) : Munch (word (c :: run)) rest
  /-- The longest numeral. -/
  | number {whole fraction rest : List Char} (hne : whole ≠ [])
      (hw : ∀ d ∈ whole, isDigit d = true) (hf : ∀ d ∈ fraction, isDigit d = true)
      (hlongest : ∀ numeral, IsNumeral numeral → numeral <+: (number whole fraction).text ++ rest →
        numeral.length ≤ (number whole fraction).text.length) : Munch (number whole fraction) rest
  /-- A string through the next quote. -/
  | string {body rest : List Char} (hbody : '"' ∉ body) : Munch (string body true) rest
  /-- A string to the end of the text, which has no other quote. -/
  | openString {body : List Char} (hbody : '"' ∉ body) : Munch (string body false) []
  /-- A space, tab, carriage return or line feed. -/
  | blank {c : Char} {rest : List Char} (hc : c = ' ' ∨ c = '\r' ∨ c = '\t' ∨ c = '\n') :
      Munch (blank c) rest
  /-- A comment up to the next line feed or to the end of the text. -/
  | lineComment {body rest : List Char} (hbody : '\n' ∉ body)
      (hrest : ∀ d, rest.head? = some d → d = '\n') : Munch (lineComment body) rest
  /-- A comment through the first closing mark behind the opening mark. -/
  | blockComment {body rest : List Char} (hbody : ¬ Closes (body ++ ['*'])) :
      Munch (blockComment body true) rest
  /-- A comment to the end of the text, which has no closing mark. -/
  | openBlockComment {body : List Char} (hbody : ¬ Closes body) : Munch (blockComment body false) []
  /-- A character that starts nothing else. -/
  | stray {c : Char} {rest : List Char} (hc : StartsNothing c) : Munch (stray c) rest

/-- The text falls into these segments, each one munched in front of those after it. -/
inductive Segmented : List Char → List Segment → Prop
  /-- No text is left. -/
  | nil : Segmented [] []
  /-- One segment, and what it leaves. -/
  | cons {s : Segment} {rest : List Char} {segs : List Segment} (hs : Munch s rest)
      (hrest : Segmented rest segs) : Segmented (s.text ++ rest) (s :: segs)

variable {c : Char} {whole fraction body run rest source : List Char} {s : Segment}
  {segs : List Segment} {p : Char → Bool}

/-! ## Runs -/

/-- A run up to a boundary is what the longest prefix of its class takes. -/
theorem takeWhile_run {α : Type} {run rest : List α} {p : α → Bool} (hrun : ∀ d ∈ run, p d = true)
    (hrest : ∀ d, rest.head? = some d → p d = false) : (run ++ rest).takeWhile p = run := by
  rw [List.takeWhile_append_of_pos hrun]
  cases rest with
  | nil => simp
  | cons d others => simp [hrest d rfl]

/-- What follows a run up to a boundary is what the longest prefix of its class leaves. -/
theorem dropWhile_run {α : Type} {run rest : List α} {p : α → Bool} (hrun : ∀ d ∈ run, p d = true)
    (hrest : ∀ d, rest.head? = some d → p d = false) : (run ++ rest).dropWhile p = rest := by
  rw [List.dropWhile_append_of_pos hrun]
  cases rest with
  | nil => simp
  | cons d others => simp [hrest d rfl]

/-- The longest prefix of a class stops before a character that is not in it. -/
theorem not_of_head?_dropWhile {d : Char} (hd : (source.dropWhile p).head? = some d) :
    p d = false := by
  have hnot := List.head?_dropWhile_not p source
  rw [hd] at hnot
  simpa using hnot

theorem bne_of_not_mem (hbody : c ∉ body) : ∀ d ∈ body, (d != c) = true := by
  intro d hd
  rw [bne_iff_ne]
  rintro rfl
  exact hbody hd

theorem bne_eq_false_of_head? (hrest : ∀ d, rest.head? = some d → d = c) :
    ∀ d, rest.head? = some d → (d != c) = false := by
  intro d hd
  rw [hrest d hd, bne_self_eq_false]

/-- What stands before the first mark, or is the whole text. -/
theorem takeWhile_until (hbody : c ∉ body) (hrest : ∀ d, rest.head? = some d → d = c) :
    (body ++ rest).takeWhile (· != c) = body :=
  takeWhile_run (bne_of_not_mem hbody) (bne_eq_false_of_head? hrest)

/-- What the first mark starts, if there is one. -/
theorem dropWhile_until (hbody : c ∉ body) (hrest : ∀ d, rest.head? = some d → d = c) :
    (body ++ rest).dropWhile (· != c) = rest :=
  dropWhile_run (bne_of_not_mem hbody) (bne_eq_false_of_head? hrest)

/-! ## Numerals -/

/-- A run of a class at the front of a text is at most as long as the longest one. -/
theorem length_le_takeWhile (hrun : ∀ d ∈ run, p d = true) (hfront : run <+: source) :
    run.length ≤ (source.takeWhile p).length := by
  obtain ⟨others, rfl⟩ := hfront
  rw [List.takeWhile_append_of_pos hrun, List.length_append]
  omega

theorem isDigit_of_head?_point {d : Char} (hd : ('.' :: rest).head? = some d) :
    isDigit d = false := by
  cases hd
  rfl

/-- A numeral with a point at the front of a text has all digits before it. -/
theorem decimal_prefix (hw : ∀ d ∈ whole, isDigit d = true)
    (hfront : whole ++ '.' :: fraction <+: source) :
    whole = source.takeWhile isDigit ∧ '.' :: fraction <+: source.dropWhile isDigit := by
  obtain ⟨others, rfl⟩ := hfront
  -- the point is a boundary of the digits, on both sides of the equation
  rw [List.append_assoc, List.cons_append, takeWhile_run hw fun _ => isDigit_of_head?_point,
    dropWhile_run hw fun _ => isDigit_of_head?_point]
  exact ⟨rfl, others, by rw [List.cons_append]⟩

/-- What follows the digits of a numeral. -/
theorem text_number (whole fraction : List Char) :
    (number whole fraction).text = whole ++ if fraction = [] then [] else '.' :: fraction := by
  cases fraction with
  | nil => simp [text]
  | cons d others => simp [text]

/-- A digit starts no part of a numeral behind its whole part. -/
theorem isDigit_of_head?_fraction (fraction : List Char) {d : Char}
    (hd : (if fraction = [] then [] else '.' :: fraction).head? = some d) : isDigit d = false := by
  split at hd
  · cases hd
  · exact isDigit_of_head?_point hd

/-- The spelling of a numeral tells its two parts. -/
theorem number_text_injective {whole' fraction' : List Char} (hw : ∀ d ∈ whole, isDigit d = true)
    (hw' : ∀ d ∈ whole', isDigit d = true)
    (h : (number whole fraction).text = (number whole' fraction').text) :
    number whole fraction = number whole' fraction' := by
  rw [text_number, text_number] at h
  have hsame : whole = whole' := by
    rw [← takeWhile_run hw fun _ => isDigit_of_head?_fraction fraction, h,
      takeWhile_run hw' fun _ => isDigit_of_head?_fraction fraction']
  subst hsame
  have hsplit := List.append_cancel_left h
  congr 1
  split at hsplit <;> split at hsplit
  · simp_all
  · cases hsplit
  · cases hsplit
  · exact (List.cons.inj hsplit).2

/-- The numeral at the front of a text takes a point exactly before another digit. -/
theorem firstNumber_cases (c : Char) (rest : List Char) :
    (∃ next after, rest.dropWhile isDigit = '.' :: next :: after ∧ isDigit next = true ∧
      firstNumber c rest = (number (c :: rest.takeWhile isDigit)
        ((next :: after).takeWhile isDigit), (next :: after).dropWhile isDigit)) ∨
    (∀ next after, rest.dropWhile isDigit = '.' :: next :: after → isDigit next = false) ∧
      firstNumber c rest = (number (c :: rest.takeWhile isDigit) [], rest.dropWhile isDigit) := by
  simp only [firstNumber]
  split
  · rename_i next after htail
    by_cases hnext : isDigit next = true
    · refine Or.inl ⟨next, after, htail, hnext, ?_⟩
      rw [if_pos hnext, List.takeWhile_cons_of_pos hnext, List.dropWhile_cons_of_pos hnext]
    · refine Or.inr ⟨?_, by rw [if_neg hnext, htail]⟩
      intro next' after' h
      rw [htail] at h
      cases h
      exact Bool.eq_false_iff.2 hnext
  · rename_i hpoint
    exact Or.inr ⟨fun next after htail => absurd htail (hpoint next after), rfl⟩

/-- What is read is a numeral. -/
theorem exists_firstNumber (c : Char) (rest : List Char) :
    ∃ whole fraction after, firstNumber c rest = (number whole fraction, after) := by
  rcases firstNumber_cases c rest with ⟨next, after, -, -, hfirst⟩ | ⟨-, hfirst⟩ <;>
    exact ⟨_, _, _, hfirst⟩

/-- The digits at the front of a text that starts with one. -/
theorem takeWhile_digits (hc : isDigit c = true) :
    (c :: rest).takeWhile isDigit = c :: rest.takeWhile isDigit ∧
      (c :: rest).dropWhile isDigit = rest.dropWhile isDigit :=
  ⟨List.takeWhile_cons_of_pos hc, List.dropWhile_cons_of_pos hc⟩

/-- **No numeral at the front of a text is longer than the one that is read.** -/
theorem length_le_firstNumber {numeral : List Char} (hc : isDigit c = true)
    (h : IsNumeral numeral) (hfront : numeral <+: c :: rest) :
    numeral.length ≤ (firstNumber c rest).1.text.length := by
  rcases firstNumber_cases c rest with ⟨next, after, htail, hnext, hfirst⟩ | ⟨hpoint, hfirst⟩
  · rw [hfirst, ← (takeWhile_digits hc).1, text_number,
      if_neg (by simp [List.takeWhile_cons_of_pos hnext])]
    simp only [List.length_append, List.length_cons]
    cases h with
    | digits hne hw =>
      have hle := length_le_takeWhile hw hfront
      omega
    | decimal hne hw hne' hf =>
      obtain ⟨rfl, hfraction⟩ := decimal_prefix hw hfront
      rw [(takeWhile_digits hc).2, htail, List.cons_prefix_cons] at hfraction
      have hle := length_le_takeWhile hf hfraction.2
      simp only [List.length_append, List.length_cons]
      omega
  · rw [hfirst, ← (takeWhile_digits hc).1]
    cases h with
    | digits hne hw => exact length_le_takeWhile hw hfront
    | decimal hne hw hne' hf =>
      -- such a numeral would show a digit behind the point that was not taken
      obtain ⟨next, others, rfl⟩ := List.exists_cons_of_ne_nil hne'
      obtain ⟨-, after, htail⟩ := decimal_prefix hw hfront
      rw [(takeWhile_digits hc).2] at htail
      have hdigit := hf next List.mem_cons_self
      rw [hpoint next (others ++ after) htail.symm] at hdigit
      cases hdigit

/-- **The numeral that is read is the longest.** -/
theorem munch_firstNumber (hc : isDigit c = true) :
    Munch (firstNumber c rest).1 (firstNumber c rest).2 := by
  have hlongest : ∀ numeral, IsNumeral numeral →
      numeral <+: (firstNumber c rest).1.text ++ (firstNumber c rest).2 →
      numeral.length ≤ (firstNumber c rest).1.text.length := by
    intro numeral h hfront
    rw [text_firstNumber] at hfront
    exact length_le_firstNumber hc h hfront
  have hw : ∀ d ∈ c :: rest.takeWhile isDigit, isDigit d = true := by
    rw [← (takeWhile_digits hc).1]
    exact fun d => List.mem_takeWhile_imp
  rcases firstNumber_cases c rest with ⟨next, after, htail, hnext, hfirst⟩ | ⟨hpoint, hfirst⟩
  · rw [hfirst] at hlongest ⊢
    exact Munch.number (by simp) hw (fun d => List.mem_takeWhile_imp) hlongest
  · rw [hfirst] at hlongest ⊢
    exact Munch.number (by simp) hw (by simp) hlongest

/-- The parts of a numeral spell a numeral. -/
theorem isNumeral_text (hne : whole ≠ []) (hw : ∀ d ∈ whole, isDigit d = true)
    (hf : ∀ d ∈ fraction, isDigit d = true) : IsNumeral (number whole fraction).text := by
  rw [text_number]
  split
  · rw [List.append_nil]
    exact IsNumeral.digits hne hw
  · rename_i hne'
    exact IsNumeral.decimal hne hw hne' hf

/-- A text has one longest numeral at its front. -/
theorem number_unique {whole' fraction' rest' : List Char} (h : Munch (number whole fraction) rest)
    (h' : Munch (number whole' fraction') rest')
    (htext : (number whole fraction).text ++ rest = (number whole' fraction').text ++ rest') :
    number whole fraction = number whole' fraction' ∧ rest = rest' := by
  cases h with
  | number hne hw hf hlongest =>
    cases h' with
    | number hne' hw' hf' hlongest' =>
      -- each is a numeral at the front of the text that the other one is the longest of
      have hle := hlongest _ (isNumeral_text hne' hw' hf') (by rw [htext]; exact ⟨rest', rfl⟩)
      have hle' := hlongest' _ (isNumeral_text hne hw hf) (by rw [← htext]; exact ⟨rest, rfl⟩)
      obtain ⟨hspelling, hrest⟩ := List.append_inj htext (by omega)
      exact ⟨number_text_injective hw hw' hspelling, hrest⟩

/-- **The longest numeral is the one that is read.** -/
theorem firstNumber_of_munch {tail : List Char} (hc : isDigit c = true)
    (h : Munch (number whole fraction) rest)
    (htext : (number whole fraction).text ++ rest = c :: tail) :
    firstNumber c tail = (number whole fraction, rest) := by
  obtain ⟨whole', fraction', rest', hfirst⟩ := exists_firstNumber c tail
  have hmunch : Munch (firstNumber c tail).1 (firstNumber c tail).2 := munch_firstNumber hc
  have hsplit := text_firstNumber c tail
  rw [hfirst] at hmunch hsplit
  obtain ⟨hsame, rfl⟩ := number_unique h hmunch (htext.trans hsplit.symm)
  rw [hfirst, hsame]

/-- The second point is left for a token of its own. -/
example : firstNumber '1' ['.', '2', '.', '3'] = (number ['1'] ['2'], ['.', '3']) := by decide

/-! ## Block comments -/

/-- A closing mark stands at the front of a text or behind its first character. -/
theorem closes_cons (c : Char) (rest : List Char) :
    Closes (c :: rest) ↔ (c = '*' ∧ rest.head? = some '/') ∨ Closes rest := by
  have hslash : ['/'] <+: rest ↔ rest.head? = some '/' := by
    cases rest with
    | nil => simp
    | cons d others => simp [List.cons_prefix_cons, eq_comm]
  rw [Closes, Closes, List.infix_cons_iff, List.cons_prefix_cons, hslash, eq_comm]

theorem not_closes_nil : ¬ Closes [] := by
  intro h
  have hle := h.length_le
  simp at hle

/-- **A block comment is split at the first closing mark.** -/
theorem splitClosing?_eq_some (hbody : ¬ Closes (body ++ ['*'])) (after : List Char) :
    splitClosing? (body ++ '*' :: '/' :: after) = some (body, after) := by
  induction body with
  | nil => rfl
  | cons c others ih =>
    rw [List.cons_append, closes_cons, not_or] at hbody
    rw [List.cons_append, splitClosing?, ih hbody.2, Option.map_some]
    -- a mark that starts here would be in the body, or end at the star of the closing mark
    rintro tail rfl htail
    apply hbody.1
    refine ⟨rfl, ?_⟩
    cases others with
    | nil => cases htail
    | cons d others =>
      rw [List.cons_append] at htail
      cases htail
      rfl

/-- What stands before the closing mark of a block comment has none. -/
theorem not_closes_of_splitClosing? {text after : List Char}
    (h : splitClosing? text = some (body, after)) : ¬ Closes (body ++ ['*']) := by
  fun_induction splitClosing? text generalizing body with
  | case1 => cases h
  | case2 =>
    cases h
    simp [closes_cons, not_closes_nil]
  | case3 c rest hmark ih =>
    obtain ⟨⟨tail, last⟩, hsplit, hsame⟩ := Option.map_eq_some_iff.1 h
    cases hsame
    rw [List.cons_append, closes_cons]
    rintro (⟨rfl, hhead⟩ | hrest)
    -- the mark at the front would have been taken as the closing one
    · have hrest := eq_of_splitClosing? hsplit
      cases tail with
      | nil => cases hhead
      | cons d others =>
        cases hhead
        exact hmark (others ++ '*' :: '/' :: after) rfl hrest
    · exact ih hsplit hrest

/-- **A block comment stays open exactly if there is no closing mark.** -/
theorem splitClosing?_eq_none_iff {text : List Char} :
    splitClosing? text = none ↔ ¬ Closes text := by
  fun_induction splitClosing? text with
  | case1 => simp [not_closes_nil]
  | case2 => simp [closes_cons]
  | case3 c rest hmark ih =>
    have hfront : ¬ (c = '*' ∧ rest.head? = some '/') := by
      rintro ⟨rfl, hhead⟩
      obtain ⟨others, rfl⟩ := List.head?_eq_some_iff.1 hhead
      exact hmark others rfl rfl
    rw [Option.map_eq_none_iff, ih, closes_cons, not_or]
    exact ⟨fun h => ⟨hfront, h⟩, fun h => h.2⟩

/-! ## Classes of characters -/

/-- A table without entries for a character has no value for it. -/
theorem lookup_eq_none_iff {α : Type} {table : List (Char × α)} :
    table.lookup c = none ↔ ∀ value, (c, value) ∉ table := by
  rw [List.lookup_eq_none_iff]
  constructor
  · intro h value hmem
    have hne := h _ hmem
    simp at hne
  · rintro h ⟨d, value⟩ hmem
    rw [bne_iff_ne]
    rintro rfl
    exact h value hmem

/-- What a table has for a character is an entry of it. -/
theorem mem_of_lookup {α : Type} {table : List (Char × α)} {value : α}
    (h : table.lookup c = some value) : (c, value) ∈ table := by
  obtain ⟨before, after, rfl, -⟩ := List.lookup_eq_some_iff.1 h
  simp

theorem lookup_singles : ∀ entry ∈ Token.singles,
    Token.singles.lookup entry.1 = some entry.2 := by decide

/-- An operator is no punctuation, and its table has one pair of kinds for it. -/
theorem lookup_equalsPairs : ∀ entry ∈ Token.equalsPairs,
    Token.singles.lookup entry.1 = none ∧
      Token.equalsPairs.lookup entry.1 = some entry.2 := by decide

theorem isSpacing_iff : isSpacing c = true ↔ c = ' ' ∨ c = '\r' ∨ c = '\t' ∨ c = '\n' := by
  simp only [isSpacing, Bool.or_eq_true, beq_iff_eq, or_assoc]

/-- No word starts with a digit. -/
theorem isDigit_eq_false (hc : isWordStart c = true) : isDigit c = false := by
  rw [Bool.eq_false_iff]
  intro hdigit
  simp only [isWordStart, isDigit, Bool.or_eq_true, Bool.and_eq_true, decide_eq_true_eq,
    beq_iff_eq, Char.le_def, UInt32.le_iff_toNat_le] at hc hdigit
  -- the letters and the underscore come behind the last digit
  obtain ⟨-, hnine⟩ := hdigit
  have hcode : '9'.val.toNat = 57 := rfl
  rcases hc with (⟨hlower, -⟩ | ⟨hupper, -⟩) | rfl
  · have hcode' : 'a'.val.toNat = 97 := rfl
    omega
  · have hcode' : 'A'.val.toNat = 65 := rfl
    omega
  · have hcode' : '_'.val.toNat = 95 := rfl
    omega

/-! ## The first segment -/

/-- What a slash starts is munched. -/
theorem munch_firstSlash (rest : List Char) : Munch (firstSlash rest).1 (firstSlash rest).2 := by
  unfold firstSlash
  split
  · refine Munch.lineComment ?_ ?_
    · intro hbody
      have hother := List.mem_takeWhile_imp hbody
      simp at hother
    · intro d hd
      have hother := not_of_head?_dropWhile hd
      simpa using hother
  · unfold firstBlockComment
    split
    · rename_i hsplit
      exact Munch.blockComment (not_closes_of_splitClosing? hsplit)
    · rename_i hsplit
      exact Munch.openBlockComment (splitClosing?_eq_none_iff.1 hsplit)
  · rename_i hline hblock
    refine Munch.slash ?_ ?_
    · intro hhead
      obtain ⟨others, rfl⟩ := List.head?_eq_some_iff.1 hhead
      exact hline others rfl
    · intro hhead
      obtain ⟨others, rfl⟩ := List.head?_eq_some_iff.1 hhead
      exact hblock others rfl

/-- What a quote starts is munched. -/
theorem munch_firstString (rest : List Char) : Munch (firstString rest).1 (firstString rest).2 := by
  have hbody : '"' ∉ rest.takeWhile (· != '"') := by
    intro hquote
    have hother := List.mem_takeWhile_imp hquote
    simp at hother
  unfold firstString
  split
  · exact Munch.openString hbody
  · exact Munch.string hbody

/-- An operator is munched. -/
theorem munch_firstOperator {alone withEquals : Token.Kind}
    (hc : (c, alone, withEquals) ∈ Token.equalsPairs) (rest : List Char) :
    Munch (firstOperator c alone withEquals rest).1 (firstOperator c alone withEquals rest).2 := by
  unfold firstOperator
  split
  · exact Munch.withEquals hc
  · rename_i hequals
    refine Munch.alone hc ?_
    intro hhead
    obtain ⟨others, rfl⟩ := List.head?_eq_some_iff.1 hhead
    exact hequals others rfl

/-- **The first segment is munched.** -/
theorem munch_first (c : Char) (rest : List Char) : Munch (first c rest).1 (first c rest).2 := by
  unfold first
  split
  · rename_i hsingle
    exact Munch.single (mem_of_lookup hsingle)
  · rename_i hoperator
    exact munch_firstOperator (mem_of_lookup hoperator) rest
  · rename_i hsingle hoperator
    split
    · exact munch_firstSlash rest
    split
    · rename_i hspacing
      exact Munch.blank (isSpacing_iff.1 hspacing)
    split
    · exact munch_firstString rest
    split
    · rename_i hdigit
      exact munch_firstNumber hdigit
    split
    · rename_i hword
      exact Munch.word hword (fun d => List.mem_takeWhile_imp) fun d => not_of_head?_dropWhile
    rename_i hslash hspacing hquote hdigit hword
    exact Munch.stray ⟨lookup_eq_none_iff.1 hsingle, lookup_eq_none_iff.1 hoperator, hslash,
      Bool.eq_false_iff.2 hspacing, hquote, Bool.eq_false_iff.2 hdigit, Bool.eq_false_iff.2 hword⟩

/-- What is munched behind a slash is what the slash starts. -/
theorem firstSlash_lineComment (hbody : '\n' ∉ body)
    (hrest : ∀ d, rest.head? = some d → d = '\n') :
    firstSlash ('/' :: (body ++ rest)) = (lineComment body, rest) := by
  simp only [firstSlash, takeWhile_until hbody hrest, dropWhile_until hbody hrest]

/-- A string is read through the next quote. -/
theorem firstString_of_run (hbody : '"' ∉ body) (hrest : ∀ d, rest.head? = some d → d = '"') :
    firstString (body ++ rest) = (string body (! rest.isEmpty), rest.tail) := by
  simp only [firstString, takeWhile_until hbody hrest, dropWhile_until hbody hrest]
  cases rest with
  | nil => rfl
  | cons d others => rfl

/-- A slash that opens no comment is a token. -/
theorem firstSlash_symbol (hline : rest.head? ≠ some '/') (hblock : rest.head? ≠ some '*') :
    firstSlash rest = (symbol .slash ['/'], rest) := by
  unfold firstSlash
  split
  · exact absurd rfl hline
  · exact absurd rfl hblock
  · rfl

/-- An operator without an equals sign behind it stands alone. -/
theorem firstOperator_alone {alone withEquals : Token.Kind} (hrest : rest.head? ≠ some '=') :
    firstOperator c alone withEquals rest = (symbol alone [c], rest) := by
  unfold firstOperator
  split
  · exact absurd rfl hrest
  · rfl

theorem first_slash (rest : List Char) : first '/' rest = firstSlash rest := rfl

theorem first_quote (rest : List Char) : first '"' rest = firstString rest := rfl

theorem first_blank (hc : c = ' ' ∨ c = '\r' ∨ c = '\t' ∨ c = '\n') (rest : List Char) :
    first c rest = (blank c, rest) := by
  rcases hc with rfl | rfl | rfl | rfl <;> rfl

/-- A class that leaves alone whatever is looked for before digits and letters. -/
theorem first_of_class (hsingles : ∀ entry ∈ Token.singles, p entry.1 = false)
    (hpairs : ∀ entry ∈ Token.equalsPairs, p entry.1 = false)
    (hothers : ['/', '"', ' ', '\r', '\t', '\n'].all (! p ·) = true) (hc : p c = true)
    (rest : List Char) :
    first c rest = if isDigit c then firstNumber c rest
      else if isWordStart c then (word (c :: rest.takeWhile isWordPart), rest.dropWhile isWordPart)
      else (stray c, rest) := by
  have hne : ∀ d, p d = false → c ≠ d := by
    rintro d hd rfl
    rw [hc] at hd
    cases hd
  have hsingle := lookup_eq_none_iff.2 fun kind hmem => hne c (hsingles _ hmem) rfl
  have hpair := lookup_eq_none_iff.2 fun kinds hmem => hne c (hpairs _ hmem) rfl
  have hother : ∀ d ∈ ['/', '"', ' ', '\r', '\t', '\n'], c ≠ d := by
    intro d hd
    exact hne d (by simpa using List.all_eq_true.1 hothers d hd)
  have hspacing : ¬ isSpacing c = true := by
    rw [isSpacing_iff]
    rintro (rfl | rfl | rfl | rfl) <;> exact hother _ (by decide) rfl
  simp only [first, hsingle, hpair, if_neg (hother '/' (by decide)),
    if_neg (hother '"' (by decide)), if_neg hspacing]

theorem first_digit (hc : isDigit c = true) (rest : List Char) :
    first c rest = firstNumber c rest := by
  rw [first_of_class (p := isDigit) (by decide) (by decide) rfl hc, if_pos hc]

/-- A text that starts with a letter or an underscore. -/
theorem first_word (hc : isWordStart c = true) (rest : List Char) :
    first c rest = (word (c :: rest.takeWhile isWordPart), rest.dropWhile isWordPart) := by
  rw [first_of_class (p := isWordStart) (by decide) (by decide) rfl hc,
    if_neg (by rw [isDigit_eq_false hc]; decide), if_pos hc]

/-- A text that starts with a character in none of the classes. -/
theorem first_stray (hc : StartsNothing c) (rest : List Char) :
    first c rest = (stray c, rest) := by
  simp only [first, lookup_eq_none_iff.2 hc.single, lookup_eq_none_iff.2 hc.operator,
    if_neg hc.slash, if_neg hc.quote, hc.spacing, hc.digit, hc.wordStart, Bool.false_eq_true,
    if_false]

/-- **What is munched is the first segment.** -/
theorem first_of_munch (h : Munch s rest) :
    ∃ c tail, s.text ++ rest = c :: tail ∧ first c tail = (s, rest) := by
  cases h with
  | @single c kind _ hc =>
    refine ⟨c, rest, rfl, ?_⟩
    simp only [first, lookup_singles _ hc]
  | @alone c kind withEquals _ hc hrest =>
    refine ⟨c, rest, rfl, ?_⟩
    simp only [first, lookup_equalsPairs _ hc, firstOperator_alone hrest]
  | @withEquals c alone kind _ hc =>
    refine ⟨c, '=' :: rest, rfl, ?_⟩
    simp only [first, lookup_equalsPairs _ hc, firstOperator]
  | slash hline hblock => exact ⟨'/', rest, rfl, firstSlash_symbol hline hblock⟩
  | @word c run _ hc hrun hrest =>
    refine ⟨c, run ++ rest, rfl, ?_⟩
    rw [first_word hc, takeWhile_run hrun hrest, dropWhile_run hrun hrest]
  | @number whole fraction _ hne hw hf hlongest =>
    obtain ⟨c, run, rfl⟩ := List.exists_cons_of_ne_nil hne
    have hc := hw c List.mem_cons_self
    obtain ⟨tail, htail⟩ : ∃ tail, (number (c :: run) fraction).text ++ rest = c :: tail := by
      rw [text_number]
      exact ⟨_, by rw [List.cons_append, List.cons_append]⟩
    refine ⟨c, tail, htail, ?_⟩
    rw [first_digit hc, firstNumber_of_munch hc (Munch.number hne hw hf hlongest) htail]
  | @string body _ hbody =>
    refine ⟨'"', body ++ '"' :: rest, by simp [text], ?_⟩
    rw [first_quote, firstString_of_run hbody (by simp)]
    rfl
  | @openString body hbody =>
    refine ⟨'"', body ++ [], by simp [text], ?_⟩
    rw [first_quote, firstString_of_run hbody (by simp)]
    rfl
  | @blank c _ hc => exact ⟨c, rest, rfl, first_blank hc rest⟩
  | @lineComment body _ hbody hrest =>
    exact ⟨'/', '/' :: (body ++ rest), rfl, firstSlash_lineComment hbody hrest⟩
  | @blockComment body _ hbody =>
    refine ⟨'/', '*' :: (body ++ '*' :: '/' :: rest), by simp [text], ?_⟩
    rw [first_slash, firstSlash, firstBlockComment, splitClosing?_eq_some hbody rest]
  | @openBlockComment body hbody =>
    refine ⟨'/', '*' :: body, by simp [text], ?_⟩
    rw [first_slash, firstSlash, firstBlockComment, splitClosing?_eq_none_iff.2 hbody]
  | @stray c _ hc => exact ⟨c, rest, rfl, first_stray hc rest⟩

/-! ## All segments -/

theorem text_ne_nil (h : Munch s rest) : s.text ≠ [] := by
  obtain ⟨c, tail, -, hfirst⟩ := first_of_munch h
  have hne := text_first_ne_nil c tail
  rwa [hfirst] at hne

/-- **A scan's segments are a segmentation.** -/
theorem segmented_segments (source : List Char) : Segmented source (segments source) := by
  fun_induction segments source with
  | case1 => exact Segmented.nil
  | case2 c rest ih =>
    have hcons := Segmented.cons (munch_first c rest) ih
    rwa [text_first] at hcons

/-- **There is no other segmentation.** -/
theorem Segmented.eq_segments (h : Segmented source segs) : segs = segments source := by
  induction h with
  | nil => rw [segments]
  | cons hs hrest ih =>
    obtain ⟨c, tail, htext, hfirst⟩ := first_of_munch hs
    rw [htext, segments, hfirst, ih]

/-- The segments of a segmentation put together are the text. -/
theorem Segmented.flatMap_text (h : Segmented source segs) : segs.flatMap text = source := by
  rw [h.eq_segments, flatMap_text_segments]

/-- Each segment of a segmentation takes a character. -/
theorem Segmented.text_ne_nil (h : Segmented source segs) : ∀ s ∈ segs, s.text ≠ [] := by
  induction h with
  | nil => simp
  | cons hs hrest ih =>
    intro s hmem
    rcases List.mem_cons.1 hmem with rfl | hmem
    · exact Segment.text_ne_nil hs
    · exact ih s hmem

/-! ## Tokens and faults -/

/-- The code of the error that a segment deserves. -/
def code? : Segment → Option String
  | stray _ => some "L001"
  | string _ false => some "L002"
  | blockComment _ false => some "L003"
  | number whole fraction =>
    if (Binary64.ofDecimal whole fraction).isInfinite then some "L004" else none
  | _ => none

/-- The code that a segment deserves is the code of what is wrong with it. -/
theorem map_code_fault? (s : Segment) : s.fault?.map LexicalFault.code = s.code? := by
  rcases s with _ | _ | ⟨whole, fraction⟩ | ⟨_, _ | _⟩ | _ | _ | ⟨_, _ | _⟩ | _ <;> try rfl
  simp only [fault?, code?]
  split <;> rfl

/-- What is taken from segments without looking at their lines. -/
theorem filterMap_withLines {α : Type} (f : Segment → Option α) (line : Nat)
    (segs : List Segment) :
    (withLines line segs).filterMap (fun (_, s) => f s) = segs.filterMap f := by
  have hsnd := congrArg (List.filterMap f) (map_snd_withLines line segs)
  rwa [List.filterMap_map] at hsnd

end Segment

open Segment

/-- **A scan accounts for every character.**  A source falls into segments by maximal munch in
exactly one way.  They are not empty, and put together they are the source.  The scan finds their
tokens and the end of the input, with the lexemes that they are, and an error for each of them that
deserves one. -/
theorem scan_maximal_munch (source : String) :
    ∃ segs : List Segment, (∀ segs', Segmented source.toList segs' ↔ segs' = segs) ∧
      segs.flatMap text = source.toList ∧ (∀ s ∈ segs, s.text ≠ []) ∧
      (scan source).tokens = (withLines 1 segs).filterMap (fun (line, s) => s.token? line) ++
        [Token.endAt (lastLine source.toList)] ∧
      (scan source).tokens.map (fun t => (t.kind, t.lexeme)) =
        segs.filterMap (fun s => s.kind?.map fun kind => (kind, String.ofList s.text)) ++
          [(Token.Kind.endOfInput, "")] ∧
      (scan source).errors = (withLines 1 segs).filterMap (fun (line, s) => s.error? line) ∧
      (scan source).errors.map (·.code?) = (segs.filterMap code?).map some := by
  have hsegmented := segmented_segments source.toList
  refine ⟨segments source.toList, ?_, hsegmented.flatMap_text, hsegmented.text_ne_nil, rfl, ?_,
    rfl, ?_⟩
  · intro segs'
    constructor
    · exact Segmented.eq_segments
    · rintro rfl
      exact hsegmented
  · rw [← filterMap_withLines _ 1]
    simp only [scan, Scan.ofChars, List.map_append, List.map_filterMap, token?, Option.map_map]
    rfl
  · simp only [← map_code_fault?, List.map_filterMap]
    rw [← filterMap_withLines _ 1]
    simp only [scan, Scan.ofChars, List.map_filterMap, error?, Option.map_map]
    rfl

end LoxSyntax
