/-
# Blanks, words and parts of a text

What a text looks like that is trimmed, that falls into words, or that falls into parts at a mark:
the blanks at its ends and between its words, and the marks between its parts, are written out.
These shapes are unique, so that a reader of lines is told by them and not by the steps it takes.
-/
import Mathlib.Data.List.Basic
import LoxSyntax.Proofs.AcceptedGrammars
import LoxSyntax.Proofs.MaximalMunch

namespace LoxSyntax.Text

variable {text before between after rest core word first second : List Char} {mark c : Char}

/-! ## Blanks at the ends -/

/-- A text of blanks, which may be empty. -/
def IsBlanks (text : List Char) : Prop := ∀ c ∈ text, isBlank c = true

instance (text : List Char) : Decidable (IsBlanks text) :=
  decidable_of_iff (text.all isBlank = true) List.all_eq_true

/-- The text neither starts nor ends with a blank. -/
structure IsTrimmed (text : List Char) : Prop where
  first : ∀ c, text.head? = some c → isBlank c = false
  last : ∀ c, text.getLast? = some c → isBlank c = false

theorem isTrimmed_of_isBlank (h : ∀ c ∈ text, isBlank c = false) : IsTrimmed text :=
  ⟨fun _ hc => h _ (List.mem_of_mem_head? hc), fun _ hc => h _ (List.mem_of_mem_getLast? hc)⟩

theorem IsBlanks.not_mem (h : IsBlanks text) (hc : isBlank c = false) : c ∉ text := by
  intro hmem
  rw [h c hmem] at hc
  cases hc

theorem IsBlanks.append (h : IsBlanks before) (h' : IsBlanks after) : IsBlanks (before ++ after) :=
  List.forall_mem_append.2 ⟨h, h'⟩

/-- **Trimming** takes away the blanks at both ends. -/
theorem trim_append (hbefore : IsBlanks before) (hcore : IsTrimmed core) (hafter : IsBlanks after) :
    trim (before ++ core ++ after) = core := by
  have hends : (after.reverse ++ core.reverse).dropWhile isBlank = core.reverse := by
    refine Segment.dropWhile_run (fun c hc => hafter c (List.mem_reverse.1 hc)) fun c hc => ?_
    rw [List.head?_reverse] at hc
    exact hcore.last c hc
  unfold trim
  by_cases hempty : core = []
  · -- nothing but blanks
    have hall : ∀ c ∈ before ++ core ++ after, isBlank c = true := by
      rw [hempty, List.append_nil]
      exact hbefore.append hafter
    rw [List.dropWhile_eq_nil_iff.2 hall, hempty]
    rfl
  · have hfront : (before ++ (core ++ after)).dropWhile isBlank = core ++ after := by
      refine Segment.dropWhile_run hbefore fun c hc => hcore.first c ?_
      rwa [List.head?_append_of_ne_nil _ hempty] at hc
    rw [List.append_assoc, hfront, List.reverse_append, hends, List.reverse_reverse]

/-- What was taken away are blanks. -/
theorem exists_trim (text : List Char) : ∃ before after,
    text = before ++ trim text ++ after ∧ IsBlanks before ∧ IsTrimmed (trim text) ∧
      IsBlanks after := by
  have hfront := List.takeWhile_append_dropWhile (p := isBlank) (l := text)
  have hback :=
    List.takeWhile_append_dropWhile (p := isBlank) (l := (text.dropWhile isBlank).reverse)
  have hmiddle : text.dropWhile isBlank =
      trim text ++ ((text.dropWhile isBlank).reverse.takeWhile isBlank).reverse := by
    rw [trim, ← List.reverse_append, hback, List.reverse_reverse]
  refine ⟨text.takeWhile isBlank, ((text.dropWhile isBlank).reverse.takeWhile isBlank).reverse,
    ?_, fun c hc => List.mem_takeWhile_imp hc, ⟨fun c hc => ?_, fun c hc => ?_⟩, fun c hc => ?_⟩
  · rw [List.append_assoc, ← hmiddle, hfront]
  · have hfirst : (text.dropWhile isBlank).head? = some c := by
      rw [hmiddle, List.head?_append, hc]
      rfl
    exact Segment.not_of_head?_dropWhile hfirst
  · rw [trim, List.getLast?_reverse] at hc
    exact Segment.not_of_head?_dropWhile hc
  · exact List.mem_takeWhile_imp (List.mem_reverse.1 hc)

/-- **The trimmed text** is the one part of the text that is trimmed and has only blanks
around it. -/
theorem trim_eq_iff : trim text = core ↔ IsTrimmed core ∧ ∃ before after,
    text = before ++ core ++ after ∧ IsBlanks before ∧ IsBlanks after := by
  constructor
  · rintro rfl
    obtain ⟨before, after, htext, hbefore, hcore, hafter⟩ := exists_trim text
    exact ⟨hcore, before, after, htext, hbefore, hafter⟩
  · rintro ⟨hcore, before, after, rfl, hbefore, hafter⟩
    exact trim_append hbefore hcore hafter

theorem trim_blanks_append (h : IsBlanks before) : trim (before ++ text) = trim text := by
  obtain ⟨front, back, htext, hfront, hcore, hback⟩ := exists_trim text
  refine trim_eq_iff.2 ⟨hcore, before ++ front, back, ?_, h.append hfront, hback⟩
  rw [List.append_assoc, List.append_assoc, ← List.append_assoc front, ← htext]

/-! ## Words -/

/-- Blanks in front of a text give no words. -/
theorem words_blanks_append (h : IsBlanks before) (text : List Char) :
    words (before ++ text) = words text := by
  induction before with
  | nil => rfl
  | cons c before ih =>
    rw [IsBlanks, List.forall_mem_cons] at h
    rw [List.cons_append, words, pieces, if_pos h.1, List.filter_cons_of_neg (by simp)]
    exact ih h.2

theorem words_of_isBlanks (h : IsBlanks text) : words text = [] := by
  have hnil := words_blanks_append h []
  rwa [List.append_nil] at hnil

/-- A word up to a blank or the end of the text is the first word. -/
theorem words_word_append (hword : IsWord word)
    (hrest : ∀ c, rest.head? = some c → isBlank c = true) :
    words (word ++ rest) = word :: words rest := by
  have hkept (others : List (List Char)) : (word :: others).filter (! ·.isEmpty) =
      word :: others.filter (! ·.isEmpty) := List.filter_cons_of_pos (by simpa using hword.1)
  cases rest with
  | nil =>
    rw [List.append_nil, words, pieces_eq_singleton hword.2, hkept]
    rfl
  | cons c rest =>
    have hblank : isBlank c = true := hrest c rfl
    rw [words, pieces_append_cons hblank, pieces_eq_singleton hword.2, List.singleton_append,
      hkept, words, pieces, if_pos hblank, List.filter_cons_of_neg (by simp)]

/-- **A text is blank, or it goes on with a word** behind its blanks. -/
theorem words_cases (text : List Char) : (IsBlanks text ∧ words text = []) ∨
    ∃ before word rest, text = before ++ (word ++ rest) ∧ IsBlanks before ∧ IsWord word ∧
      (∀ c, rest.head? = some c → isBlank c = true) ∧ words text = word :: words rest := by
  have hblanks : IsBlanks (text.takeWhile isBlank) := fun c hc => List.mem_takeWhile_imp hc
  have htext := List.takeWhile_append_dropWhile (p := isBlank) (l := text)
  have hwords := words_blanks_append hblanks (text.dropWhile isBlank)
  rw [htext] at hwords
  cases hothers : text.dropWhile isBlank with
  | nil =>
    left
    rw [hothers, List.append_nil] at htext
    rw [hothers] at hwords
    exact ⟨htext ▸ hblanks, hwords⟩
  | cons c others =>
    right
    have hfirst : isBlank c = false := Segment.not_of_head?_dropWhile (by rw [hothers]; rfl)
    have hsplit := List.takeWhile_append_dropWhile (p := (! isBlank ·)) (l := c :: others)
    have hword : IsWord ((c :: others).takeWhile (! isBlank ·)) := by
      refine ⟨?_, fun d hd => by simpa using List.mem_takeWhile_imp hd⟩
      rw [List.takeWhile_cons_of_pos (by simpa using hfirst)]
      exact List.cons_ne_nil _ _
    have hrest : ∀ d, ((c :: others).dropWhile (! isBlank ·)).head? = some d →
        isBlank d = true := by
      intro d hd
      simpa using Segment.not_of_head?_dropWhile hd
    refine ⟨_, _, _, ?_, hblanks, hword, hrest, ?_⟩
    · rw [hsplit, ← hothers, htext]
    · rw [hwords, hothers, ← words_word_append hword hrest, hsplit]

/-- Blanks behind a text give no words. -/
theorem words_append_blanks (h : IsBlanks after) : words (text ++ after) = words text := by
  generalize hlength : text.length = n
  induction n using Nat.strong_induction_on generalizing text with
  | _ n ih =>
    rcases words_cases text with
      ⟨hblank, hwords⟩ | ⟨before, word, rest, rfl, hb, hword, hrest, hwords⟩
    · rw [words_blanks_append hblank, words_of_isBlanks h, hwords]
    · have hrest' : ∀ c, (rest ++ after).head? = some c → isBlank c = true := by
        intro c hc
        cases rest with
        | nil => exact h c (List.mem_of_mem_head? hc)
        | cons d others => exact hrest c hc
      have hshorter : rest.length < n := by
        have hpositive := List.length_pos_iff.2 hword.1
        simp only [List.length_append] at hlength
        omega
      rw [hwords, List.append_assoc, words_blanks_append hb, List.append_assoc,
        words_word_append hword hrest', ih _ hshorter rfl]

/-- **A text of two words**: blanks between them, and maybe around them. -/
theorem words_eq_pair_iff : words text = [first, second] ↔
    IsWord first ∧ IsWord second ∧ ∃ before between after,
      text = before ++ first ++ between ++ second ++ after ∧
        IsBlanks before ∧ IsBlanks between ∧ between ≠ [] ∧ IsBlanks after := by
  constructor
  · intro h
    rcases words_cases text with
      ⟨-, hnone⟩ | ⟨before, word, rest, rfl, hbefore, hword, hrest, hwords⟩
    · rw [hnone] at h
      cases h
    obtain ⟨rfl, hsecond⟩ := List.cons.inj (hwords.symm.trans h)
    rcases words_cases rest with ⟨-, hnone⟩ |
      ⟨between, word', after, rfl, hbetween, hword', -, hwords'⟩
    · rw [hnone] at hsecond
      cases hsecond
    obtain ⟨rfl, hend⟩ := List.cons.inj (hwords'.symm.trans hsecond)
    have hafter : IsBlanks after := by
      rcases words_cases after with ⟨hblank, -⟩ | ⟨_, _, _, _, _, _, _, hmore⟩
      · exact hblank
      · rw [hmore] at hend
        cases hend
    refine ⟨hword, hword', before, between, after, by simp only [List.append_assoc], hbefore,
      hbetween, ?_, hafter⟩
    -- without blanks between them the second word would go on with the first one
    rintro rfl
    obtain ⟨c, run, rfl⟩ := List.exists_cons_of_ne_nil hword'.1
    have hblank := hrest c rfl
    rw [hword'.2 c List.mem_cons_self] at hblank
    cases hblank
  · rintro ⟨hfirst, hsecond, before, between, after, rfl, hbefore, hbetween, hne, hafter⟩
    have hboundary : ∀ c, (between ++ (second ++ after)).head? = some c → isBlank c = true := by
      intro c hc
      rw [List.head?_append_of_ne_nil _ hne] at hc
      exact hbetween c (List.mem_of_mem_head? hc)
    have hend : ∀ c, after.head? = some c → isBlank c = true :=
      fun c hc => hafter c (List.mem_of_mem_head? hc)
    simp only [List.append_assoc]
    rw [words_blanks_append hbefore, words_word_append hfirst hboundary,
      words_blanks_append hbetween, words_word_append hsecond hend, words_of_isBlanks hafter]

/-! ## Parts between marks -/

/-- The pieces with their mark between them are the text. -/
theorem intercalate_pieces (mark : Char) (text : List Char) :
    [mark].intercalate (pieces (· == mark) text) = text := by
  induction text with
  | nil => rfl
  | cons c rest ih =>
    obtain ⟨piece, others, hcons⟩ := List.exists_cons_of_ne_nil (pieces_ne_nil (· == mark) rest)
    rw [hcons] at ih
    by_cases hc : c = mark
    · rw [pieces, if_pos (by simpa using hc), hcons, List.intercalate_cons_cons, ih, hc]
      rfl
    · rw [pieces, if_neg (by simpa using hc), hcons]
      cases others with
      | nil =>
        rw [List.intercalate_singleton] at ih
        rw [List.intercalate_singleton, ih]
      | cons next others =>
        rw [List.intercalate_cons_cons] at ih ⊢
        rw [List.cons_append, List.cons_append, ih]

/-- Parts without a mark, with the mark between them, are the pieces. -/
theorem pieces_intercalate {parts : List (List Char)} (hne : parts ≠ [])
    (h : ∀ part ∈ parts, mark ∉ part) : pieces (· == mark) ([mark].intercalate parts) = parts := by
  induction parts with
  | nil => exact absurd rfl hne
  | cons part parts ih =>
    obtain ⟨hpart, hparts⟩ := List.forall_mem_cons.1 h
    have hone : pieces (· == mark) part = [part] := by
      refine pieces_eq_singleton fun c hc => ?_
      rw [beq_eq_false_iff_ne]
      rintro rfl
      exact hpart hc
    cases parts with
    | nil => rw [List.intercalate_singleton, hone]
    | cons next parts =>
      have hcut (after : List Char) : pieces (· == mark) (part ++ mark :: after) =
          pieces (· == mark) part ++ pieces (· == mark) after :=
        pieces_append_cons (by exact beq_self_eq_true mark) part after
      rw [List.intercalate_cons_cons, List.append_assoc, List.singleton_append, hcut, hone,
        ih (List.cons_ne_nil _ _) hparts]
      rfl

/-- **The pieces of a text** are its parts without a mark between the marks. -/
theorem pieces_eq_iff {parts : List (List Char)} : pieces (· == mark) text = parts ↔
    parts ≠ [] ∧ text = [mark].intercalate parts ∧ ∀ part ∈ parts, mark ∉ part := by
  constructor
  · rintro rfl
    refine ⟨pieces_ne_nil _ _, (intercalate_pieces mark text).symm, fun part hpart hmem => ?_⟩
    have hcut := isCut_of_mem_pieces hpart mark hmem
    rw [beq_self_eq_true] at hcut
    cases hcut
  · rintro ⟨hne, rfl, hparts⟩
    exact pieces_intercalate hne hparts

/-- What is put behind a text without a cut lengthens its last piece. -/
theorem exists_pieces_append {isCut : Char → Bool} (text : List Char)
    (h : ∀ c ∈ after, isCut c = false) : ∃ front last,
    pieces isCut text = front ++ [last] ∧
      pieces isCut (text ++ after) = front ++ [last ++ after] := by
  induction text with
  | nil => exact ⟨[], [], rfl, pieces_eq_singleton h⟩
  | cons c rest ih =>
    obtain ⟨front, last, hpieces, hpieces'⟩ := ih
    by_cases hc : isCut c = true
    · refine ⟨[] :: front, last, ?_, ?_⟩
      · rw [pieces, if_pos hc, hpieces, List.cons_append]
      · rw [List.cons_append, pieces, if_pos hc, hpieces', List.cons_append]
    · rw [List.cons_append, pieces, if_neg hc, pieces, if_neg hc, hpieces, hpieces']
      cases front with
      | nil => exact ⟨[], c :: last, rfl, rfl⟩
      | cons piece front => exact ⟨(c :: piece) :: front, last, rfl, rfl⟩

/-- Blanks behind a text give no words to its last piece. -/
theorem map_words_pieces_append {isCut : Char → Bool} (text : List Char) (h : IsBlanks after)
    (hcut : ∀ c ∈ after, isCut c = false) :
    (pieces isCut (text ++ after)).map words = (pieces isCut text).map words := by
  obtain ⟨front, last, hpieces, hpieces'⟩ := exists_pieces_append text hcut
  rw [hpieces, hpieces', List.map_append, List.map_append, List.map_singleton, List.map_singleton,
    words_append_blanks h]

/-- A text falls into two parts at the first mark exactly if they stand around it. -/
theorem splitFirst?_eq_some_iff {α : Type} [BEq α] [LawfulBEq α] {mark : α}
    {text before after : List α} : splitFirst? mark text = some (before, after) ↔
      text = before ++ mark :: after ∧ mark ∉ before := by
  constructor
  · exact eq_of_splitFirst?
  · rintro ⟨rfl, h⟩
    exact splitFirst?_append h

/-- A text has no two parts exactly if the mark is not in it. -/
theorem splitFirst?_eq_none_iff {α : Type} [BEq α] [LawfulBEq α] {mark : α} {text : List α} :
    splitFirst? mark text = none ↔ mark ∉ text := by
  constructor
  · intro h hmem
    obtain ⟨front, back, rfl, hfront⟩ := List.eq_append_cons_of_mem hmem
    rw [splitFirst?_append hfront] at h
    cases h
  · intro h
    cases hsplit : splitFirst? mark text with
    | none => rfl
    | some parts =>
      obtain ⟨rfl, -⟩ := eq_of_splitFirst? hsplit
      exact absurd (List.mem_append_right _ List.mem_cons_self) h

/-- What is put around a text without the mark goes to the two parts. -/
theorem splitFirst?_around (hbefore : mark ∉ before) (hafter : mark ∉ after) (text : List Char) :
    splitFirst? mark (before ++ text ++ after) =
      (splitFirst? mark text).map fun (first, second) => (before ++ first, second ++ after) := by
  cases hsplit : splitFirst? mark text with
  | none =>
    have hnone := splitFirst?_eq_none_iff.1 hsplit
    refine splitFirst?_eq_none_iff.2 ?_
    simp only [List.mem_append, not_or]
    exact ⟨⟨hbefore, hnone⟩, hafter⟩
  | some parts =>
    obtain ⟨rfl, hfirst⟩ := eq_of_splitFirst? hsplit
    refine splitFirst?_eq_some_iff.2 ⟨?_, List.not_mem_append hbefore hfirst⟩
    simp only [List.append_assoc, List.cons_append]

end LoxSyntax.Text
