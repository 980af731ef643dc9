/-
# Lines

A scan counts lines as it goes; here lines are counted in the source.  A token stands on the line of
its first character, which is one more than the line feeds before it, whatever segments these stand
in.  An error counts for the line of the character or number at fault, and for the last line of the
source if something is left open there.
-/
import Mathlib.Data.List.Basic
import LoxSyntax.Proofs.MaximalMunch

namespace LoxSyntax

namespace Segment

variable {source before after : List Char} {s : Segment} {segs : List Segment} {line : Nat}

/-! ## Segments and the text before them -/

/-- Segments with the text before them, the first one behind the given text. -/
def placed (before : List Char) : List Segment → List (List Char × Segment)
  | [] => []
  | s :: rest => (before, s) :: placed (before ++ s.text) rest

/-- The text before a segment, the segment and some other text are the source, and the segment is
munched in front of that text. -/
theorem Segmented.of_mem_placed (h : Segmented source segs) (start : List Char) :
    ∀ entry ∈ placed start segs, ∃ after,
      start ++ source = entry.1 ++ (entry.2.text ++ after) ∧ Munch entry.2 after := by
  induction h generalizing start with
  | nil => simp [placed]
  | @cons s rest segs hs hrest ih =>
    intro entry hentry
    rcases List.mem_cons.1 hentry with rfl | hentry
    · exact ⟨rest, rfl, hs⟩
    · obtain ⟨after, htext, hmunch⟩ := ih _ entry hentry
      exact ⟨after, by rw [← htext, List.append_assoc], hmunch⟩

theorem lastLine_append (before : List Char) (s : Segment) :
    lastLine (before ++ s.text) = lastLine before + s.lineFeeds := by
  rw [lastLine, lastLine, lineFeeds, List.count_append, Nat.add_assoc]

/-- The lines that a scan counts are those of the text before each segment. -/
theorem filterMap_withLines_placed {α : Type} (f : Nat → Segment → Option α) (before : List Char)
    (segs : List Segment) :
    (withLines (lastLine before) segs).filterMap (fun (line, s) => f line s) =
      (placed before segs).filterMap fun (before, s) => f (lastLine before) s := by
  induction segs generalizing before with
  | nil => rfl
  | cons s rest ih =>
    rw [withLines, placed, List.filterMap_cons, List.filterMap_cons, ← lastLine_append, ih]

/-! ## Faults and line feeds -/

/-- The segment is punctuation, an operator, a word, a number or a character that starts nothing: no
blank, no comment and no string. -/
def IsSolid : Segment → Prop
  | symbol _ _ | word _ | number _ _ | stray _ => True
  | string _ _ | blank _ | lineComment _ | blockComment _ _ => False

/-- A character of a class without spacing is no spacing. -/
theorem isSpacing_eq_false {p : Char → Bool} {c : Char}
    (hp : p ' ' = false ∧ p '\r' = false ∧ p '\t' = false ∧ p '\n' = false) (hc : p c = true) :
    isSpacing c = false := by
  rw [Bool.eq_false_iff]
  intro hspacing
  rcases isSpacing_iff.1 hspacing with rfl | rfl | rfl | rfl
  · rw [hp.1] at hc
    cases hc
  · rw [hp.2.1] at hc
    cases hc
  · rw [hp.2.2.1] at hc
    cases hc
  · rw [hp.2.2.2] at hc
    cases hc

/-- **There is no spacing in a solid segment.** -/
theorem isSpacing_of_mem_text (h : Munch s after) (hsolid : s.IsSolid) :
    ∀ c ∈ s.text, isSpacing c = false := by
  have hsingles : ∀ entry ∈ Token.singles, isSpacing entry.1 = false := by decide
  have hpairs : ∀ entry ∈ Token.equalsPairs, isSpacing entry.1 = false := by decide
  have hdigits {digits : List Char} (hd : ∀ d ∈ digits, isDigit d = true) :
      ∀ c ∈ digits, isSpacing c = false := fun c hc => isSpacing_eq_false (by decide) (hd c hc)
  cases h with
  | single hc => exact List.forall_mem_singleton.2 (hsingles _ hc)
  | alone hc => exact List.forall_mem_singleton.2 (hpairs _ hc)
  | withEquals hc =>
    exact List.forall_mem_cons.2 ⟨hpairs _ hc, List.forall_mem_singleton.2 (by decide)⟩
  | slash => exact List.forall_mem_singleton.2 (by decide)
  | word hc hrun =>
    refine List.forall_mem_cons.2 ⟨isSpacing_eq_false (by decide) hc, fun d hd => ?_⟩
    exact isSpacing_eq_false (by decide) (hrun d hd)
  | number hne hw hf hlongest =>
    rw [text_number]
    refine List.forall_mem_append.2 ⟨hdigits hw, ?_⟩
    split
    · exact List.forall_mem_nil _
    · exact List.forall_mem_cons.2 ⟨by decide, hdigits hf⟩
  | stray hc => exact List.forall_mem_singleton.2 hc.spacing
  | string | openString | blank | lineComment | blockComment | openBlockComment => exact hsolid.elim

/-- So there is no line feed in it. -/
theorem lineFeeds_of_isSolid (h : Munch s after) (hsolid : s.IsSolid) : s.lineFeeds = 0 := by
  rw [lineFeeds, List.count_eq_zero]
  intro hmem
  have hspacing := isSpacing_of_mem_text h hsolid _ hmem
  revert hspacing
  decide

/-- What is left open goes on to the end of the source. -/
theorem after_of_munch_open (h : Munch s after)
    (hs : (∃ body, s = string body false) ∨ ∃ body, s = blockComment body false) : after = [] := by
  rcases hs with ⟨body, rfl⟩ | ⟨body, rfl⟩ <;> cases h <;> rfl

/-- The line for which a fault counts: the one on which the source ends if something is left open,
and the one on which the text before the fault ends otherwise. -/
def faultLine (source before : List Char) : LexicalFault → Nat
  | .unexpected _ | .numberTooLarge _ => 1 + before.count '\n'
  | .unterminatedString | .unterminatedComment => 1 + source.count '\n'

/-- A fault stands on the line on which its segment ends. -/
theorem faultLine_of_munch {fault : LexicalFault} (h : Munch s after)
    (hfault : s.fault? = some fault) :
    faultLine (before ++ (s.text ++ after)) before fault = lastLine before + s.lineFeeds := by
  -- what is left open is the rest of the source, so that the source ends where the segment does
  have hopen (hs : (∃ body, s = string body false) ∨ ∃ body, s = blockComment body false) :
      1 + (before ++ (s.text ++ after)).count '\n' = lastLine before + s.lineFeeds := by
    rw [after_of_munch_open h hs, List.append_nil, ← lastLine_append, lastLine]
  rcases s with _ | _ | ⟨whole, fraction⟩ | ⟨body, _ | _⟩ | _ | _ | ⟨body, _ | _⟩ | c <;>
    simp only [fault?, Option.some.injEq, reduceCtorEq, Option.ite_none_right_eq_some] at hfault
  case number =>
    obtain ⟨-, rfl⟩ := hfault
    rw [lineFeeds_of_isSolid h trivial]
    rfl
  case string.false =>
    subst hfault
    exact hopen (Or.inl ⟨body, rfl⟩)
  case blockComment.false =>
    subst hfault
    exact hopen (Or.inr ⟨body, rfl⟩)
  case stray =>
    subst hfault
    rw [lineFeeds_of_isSolid h trivial]
    rfl

/-- The error of a segment counts for the line of its fault. -/
theorem error?_of_munch (h : Munch s after) :
    s.error? (lastLine before) =
      s.fault?.map fun fault =>
        fault.at (faultLine (before ++ (s.text ++ after)) before fault) := by
  rw [error?]
  cases hfault : s.fault? with
  | none => rfl
  | some fault =>
    rw [Option.map_some, Option.map_some, faultLine_of_munch h hfault, Int.natCast_add]

/-! ## The order of lines -/

/-- The text before a segment of some text starts with what stands before that text. -/
theorem start_prefix_placed {start : List Char} :
    ∀ entry ∈ placed start segs, start <+: entry.1 := by
  induction segs generalizing start with
  | nil => simp [placed]
  | cons s rest ih =>
    intro entry hentry
    rcases List.mem_cons.1 hentry with rfl | hentry
    · exact List.prefix_rfl
    · exact (List.prefix_append start s.text).trans (ih entry hentry)

/-- The text before a segment starts with each earlier segment and the text before that one. -/
theorem pairwise_placed (start : List Char) (segs : List Segment) :
    (placed start segs).Pairwise fun a b => a.1 ++ a.2.text <+: b.1 := by
  induction segs generalizing start with
  | nil => exact List.Pairwise.nil
  | cons s rest ih => exact List.Pairwise.cons start_prefix_placed (ih _)

theorem lastLine_le (h : before <+: source) : lastLine before ≤ lastLine source :=
  Nat.add_le_add_left (h.sublist.count_le _) 1

/-- A token stands on the line on which the text before it ends. -/
theorem line_of_token? {line : Int} {t : Token} (h : s.token? line = some t) : t.line = line := by
  obtain ⟨kind, -, rfl⟩ := Option.map_eq_some_iff.1 h
  rfl

theorem line_of_error? {e : LexicalError} (h : s.error? (lastLine before) = some e) :
    e.line = lastLine (before ++ s.text) := by
  obtain ⟨fault, -, rfl⟩ := Option.map_eq_some_iff.1 h
  rw [lastLine_append, Int.natCast_add]
  rfl

theorem one_le_lastLine (source : List Char) : (1 : Int) ≤ lastLine source := by
  rw [lastLine]
  omega

/-- The lines of tokens never decrease, and the end of the text comes on the last line. -/
theorem pairwise_tokens (hplaced : ∀ entry ∈ placed before segs, entry.1 <+: source) :
    (((placed before segs).filterMap (fun (before, s) => s.token? (lastLine before)) ++
      [Token.endAt (lastLine source)]).map (·.line)).Pairwise (· ≤ ·) := by
  rw [List.pairwise_map, List.pairwise_append, List.pairwise_filterMap]
  refine ⟨(pairwise_placed before segs).imp ?_, List.pairwise_singleton _ _, ?_⟩
  · intro a b hab t ht t' ht'
    rw [line_of_token? ht, line_of_token? ht', Int.ofNat_le]
    exact lastLine_le ((List.prefix_append _ _).trans hab)
  · intro t ht eof heof
    obtain ⟨entry, hentry, ht⟩ := List.mem_filterMap.1 ht
    rw [List.mem_singleton.1 heof, line_of_token? ht]
    exact Int.ofNat_le.2 (lastLine_le (hplaced entry hentry))

/-- The lines of errors never decrease. -/
theorem pairwise_errors (before : List Char) (segs : List Segment) :
    (((placed before segs).filterMap fun (before, s) => s.error? (lastLine before)).map
      (·.line)).Pairwise (· ≤ ·) := by
  rw [List.pairwise_map, List.pairwise_filterMap]
  refine (pairwise_placed before segs).imp ?_
  intro a b hab e he e' he'
  rw [line_of_error? he, line_of_error? he', Int.ofNat_le]
  exact lastLine_le (hab.trans (List.prefix_append _ _))

end Segment

open Segment

/-- **A scan counts lines exactly.**  In a source that falls into segments, each token stands on the
line after the line feeds before its first character, and the end of the input on the line after all
line feeds.  An error counts for the line of its fault.  Hence lines start at one and never
decrease, neither from token to token nor from error to error. -/
theorem scan_lines_exact (source : String) :
    ∃ segs : List Segment, Segmented source.toList segs ∧
      (∀ entry ∈ placed [] segs, ∃ after,
        source.toList = entry.1 ++ (entry.2.text ++ after) ∧ Munch entry.2 after) ∧
      (scan source).tokens =
        (placed [] segs).filterMap (fun (before, s) => s.token? (1 + before.count '\n' : Nat)) ++
          [Token.endAt (1 + source.toList.count '\n' : Nat)] ∧
      (scan source).errors = (placed [] segs).filterMap (fun (before, s) =>
        s.fault?.map fun fault => fault.at (faultLine source.toList before fault)) ∧
      (∀ t ∈ (scan source).tokens, 1 ≤ t.line) ∧ (∀ e ∈ (scan source).errors, 1 ≤ e.line) ∧
      ((scan source).tokens.map (·.line)).Pairwise (· ≤ ·) ∧
      ((scan source).errors.map (·.line)).Pairwise (· ≤ ·) := by
  have hsegmented := segmented_segments source.toList
  have hplaced := hsegmented.of_mem_placed []
  have htokens : (scan source).tokens = (placed [] (segments source.toList)).filterMap
      (fun (before, s) => s.token? (lastLine before)) ++ [Token.endAt (lastLine source.toList)] :=
    congrArg (· ++ _) (filterMap_withLines_placed (fun line s => s.token? line) [] _)
  have herrors : (scan source).errors = (placed [] (segments source.toList)).filterMap
      (fun (before, s) => s.error? (lastLine before)) :=
    filterMap_withLines_placed (fun line s => s.error? line) [] _
  refine ⟨segments source.toList, hsegmented, hplaced, htokens, ?_, ?_, ?_, ?_, ?_⟩
  · rw [herrors]
    refine List.filterMap_congr ?_
    rintro ⟨before, s⟩ hentry
    obtain ⟨after, htext, hmunch⟩ := hplaced _ hentry
    simp only [error?_of_munch hmunch, ← htext, List.nil_append]
  · rw [htokens]
    intro t ht
    rcases List.mem_append.1 ht with ht | ht
    · obtain ⟨entry, -, ht⟩ := List.mem_filterMap.1 ht
      rw [line_of_token? ht]
      exact one_le_lastLine entry.1
    · rw [List.mem_singleton.1 ht]
      exact one_le_lastLine source.toList
  · rw [herrors]
    intro e he
    obtain ⟨entry, -, he⟩ := List.mem_filterMap.1 he
    rw [line_of_error? he]
    exact one_le_lastLine (entry.1 ++ entry.2.text)
  · rw [htokens]
    refine pairwise_tokens ?_
    intro entry hentry
    obtain ⟨after, htext, -⟩ := hplaced entry hentry
    exact ⟨_, htext.symm⟩
  · rw [herrors]
    exact pairwise_errors [] _

end LoxSyntax
