/-
# Scanning the lexemes again

The tokens of a source do not depend on what stood between them: their lexemes with single blanks
between them scan to the same tokens, and the faults of these lexemes are found again.  A segment
that makes a token is munched before a blank as it was before whatever followed it; only a string
that was left open needs the end of the text, and nothing followed it in the source either.
-/
import LoxSyntax.Proofs.JoinedLines
import LoxSyntax.Proofs.PrefixNotation

namespace LoxSyntax

/-- A token without its line. -/
def Token.content (t : Token) : Token.Kind × String × Value := (t.kind, t.lexeme, t.literal)

/-- An error without its line. -/
def LexicalError.content (e : LexicalError) : String × Option String := (e.message, e.code?)

namespace Segment

open PrefixNotation (Ends)

variable {source rest after : List Char} {s : Segment} {segs : List Segment}

/-! ## Segments with other segments behind them -/

/-- What is left open is at the end of the text. -/
theorem rest_eq_nil_of_not_isClosed (h : Munch s rest) (hopen : ¬ s.IsClosed) : rest = [] := by
  rcases s with _ | _ | _ | ⟨body, _ | _⟩ | _ | _ | ⟨body, _ | _⟩ | _ <;>
    simp only [IsClosed, not_true_eq_false] at hopen
  · exact after_of_munch_open h (Or.inl ⟨body, rfl⟩)
  · exact after_of_munch_open h (Or.inr ⟨body, rfl⟩)

/-- **A segment that makes a token is munched before any end**, unless it is left open. -/
theorem Munch.before_end (h : Munch s rest) (hkind : s.kind? ≠ none) (hafter : Ends after)
    (hclosed : s.IsClosed ∨ after = []) : Munch s after := by
  cases h with
  | single hc => exact Munch.single hc
  | alone hc hrest => exact Munch.alone hc (hafter.head?_ne (by decide) (by decide))
  | withEquals hc => exact Munch.withEquals hc
  | slash hline hblock =>
    exact Munch.slash (hafter.head?_ne (by decide) (by decide))
      (hafter.head?_ne (by decide) (by decide))
  | word hc hrun hrest =>
    refine Munch.word hc hrun fun d hd => ?_
    rcases hafter d hd with rfl | rfl <;> rfl
  | number hne hw hf hlongest =>
    refine munch_number_append hne hw hf fun d hd => ?_
    rcases hafter d hd with rfl | rfl <;> decide
  | string hbody => exact Munch.string hbody
  | openString hbody =>
    rcases hclosed with hclosed | rfl
    · cases hclosed
    · exact Munch.openString hbody
  | blank | lineComment | blockComment | openBlockComment | stray => exact absurd rfl hkind

/-- The segment makes a token. -/
def makesToken (s : Segment) : Bool := s.kind?.isSome

/-- The segments that make tokens, with a blank between one and the next. -/
def spaced (segs : List Segment) : List Segment := (segs.filter makesToken).intersperse (blank ' ')

/-- A text that ends where nothing stands, or where a blank does. -/
theorem ends_blank (after : List Char) : Ends [] ∧ Ends (' ' :: after) := by
  refine ⟨by simp [Ends], ?_⟩
  rintro c ⟨⟩
  exact Or.inl rfl

/-- **Spaced segments are munched again**, each one in front of the blank behind it. -/
theorem Segmented.spaced (h : Segmented source segs) :
    Segmented ((spaced segs).flatMap text) (spaced segs) := by
  induction h with
  | nil => exact Segmented.nil
  | @cons s rest segs hs hrest ih =>
    rw [Segment.spaced] at ih ⊢
    by_cases hkind : s.makesToken = true
    · have hsome : s.kind? ≠ none := Option.isSome_iff_ne_none.1 hkind
      rw [List.filter_cons_of_pos hkind]
      cases hkept : segs.filter makesToken with
      | nil =>
        have hlast := hs.before_end hsome (ends_blank []).1 (Or.inr rfl)
        simpa using Segmented.cons hlast Segmented.nil
      | cons s' others =>
        have hclosed : s.IsClosed := by
          -- behind an open segment there would be no other one
          by_contra hopen
          obtain rfl := rest_eq_nil_of_not_isClosed hs hopen
          rw [hrest.eq_segments, segments] at hkept
          cases hkept
        rw [hkept] at ih
        have hblank := Segmented.cons (Munch.blank (Or.inl rfl)) ih
        rw [List.intersperse_cons_cons]
        exact Segmented.cons (hs.before_end hsome (ends_blank _).2 (Or.inl hclosed)) hblank
    · rw [List.filter_cons_of_neg hkind]
      exact ih

/-- The text of spaced segments. -/
theorem flatMap_spaced (segs : List Segment) :
    (spaced segs).flatMap text = [' '].intercalate ((segs.filter makesToken).map text) := by
  rw [spaced]
  generalize segs.filter makesToken = kept
  induction kept with
  | nil => rfl
  | cons s kept ih =>
    cases kept with
    | nil => simp
    | cons s' others =>
      simp only [List.map_cons] at ih ⊢
      rw [List.intersperse_cons_cons, List.flatMap_cons, List.flatMap_cons, ih,
        List.intercalate_cons_cons, List.append_assoc]
      rfl

/-- What is taken from spaced segments is what is taken from those that make tokens. -/
theorem filterMap_spaced {α : Type} {f : Segment → Option α} (hblank : f (blank ' ') = none)
    (segs : List Segment) :
    (spaced segs).filterMap f = (segs.filter makesToken).filterMap f := by
  rw [spaced]
  generalize segs.filter makesToken = kept
  induction kept with
  | nil => rfl
  | cons s kept ih =>
    cases kept with
    | nil => rfl
    | cons s' others =>
      rw [List.intersperse_cons_cons, List.filterMap_cons, List.filterMap_cons_none hblank, ih,
        List.filterMap_cons (l := s' :: others)]

/-! ## Tokens and errors without their lines -/

/-- The token that a segment makes, without a line. -/
def content? (s : Segment) : Option (Token.Kind × String × Value) :=
  s.kind?.map fun kind => (kind, String.ofList s.text, s.literal)

/-- The tokens of a scan without their lines. -/
theorem contents_scan (source : String) : (scan source).tokens.map Token.content =
    (segments source.toList).filterMap content? ++ [(.endOfInput, "", .nil)] := by
  rw [← filterMap_withLines content? 1]
  simp only [scan, Scan.ofChars, List.map_append, List.map_filterMap, token?, Option.map_map]
  rfl

/-- The errors of a scan without their lines. -/
theorem contents_errors (source : String) : (scan source).errors.map LexicalError.content =
    ((segments source.toList).filterMap fault?).map
      fun fault => (fault.message, some fault.code) := by
  rw [List.map_filterMap, ← filterMap_withLines _ 1]
  simp only [scan, Scan.ofChars, List.map_filterMap, error?, Option.map_map]
  rfl

/-- The fault is one of a lexeme: a string that is left open or a numeral that is too large. -/
def isLexemeFault (code? : Option String) : Bool := code? == some "L002" || code? == some "L004"

/-- The faults of lexemes are those of segments that make tokens. -/
theorem filter_fault? (s : Segment) :
    s.fault?.filter (fun fault => isLexemeFault (some fault.code)) =
      if s.makesToken then s.fault? else none := by
  rcases s with _ | _ | ⟨whole, fraction⟩ | ⟨_, _ | _⟩ | _ | _ | ⟨_, _ | _⟩ | _ <;> try rfl
  simp only [fault?, makesToken, kind?, Option.isSome_some, if_true]
  split <;> rfl

end Segment

open Segment

/-- The text of the lexemes before the end of the input, with single blanks between them. -/
def Scan.respaced (s : Scan) : String := " ".intercalate (s.tokens.dropLast.map Token.lexeme)

/-- The spaced segments of a source are the text of its lexemes. -/
theorem toList_respaced (source : String) :
    (scan source).respaced.toList = (spaced (segments source.toList)).flatMap text := by
  have hlexemes : (scan source).tokens.dropLast.map (fun t => t.lexeme.toList) =
      ((segments source.toList).filter makesToken).map text := by
    have hcontents := congrArg (fun contents => (contents.map (·.2.1.toList)).dropLast)
      (contents_scan source)
    simp only [List.map_map, List.map_append, List.map_singleton, List.dropLast_concat] at hcontents
    rw [List.map_dropLast]
    refine hcontents.trans ?_
    rw [List.map_filterMap, ← List.filterMap_eq_map, List.filterMap_filter]
    refine List.filterMap_congr fun s _ => ?_
    cases hkind : s.kind? <;> simp [content?, makesToken, hkind]
  rw [flatMap_spaced, ← hlexemes, Scan.respaced, String.toList_intercalate, List.map_map]
  rfl

/-- The lexemes of a source fall into its spaced segments. -/
theorem segments_respaced (source : String) :
    segments (scan source).respaced.toList = spaced (segments source.toList) := by
  rw [toList_respaced]
  exact (segmented_segments source.toList).spaced.eq_segments.symm

/-- **The tokens of the lexemes** are those of the source. -/
theorem contents_respaced (source : String) :
    (scan (scan source).respaced).tokens.map Token.content =
      (scan source).tokens.map Token.content := by
  rw [contents_scan, contents_scan, segments_respaced, filterMap_spaced rfl, List.filterMap_filter]
  congr 1
  refine List.filterMap_congr fun s _ => ?_
  cases hkind : s.kind? <;> simp [content?, makesToken, hkind]

/-- **The faults of the lexemes** are those that the source has in its lexemes. -/
theorem errors_respaced (source : String) :
    (scan (scan source).respaced).errors.map LexicalError.content =
      ((scan source).errors.filter (isLexemeFault ·.code?)).map LexicalError.content := by
  have hfilter : ((scan source).errors.filter (isLexemeFault ·.code?)).map LexicalError.content =
      ((scan source).errors.map LexicalError.content).filter (isLexemeFault ·.2) := by
    rw [List.filter_map]
    rfl
  rw [hfilter, contents_errors, contents_errors, segments_respaced, filterMap_spaced rfl,
    List.filterMap_filter, List.filter_map, List.filter_filterMap]
  congr 1
  exact List.filterMap_congr fun s _ => (filter_fault? s).symm

/-- The tokens before the last one do not end the input. -/
theorem not_isEnd_of_mem_dropLast {source : String} {t : Token}
    (h : t ∈ (scan source).tokens.dropLast) : t.isEnd = false := by
  rw [scan, Scan.ofChars, List.dropLast_concat] at h
  obtain ⟨⟨line, s⟩, hentry, htoken⟩ := List.mem_filterMap.1 h
  obtain ⟨rest, hmunch⟩ := munch_of_mem_withLines hentry
  obtain ⟨kind, hkind, rfl⟩ := Option.map_eq_some_iff.1 htoken
  rw [Token.isEnd, beq_eq_false_iff_ne]
  rintro rfl
  exact kind?_ne_endOfInput hmunch hkind

/-- **Scanning the lexemes again gives the tokens back.**  The tokens of a source before the end of
the input have lexemes that scan, with single blanks between them, to tokens of the same kinds with
the same lexemes and literals, in the same order, and to the end of the input.  The errors are those
of the source about strings left open and numerals too large, in the same order and with the same
messages and codes; all others are gone. -/
theorem scan_lexemes (source : String) :
    let tokens := (scan source).tokens.dropLast
    let again := scan (" ".intercalate (tokens.map Token.lexeme))
    (scan source).tokens = tokens ++ [Token.endAt (lastLine source.toList)] ∧
      (∀ t ∈ tokens, t.isEnd = false) ∧
      again.tokens.map (fun t => (t.kind, t.lexeme, t.literal)) =
        tokens.map (fun t => (t.kind, t.lexeme, t.literal)) ++ [(.endOfInput, "", .nil)] ∧
      again.errors.map (fun e => (e.message, e.code?)) =
        ((scan source).errors.filter fun e => e.code? == some "L002" || e.code? == some "L004").map
          fun e => (e.message, e.code?) := by
  intro tokens again
  have hsplit : (scan source).tokens = tokens ++ [Token.endAt (lastLine source.toList)] := by
    show _ = (scan source).tokens.dropLast ++ _
    rw [scan, Scan.ofChars, List.dropLast_concat]
  refine ⟨hsplit, fun t => not_isEnd_of_mem_dropLast, ?_, errors_respaced source⟩
  have hcontents := contents_respaced source
  rw [hsplit, List.map_append] at hcontents
  exact hcontents

/-- Half operators, a second point and a slash behind a comment stay apart. -/
example : (scan "<=/* */= 1.2.3 // /\n/\"a").respaced = "<= = 1.2 . 3 / \"a" := by decide +kernel

end LoxSyntax
