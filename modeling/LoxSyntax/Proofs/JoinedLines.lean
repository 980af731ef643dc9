/-
# Joined lines

A scan carries nothing over the end of a line but the number of lines.  If nothing is left open in a
source, then the source falls into the same segments when a line feed and some other text come
behind it, and that text falls into the segments that it has alone.  So the scan of both is the scan
of the first, followed by the scan of the second with its lines moved down.
-/
import Mathlib.Data.List.Infix
import LoxSyntax.Proofs.Lines
import LoxSyntax.Proofs.ScannedTokens
import LoxSyntax.Proofs.TextLines

namespace LoxSyntax

/-- The same token so many lines further down. -/
def Token.moveDown (k : Nat) (t : Token) : Token := { t with line := t.line + k }

/-- The same error so many lines further down. -/
def LexicalError.moveDown (k : Nat) (e : LexicalError) : LexicalError :=
  { e with line := e.line + k }

namespace Segment

variable {source rest after : List Char} {s : Segment} {segs more : List Segment}

/-! ## A line feed as a boundary -/

/-- The segment has its closing mark, if it is one that needs it. -/
def IsClosed : Segment → Prop
  | string _ closed => closed = true
  | blockComment _ closed => closed = true
  | _ => True

/-- A numeral has no line feed. -/
theorem IsNumeral.lineFeed_not_mem {numeral : List Char} (h : IsNumeral numeral) :
    '\n' ∉ numeral := by
  intro hmem
  cases h with
  | digits hne hw => exact absurd (hw _ hmem) (by decide)
  | decimal hne hw hne' hf =>
    rcases List.mem_append.1 hmem with hmem | hmem
    · exact absurd (hw _ hmem) (by decide)
    rcases List.mem_cons.1 hmem with hpoint | hmem
    · exact absurd hpoint (by decide)
    · exact absurd (hf _ hmem) (by decide)

/-- The text starts, up to a line feed, like the other one: what stands at its front and has no line
feed stands at the front of the other one as well. -/
def StartsLike (text other : List Char) : Prop :=
  ∀ front, '\n' ∉ front → front <+: text → front <+: other

/-- What a text starts with is a line feed, or the other one starts with it. -/
theorem StartsLike.head? (h : StartsLike after rest) {d : Char} (hd : after.head? = some d) :
    rest.head? = some d ∨ d = '\n' := by
  by_cases hfeed : d = '\n'
  · exact Or.inr hfeed
  · obtain ⟨others, rfl⟩ := List.head?_eq_some_iff.1 hd
    obtain ⟨others', rfl⟩ := h [d] (by simpa [eq_comm] using hfeed) ⟨others, rfl⟩
    exact Or.inl rfl

/-- What the other text does not start with, the text does not start with. -/
theorem StartsLike.head?_ne (h : StartsLike after rest) {c : Char} (hrest : rest.head? ≠ some c)
    (hc : c ≠ '\n') : after.head? ≠ some c := by
  intro hhead
  rcases h.head? hhead with hsame | hfeed
  · exact hrest hsame
  · exact hc hfeed

/-- A text with a line feed behind it starts like the text. -/
theorem startsLike_append_lineFeed (source after : List Char) :
    StartsLike (source ++ '\n' :: after) source := by
  intro front hfeed h
  rcases List.prefix_or_prefix_of_prefix h (List.prefix_append source _) with hshort | hlong
  · exact hshort
  · -- a longer front would go on with the line feed
    obtain ⟨extra, rfl⟩ := hlong
    cases extra with
    | nil => rw [List.append_nil]
    | cons d others =>
      rw [List.prefix_append_right_inj, List.cons_prefix_cons] at h
      refine absurd ?_ hfeed
      rw [h.1]
      exact List.mem_append_right source List.mem_cons_self

/-- **What is munched is munched in front of every text that starts like the rest.**  A line feed is
as good a boundary as any other, and as the end of the text, unless something is left open there. -/
theorem Munch.of_startsLike (h : Munch s rest) (hclosed : s.IsClosed)
    (hlike : StartsLike after rest) :
    Munch s after := by
  cases h with
  | single hc => exact Munch.single hc
  | alone hc hrest => exact Munch.alone hc (hlike.head?_ne hrest (by decide))
  | withEquals hc => exact Munch.withEquals hc
  | slash hline hblock =>
    exact Munch.slash (hlike.head?_ne hline (by decide)) (hlike.head?_ne hblock (by decide))
  | word hc hrun hrest =>
    refine Munch.word hc hrun fun d hd => ?_
    rcases hlike.head? hd with hsame | rfl
    · exact hrest d hsame
    · decide
  | number hne hw hf hlongest =>
    refine Munch.number hne hw hf fun numeral hnumeral hfront => ?_
    rcases List.prefix_or_prefix_of_prefix hfront (List.prefix_append _ after) with hshort | hlong
    · exact hshort.length_le
    · -- a longer numeral would go on into the rest
      obtain ⟨more, rfl⟩ := hlong
      have hmore : '\n' ∉ more := fun hmem =>
        hnumeral.lineFeed_not_mem (List.mem_append_right _ hmem)
      rw [List.prefix_append_right_inj] at hfront
      refine hlongest _ hnumeral ?_
      rw [List.prefix_append_right_inj]
      exact hlike more hmore hfront
  | string hbody => exact Munch.string hbody
  | openString hbody => cases hclosed
  | blank hc => exact Munch.blank hc
  | lineComment hbody hrest =>
    refine Munch.lineComment hbody fun d hd => ?_
    rcases hlike.head? hd with hsame | hfeed
    · exact hrest d hsame
    · exact hfeed
  | blockComment hbody => exact Munch.blockComment hbody
  | openBlockComment hbody => cases hclosed
  | stray hc => exact Munch.stray hc

/-- **The segments of two lines are those of each line**, with the line feed between them. -/
theorem Segmented.append_lineFeed (h : Segmented source segs) (hclosed : ∀ s ∈ segs, s.IsClosed)
    (hmore : Segmented after more) :
    Segmented (source ++ '\n' :: after) (segs ++ blank '\n' :: more) := by
  induction h with
  | nil => exact Segmented.cons (Munch.blank (by decide)) hmore
  | @cons s rest segs hs hrest ih =>
    have hfirst := hs.of_startsLike (hclosed s List.mem_cons_self)
      (startsLike_append_lineFeed rest after)
    have hothers := ih fun s' hs' => hclosed s' (List.mem_cons_of_mem s hs')
    rw [List.append_assoc]
    exact Segmented.cons hfirst hothers

/-! ## Lines further down -/

/-- Lines are counted on from the first segments to the others. -/
theorem withLines_append (line : Nat) (segs more : List Segment) :
    withLines line (segs ++ more) =
      withLines line segs ++ withLines (line + (segs.flatMap text).count '\n') more := by
  induction segs generalizing line with
  | nil => rfl
  | cons s segs ih =>
    rw [List.cons_append, withLines, withLines, List.flatMap_cons, List.count_append, ih,
      ← Nat.add_assoc, List.cons_append]
    rfl

/-- Segments that start further down have all their lines further down. -/
theorem withLines_add (line k : Nat) (segs : List Segment) :
    withLines (line + k) segs = (withLines line segs).map fun (line, s) => (line + k, s) := by
  induction segs generalizing line with
  | nil => rfl
  | cons s segs ih =>
    rw [withLines, withLines, List.map_cons, Nat.add_right_comm, ih]

theorem token?_add (s : Segment) (line k : Nat) :
    s.token? (line + k : Nat) = (s.token? line).map (Token.moveDown k) := by
  rw [token?, token?, Option.map_map, Int.natCast_add]
  rfl

theorem error?_add (s : Segment) (line k : Nat) :
    s.error? (line + k : Nat) = (s.error? line).map (LexicalError.moveDown k) := by
  rw [error?, error?, Option.map_map, Int.natCast_add, Int.add_right_comm]
  rfl

/-- What is taken from segments further down is moved down, if it is so for each of them. -/
theorem filterMap_withLines_add {α : Type} {f : Nat → Segment → Option α} {move : α → α} {k : Nat}
    (hmove : ∀ line s, f (line + k) s = (f line s).map move) (line : Nat) (segs : List Segment) :
    (withLines (line + k) segs).filterMap (fun (line, s) => f line s) =
      ((withLines line segs).filterMap fun (line, s) => f line s).map move := by
  rw [withLines_add, List.filterMap_map, List.map_filterMap]
  congr 1
  funext ⟨line, s⟩
  exact hmove line s

/-- What is taken from the segments of two lines: the line feed between them gives nothing, and the
second line starts below the first. -/
theorem filterMap_withLines_lineFeed {α : Type} {f : Nat → Segment → Option α} {move : α → α}
    (hmove : ∀ line s, f (line + lastLine (segs.flatMap text)) s = (f line s).map move)
    (hfeed : ∀ line, f line (blank '\n') = none) (more : List Segment) :
    (withLines 1 (segs ++ blank '\n' :: more)).filterMap (fun (line, s) => f line s) =
      (withLines 1 segs).filterMap (fun (line, s) => f line s) ++
        ((withLines 1 more).filterMap fun (line, s) => f line s).map move := by
  have hfeeds : (blank '\n').lineFeeds = 1 := rfl
  have hbelow : 1 + (segs.flatMap text).count '\n' + 1 = 1 + lastLine (segs.flatMap text) := by
    rw [lastLine]
    omega
  rw [withLines_append, List.filterMap_append, withLines, List.filterMap_cons_none, hfeeds, hbelow,
    filterMap_withLines_add hmove]
  exact hfeed _

/-! ## Open segments -/

/-- What is left open is at fault. -/
theorem fault?_of_not_isClosed (h : ¬ s.IsClosed) :
    s.fault? = some .unterminatedString ∨ s.fault? = some .unterminatedComment := by
  rcases s with _ | _ | _ | ⟨body, _ | _⟩ | _ | _ | ⟨body, _ | _⟩ | _ <;>
    simp only [IsClosed, not_true_eq_false] at h
  · exact Or.inl rfl
  · exact Or.inr rfl

/-- A scan that reports nothing open has found nothing open. -/
theorem isClosed_of_errors {source : String}
    (h : ∀ e ∈ (scan source).errors, e.code? ≠ some "L002" ∧ e.code? ≠ some "L003") :
    ∀ s ∈ segments source.toList, s.IsClosed := by
  intro s hs
  by_contra hopen
  rcases fault?_of_not_isClosed hopen with hfault | hfault
  · obtain ⟨e, he, hcode⟩ := exists_error_of_fault? hs hfault
    exact (h e he).1 hcode
  · obtain ⟨e, he, hcode⟩ := exists_error_of_fault? hs hfault
    exact (h e he).2 hcode

/-! ## Lines put together -/

theorem lastLine_append_lines (A B : String) :
    lastLine (A ++ "\n" ++ B).toList = lastLine B.toList + lastLine A.toList := by
  rw [Text.toList_append_lineFeed, lastLine, lastLine, lastLine, List.count_append,
    List.count_cons_self]
  omega

/-- **Both texts keep their segments**, if nothing is left open in the first one. -/
theorem segments_append_lines (A B : String)
    (h : ∀ e ∈ (scan A).errors, e.code? ≠ some "L002" ∧ e.code? ≠ some "L003") :
    segments (A ++ "\n" ++ B).toList = segments A.toList ++ blank '\n' :: segments B.toList := by
  rw [Text.toList_append_lineFeed]
  exact ((segmented_segments A.toList).append_lineFeed (isClosed_of_errors h)
    (segmented_segments B.toList)).eq_segments.symm

end Segment

open Segment

/-- **Scanning is compositional over lines.**  If nothing is left open in a text, then scanning it
together with the lines behind it finds the tokens of the text without its end, and the tokens of
those lines moved down by the lines of the text; and so it is with the errors. -/
theorem scan_append_lines (A B : String)
    (h : ∀ e ∈ (scan A).errors, e.code? ≠ some "L002" ∧ e.code? ≠ some "L003") :
    let k := 1 + A.toList.count '\n'
    ∃ tokens, (scan A).tokens = tokens ++ [Token.endAt k] ∧
      (scan (A ++ "\n" ++ B)).tokens = tokens ++ (scan B).tokens.map (Token.moveDown k) ∧
      (scan (A ++ "\n" ++ B)).errors =
        (scan A).errors ++ (scan B).errors.map (LexicalError.moveDown k) := by
  intro k
  have hk : lastLine ((segments A.toList).flatMap text) = k := by
    rw [flatMap_text_segments, lastLine]
  have hend : Token.endAt (lastLine (A ++ "\n" ++ B).toList) =
      (Token.endAt (lastLine B.toList)).moveDown k := by
    rw [lastLine_append_lines, Int.natCast_add]
    rfl
  have htoken (line : Nat) (s : Segment) :
      s.token? (line + lastLine ((segments A.toList).flatMap text) : Nat) =
        (s.token? line).map (Token.moveDown k) := by
    rw [hk]
    exact token?_add s line k
  have herror (line : Nat) (s : Segment) :
      s.error? (line + lastLine ((segments A.toList).flatMap text) : Nat) =
        (s.error? line).map (LexicalError.moveDown k) := by
    rw [hk]
    exact error?_add s line k
  refine ⟨_, rfl, ?_, ?_⟩
  · show (withLines 1 (segments (A ++ "\n" ++ B).toList)).filterMap
      (fun (line, s) => s.token? line) ++ [Token.endAt (lastLine (A ++ "\n" ++ B).toList)] = _
    rw [hend, segments_append_lines A B h,
      filterMap_withLines_lineFeed (f := fun line s => s.token? line) htoken fun _ => rfl,
      List.append_assoc, ← List.map_singleton, ← List.map_append]
    rfl
  · show (withLines 1 (segments (A ++ "\n" ++ B).toList)).filterMap
      (fun (line, s) => s.error? line) = _
    rw [segments_append_lines A B h,
      filterMap_withLines_lineFeed (f := fun line s => s.error? line) herror fun _ => rfl]
    rfl

/-- Half an operator at the end of a line does not join what starts the next one, and a string may
be left open in the last line. -/
theorem scan_append_lines_half_operator :
    (∀ e ∈ (scan "@ 1.\n<").errors, e.code? ≠ some "L002" ∧ e.code? ≠ some "L003") ∧
    ∃ tokens, (scan "@ 1.\n<").tokens = tokens ++ [Token.endAt 2] ∧
      (scan ("@ 1.\n<" ++ "\n" ++ "= \"b")).tokens =
        tokens ++ (scan "= \"b").tokens.map (Token.moveDown 2) ∧
      (scan ("@ 1.\n<" ++ "\n" ++ "= \"b")).errors =
        (scan "@ 1.\n<").errors ++ (scan "= \"b").errors.map (LexicalError.moveDown 2) := by
  have hclosed : ∀ e ∈ (scan "@ 1.\n<").errors, e.code? ≠ some "L002" ∧ e.code? ≠ some "L003" := by
    decide +kernel
  exact ⟨hclosed, scan_append_lines "@ 1.\n<" "= \"b" hclosed⟩

end LoxSyntax
