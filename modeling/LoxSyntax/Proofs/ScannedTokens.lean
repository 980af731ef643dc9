/-
# What tokens and errors come from

Every token of a scan but the last one is made by a segment of the source, and every error reports a
segment that is at fault.  Conversely every fault is reported.
-/
import Mathlib.Data.List.Basic
import LoxSyntax.Proofs.Numerals

namespace LoxSyntax.Segment

variable {source : String} {s : Segment} {t : Token}

theorem munch_of_mem_segments {text : List Char} (h : s ∈ segments text) : ∃ rest, Munch s rest :=
  ((segmented_segments text).munch_of_mem s h).1

/-- The segments of a text have lines. -/
theorem mem_segments_iff : s ∈ segments source.toList ↔
    ∃ line, (line, s) ∈ withLines 1 (segments source.toList) := by
  constructor
  · intro h
    rw [← map_snd_withLines 1 (segments source.toList)] at h
    obtain ⟨⟨line, s'⟩, hentry, rfl⟩ := List.mem_map.1 h
    exact ⟨line, hentry⟩
  · rintro ⟨line, h⟩
    rw [← map_snd_withLines 1 (segments source.toList)]
    exact List.mem_map.2 ⟨(line, s), h, rfl⟩

theorem munch_of_mem_withLines {entry : Nat × Segment}
    (h : entry ∈ withLines 1 (segments source.toList)) : ∃ rest, Munch entry.2 rest :=
  munch_of_mem_segments (mem_segments_iff.2 ⟨entry.1, h⟩)

/-- **A token before the end of the input is made by a segment.** -/
theorem exists_segment_of_mem_tokens (h : t ∈ (scan source).tokens) (hend : t.isEnd = false) :
    ∃ s ∈ segments source.toList, ∃ line, s.token? line = some t := by
  rcases List.mem_append.1 h with hmade | hlast
  · obtain ⟨⟨line, s⟩, hentry, htoken⟩ := List.mem_filterMap.1 hmade
    exact ⟨s, mem_segments_iff.2 ⟨line, hentry⟩, line, htoken⟩
  · obtain rfl := List.mem_singleton.1 hlast
    cases hend

/-- **A segment that is at fault is reported.** -/
theorem exists_error_of_fault? {fault : LexicalFault} (h : s ∈ segments source.toList)
    (hfault : s.fault? = some fault) :
    ∃ e ∈ (scan source).errors, e.code? = some fault.code := by
  obtain ⟨line, hentry⟩ := mem_segments_iff.1 h
  refine ⟨fault.at (line + s.lineFeeds), List.mem_filterMap.2 ⟨(line, s), hentry, ?_⟩, rfl⟩
  show s.error? line = _
  rw [error?, hfault, Option.map_some]

/-- Where nothing is reported, nothing is at fault. -/
theorem fault?_eq_none_of_errors (herrors : (scan source).errors = [])
    (h : s ∈ segments source.toList) : s.fault? = none := by
  cases hfault : s.fault? with
  | none => rfl
  | some fault =>
    obtain ⟨e, he, -⟩ := exists_error_of_fault? h hfault
    rw [herrors] at he
    cases he

/-- The kinds of tokens do not depend on their lines. -/
theorem kinds_scan {text : List Char} {segs : List Segment} (h : Segmented text segs) :
    (scan (String.ofList text)).tokens.map (·.kind) = segs.filterMap kind? ++ [.endOfInput] := by
  rw [← filterMap_withLines _ 1, h.eq_segments]
  simp only [scan, Scan.ofChars, String.toList_ofList, List.map_append, List.map_filterMap, token?,
    Option.map_map]
  congr 1
  refine List.filterMap_congr fun entry _ => ?_
  cases entry.2.kind? <;> rfl

/-- What one segment on one line is scanned to. -/
theorem scan_of_segment (h : Munch s []) (hlines : s.lineFeeds = 0) :
    scan (String.ofList s.text) =
      ⟨(s.token? 1).toList ++ [Token.endAt 1], (s.error? 1).toList⟩ := by
  have hsegments : segments s.text = [s] := by
    have hsegmented := Segmented.cons h Segmented.nil
    rw [List.append_nil] at hsegmented
    exact hsegmented.eq_segments.symm
  have hlast : lastLine s.text = 1 := by
    rw [lastLine]
    exact congrArg (1 + ·) hlines
  have hone {α : Type} (found : Option α) : [()].filterMap (fun _ => found) = found.toList := by
    cases found with
    | none => rfl
    | some a => rfl
  rw [scan, String.toList_ofList, Scan.ofChars, hsegments, hlast, ← hone, ← hone]
  rfl

end LoxSyntax.Segment
