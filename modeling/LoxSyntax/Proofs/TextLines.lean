/-
# The lines of a text

Line feeds cut a text into its lines, of which there is one more than of the line feeds.  Texts that
are put one below the other are the lines of the whole exactly if none of them has a line feed.  The
numerals that messages show have none.
-/
import Mathlib.Algebra.GroupWithZero.Nat
import Mathlib.Data.List.Basic
import LoxSyntax.Text.Hexadecimal
import LoxSyntax.Text.Split

namespace LoxSyntax.Text

/-! ## Line feeds and lines -/

/-- The number of line feeds in a text. -/
def lineFeeds (text : String) : Nat := text.toList.count '\n'

/-- The stretches of a text between its line feeds. -/
def lines (text : String) : List String :=
  (pieces (· == '\n') text.toList).map String.ofList

theorem lineFeeds_append (s t : String) : lineFeeds (s ++ t) = lineFeeds s + lineFeeds t := by
  rw [lineFeeds, String.toList_append, List.count_append, lineFeeds, lineFeeds]

theorem length_lines (text : String) : (lines text).length = lineFeeds text + 1 := by
  rw [lines, List.length_map, length_pieces, lineFeeds, List.count_eq_countP]

theorem pieces_ne_nil {α : Type} (isCut : α → Bool) (text : List α) : pieces isCut text ≠ [] := by
  rw [← List.length_pos_iff, length_pieces]
  exact Nat.succ_pos _

/-- A cut in a text separates the pieces on its two sides. -/
theorem pieces_append_cons {α : Type} {isCut : α → Bool} {c : α} (hc : isCut c = true)
    (before after : List α) :
    pieces isCut (before ++ c :: after) = pieces isCut before ++ pieces isCut after := by
  induction before with
  | nil => simp only [List.nil_append, pieces, if_pos hc, List.cons_append]
  | cons d rest ih =>
    rw [List.cons_append, pieces, pieces, ih]
    split
    · rfl
    · obtain ⟨piece, others, hcons⟩ := List.exists_cons_of_ne_nil (pieces_ne_nil isCut rest)
      rw [hcons]
      rfl

/-- A text without cuts is one piece. -/
theorem pieces_eq_singleton {α : Type} {isCut : α → Bool} {text : List α}
    (h : ∀ c ∈ text, isCut c = false) : pieces isCut text = [text] := by
  induction text with
  | nil => rfl
  | cons c rest ih =>
    rw [List.forall_mem_cons] at h
    rw [pieces, if_neg (Bool.eq_false_iff.1 h.1), ih h.2]

/-- A text without line feeds is one line. -/
theorem lines_eq_singleton {text : String} (h : lineFeeds text = 0) : lines text = [text] := by
  have hnone : ∀ c ∈ text.toList, (c == '\n') = false := by
    intro c hc
    rw [beq_eq_false_iff_ne]
    rintro rfl
    exact List.count_eq_zero.1 h hc
  rw [lines, pieces_eq_singleton hnone, List.map_singleton, String.ofList_toList]

theorem toList_append_lineFeed (s t : String) :
    (s ++ "\n" ++ t).toList = s.toList ++ '\n' :: t.toList := by
  simp only [String.toList_append, List.append_assoc]
  rfl

theorem lines_append_lineFeed (s t : String) : lines (s ++ "\n" ++ t) = lines s ++ lines t := by
  rw [lines, toList_append_lineFeed, pieces_append_cons rfl, List.map_append, lines, lines]

/-- **Texts one below the other** have the lines of all of them, in order. -/
theorem lines_intercalate {texts : List String} (hne : texts ≠ []) :
    lines ("\n".intercalate texts) = texts.flatMap lines := by
  induction texts with
  | nil => exact absurd rfl hne
  | cons s rest ih =>
    by_cases hrest : rest = []
    · rw [hrest, String.intercalate_singleton, List.flatMap_singleton]
    · rw [String.intercalate_cons_of_ne_nil hrest, lines_append_lineFeed, ih hrest,
        List.flatMap_cons]

/-- Texts one below the other have a line each, and one more for every line feed in them. -/
theorem length_flatMap_lines (texts : List String) :
    (texts.flatMap lines).length = texts.length + (texts.map lineFeeds).sum := by
  induction texts with
  | nil => rfl
  | cons s rest ih =>
    rw [List.flatMap_cons, List.length_append, ih, length_lines, List.length_cons, List.map_cons,
      List.sum_cons]
    omega

/-- **The lines are the texts** exactly if no text has a line feed. -/
theorem flatMap_lines_eq_iff (texts : List String) :
    texts.flatMap lines = texts ↔ (texts.map lineFeeds).sum = 0 := by
  constructor
  · intro h
    have hlength := length_flatMap_lines texts
    rwa [h, Nat.left_eq_add] at hlength
  · intro h
    rw [List.sum_eq_zero_iff_forall_eq_nat, List.forall_mem_map] at h
    calc texts.flatMap lines = texts.flatMap fun text => [text] :=
          List.flatMap_congr fun text htext => lines_eq_singleton (h text htext)
      _ = texts := List.flatMap_singleton' texts

/-! ## Texts without line feeds -/

theorem lineFeeds_ofList {text : List Char} (h : ∀ c ∈ text, c ≠ '\n') :
    lineFeeds (String.ofList text) = 0 := by
  rw [lineFeeds, String.toList_ofList, List.count_eq_zero]
  exact fun hmem => h _ hmem rfl

/-- A number in base ten has no line feed. -/
theorem lineFeeds_toString (n : Int) : lineFeeds (toString n) = 0 := by
  have hdigits (m : Nat) : lineFeeds m.repr = 0 := by
    rw [← String.ofList_toList (s := m.repr), Nat.toList_repr]
    refine lineFeeds_ofList fun c hc => ?_
    rintro rfl
    exact absurd (Nat.isDigit_of_mem_toDigits (by decide) (by decide) hc) (by decide)
  rw [Int.toString_eq_repr, Int.repr_eq_if]
  split
  · exact hdigits _
  · rw [lineFeeds_append, hdigits]
    rfl

/-- No capital digit is a line feed. -/
theorem toUpper_digitChar_ne (n : Nat) : n.digitChar.toUpper ≠ '\n' := by
  have hsmall : ∀ k < 16, k.digitChar.toUpper ≠ '\n' := by decide
  by_cases h : n < 16
  · exact hsmall n h
  · rw [Nat.digitChar_eq_star.2 (Nat.not_lt.1 h)]
    decide

/-- The digits of a numeral are digits. -/
theorem mem_toDigits {base n : Nat} : ∀ c ∈ Nat.toDigits base n, ∃ k : Nat, c = k.digitChar := by
  have hcore (fuel : Nat) :
      ∀ (n : Nat) (behind : List Char), ∀ c ∈ Nat.toDigitsCore base fuel n behind,
      c ∈ behind ∨ ∃ k : Nat, c = k.digitChar := by
    induction fuel with
    | zero => exact fun n behind c hc => Or.inl hc
    | succ fuel ih =>
      intro n behind c hc
      have hcons : ∀ d ∈ (n % base).digitChar :: behind, d ∈ behind ∨ ∃ k : Nat, d = k.digitChar :=
        List.forall_mem_cons.2 ⟨Or.inr ⟨_, rfl⟩, fun d hd => Or.inl hd⟩
      rw [Nat.toDigitsCore] at hc
      split at hc
      · exact hcons c hc
      · rcases ih _ _ c hc with hmem | hdigit
        · exact hcons c hmem
        · exact Or.inr hdigit
  intro c hc
  exact (hcore _ n [] c hc).resolve_left List.not_mem_nil

/-- A hexadecimal numeral has no line feed. -/
theorem lineFeeds_hexadecimalCapital (width n : Nat) :
    lineFeeds (String.ofList (hexadecimalCapital width n)) = 0 := by
  refine lineFeeds_ofList fun c hc => ?_
  obtain ⟨d, hd, rfl⟩ := List.mem_map.1 hc
  rcases List.mem_append.1 hd with hzero | hdigit
  · rw [List.eq_of_mem_replicate hzero]
    decide
  · obtain ⟨k, rfl⟩ := mem_toDigits d hdigit
    exact toUpper_digitChar_ne k

end LoxSyntax.Text
