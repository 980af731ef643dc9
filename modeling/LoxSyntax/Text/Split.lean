/-
# Splitting a text

A text is cut at every character of a class.  A cut that falls at an end, or beside another cut,
leaves an empty piece, so that a text with `n` such characters always has `n + 1` pieces.  Nothing
here depends on what the characters are.
-/

namespace LoxSyntax.Text

variable {α : Type}

/-- The pieces of a text between the characters of a class. -/
def pieces (isCut : α → Bool) : List α → List (List α)
  | [] => [[]]
  | c :: rest =>
    if isCut c then [] :: pieces isCut rest
    else
      match pieces isCut rest with
      | [] => [[c]]
      | piece :: others => (c :: piece) :: others

/-- Every cut adds one piece. -/
theorem length_pieces (isCut : α → Bool) (text : List α) :
    (pieces isCut text).length = text.countP isCut + 1 := by
  induction text with
  | nil => rfl
  | cons c rest ih =>
    by_cases h : isCut c
    · simp [pieces, h, ih]
    · cases e : pieces isCut rest <;> simp_all [pieces]

/-- The pieces hold every character that is no cut, in order. -/
theorem flatten_pieces (isCut : α → Bool) (text : List α) :
    (pieces isCut text).flatten = text.filter (! isCut ·) := by
  induction text with
  | nil => rfl
  | cons c rest ih =>
    by_cases h : isCut c
    · simp [pieces, h, ih]
    · have some_piece := length_pieces isCut rest
      cases e : pieces isCut rest <;> simp_all [pieces]

/-- The part before the first occurrence of a character and the part after it, if it occurs. -/
def splitFirst? [BEq α] (separator : α) (text : List α) : Option (List α × List α) :=
  match text.dropWhile (· != separator) with
  | [] => none
  | _ :: after => some (text.takeWhile (· != separator), after)

variable [BEq α] [LawfulBEq α]

/-- The two parts stand around the separator, which does not occur in the first one. -/
theorem eq_of_splitFirst? {separator : α} {text before after : List α}
    (h : splitFirst? separator text = some (before, after)) :
    text = before ++ separator :: after ∧ separator ∉ before := by
  have whole := List.takeWhile_append_dropWhile (p := (· != separator)) (l := text)
  have head := List.head?_dropWhile_not (· != separator) text
  unfold splitFirst? at h
  split at h
  · cases h
  · rename_i c others rest
    cases h
    rw [rest] at whole head
    have first : c = separator := by simpa using head
    refine ⟨by rw [first] at whole; exact whole.symm, fun inside => ?_⟩
    have other := List.all_eq_true.1 List.all_takeWhile _ inside
    simp at other

/-- A text falls into two parts at a character that is not in the first one. -/
theorem splitFirst?_append {mark : α} {before after : List α} (h : mark ∉ before) :
    splitFirst? mark (before ++ mark :: after) = some (before, after) := by
  have hbefore : ∀ c ∈ before, (c != mark) = true := by
    intro c hc
    rw [bne_iff_ne]
    rintro rfl
    exact h hc
  rw [splitFirst?, List.dropWhile_append_of_pos hbefore, List.takeWhile_append_of_pos hbefore]
  simp

end LoxSyntax.Text
