/-
# Raw texts that are texts

A raw text without a lone surrogate is a text, and only such a one can be encoded.  Of any other
raw text the surrogates that come first are reported, up to the next character.
-/
import Mathlib.Data.List.Basic
import LoxSyntax.Text.Raw

namespace LoxSyntax.Text

/-- There is no lone surrogate. -/
def Raw.IsText (text : Raw) : Prop := ∀ surrogate, .lone surrogate ∉ text

/-- The surrogates that are reported. -/
def Unencodable.surrogates (e : Unencodable) : List (Fin 0x800) := e.first :: e.more

/-- The surrogates are the first ones of a raw text: a text is in front of them, which gives their
place, and no other surrogate is right behind them. -/
def Unencodable.IsFirstIn (e : Unencodable) (text : Raw) : Prop :=
  ∃ (before : String) (after : Raw), text = Raw.ofString before ++ e.surrogates.map .lone ++ after ∧
    e.place = before.length ∧ ∀ surrogate, after.head? ≠ some (.lone surrogate)

namespace Raw

variable {text before after : Raw} {s : String} {e : Unencodable}

theorem ofString_append (s t : String) : ofString (s ++ t) = ofString s ++ ofString t := by
  rw [ofString, String.toList_append, List.map_append, ofString, ofString]

theorem isText_ofString (s : String) : (ofString s).IsText := by
  intro surrogate hmem
  obtain ⟨c, -, hc⟩ := List.mem_map.1 hmem
  cases hc

theorem isText_append : (before ++ after).IsText ↔ before.IsText ∧ after.IsText := by
  simp only [IsText, List.mem_append, not_or, forall_and]

/-- Every raw text is a text in front of nothing or of a surrogate. -/
theorem exists_ofString_append (text : Raw) : ∃ before rest, text = ofString before ++ rest ∧
    (rest = [] ∨ ∃ surrogate more, rest = .lone surrogate :: more) := by
  induction text with
  | nil => exact ⟨"", [], rfl, Or.inl rfl⟩
  | cons point text ih =>
    cases point with
    | lone surrogate => exact ⟨"", _, rfl, Or.inr ⟨surrogate, text, rfl⟩⟩
    | char c =>
      obtain ⟨before, rest, rfl, hrest⟩ := ih
      refine ⟨String.ofList (c :: before.toList), rest, ?_, hrest⟩
      rw [ofString, ofString, String.toList_ofList, List.map_cons, List.cons_append]

/-- A raw text without surrogates is one text. -/
theorem isText_iff : text.IsText ↔ ∃ s, text = ofString s := by
  constructor
  · intro h
    obtain ⟨before, rest, rfl, rfl | ⟨surrogate, more, rfl⟩⟩ := exists_ofString_append text
    · exact ⟨before, List.append_nil _⟩
    · exact absurd (List.mem_append_right _ List.mem_cons_self) (h surrogate)
  · rintro ⟨s, rfl⟩
    exact isText_ofString s

/-! ## Encoding -/

/-- The characters of a text come first, and count. -/
theorem encodeFrom_append (place : Nat) (before : List Char) (rest : Raw) :
    encodeFrom place (before.map .char ++ rest) =
      (encodeFrom (place + before.length) rest).map (before ++ ·) := by
  induction before generalizing place with
  | nil => cases h : encodeFrom place rest <;> simp [h, Except.map]
  | cons c before ih =>
    have hplace : place + 1 + before.length = place + (c :: before).length := by
      rw [List.length_cons]
      omega
    rw [List.map_cons, List.cons_append, encodeFrom, ih, hplace]
    cases encodeFrom (place + (c :: before).length) rest <;> rfl

theorem encode_ofString (s : String) : (ofString s).encode = .ok s := by
  have h := encodeFrom_append 0 s.toList []
  rw [List.append_nil] at h
  rw [encode, ofString, h, encodeFrom]
  simp only [Except.map, List.append_nil, String.ofList_toList]

/-- A surrogate behind a text is reported with the ones that follow it. -/
theorem encode_append_lone (s : String) (surrogate : Fin 0x800) (more : Raw) :
    (ofString s ++ .lone surrogate :: more).encode =
      .error ⟨s.length, surrogate, leading more⟩ := by
  rw [encode, ofString, encodeFrom_append, encodeFrom, String.length_toList, Nat.zero_add]
  rfl

/-- **A raw text is encoded** exactly if it is a text. -/
theorem encode_eq_ok_iff : text.encode = .ok s ↔ text = ofString s := by
  constructor
  · intro h
    obtain ⟨before, rest, rfl, rfl | ⟨surrogate, more, rfl⟩⟩ := exists_ofString_append text
    · rw [List.append_nil, encode_ofString] at h
      rw [List.append_nil, Except.ok.inj h]
    · rw [encode_append_lone] at h
      cases h
  · rintro rfl
    exact encode_ofString s

/-- The first surrogates are in front of nothing or of a character. -/
theorem exists_leading (text : Raw) : ∃ after, text = (leading text).map .lone ++ after ∧
    ∀ surrogate, after.head? ≠ some (.lone surrogate) := by
  induction text with
  | nil => exact ⟨[], rfl, by simp⟩
  | cons point text ih =>
    cases point with
    | char c => exact ⟨_, rfl, by simp⟩
    | lone surrogate =>
      obtain ⟨after, htext, hafter⟩ := ih
      refine ⟨after, ?_, hafter⟩
      rw [leading, List.map_cons, List.cons_append, ← htext]

theorem leading_append (surrogates : List (Fin 0x800))
    (hafter : ∀ surrogate, after.head? ≠ some (.lone surrogate)) :
    leading (surrogates.map .lone ++ after) = surrogates := by
  induction surrogates with
  | nil =>
    match after, hafter with
    | [], _ => rfl
    | .char _ :: _, _ => rfl
    | .lone surrogate :: _, hafter => exact absurd rfl (hafter surrogate)
  | cons surrogate surrogates ih => rw [List.map_cons, List.cons_append, leading, ih]

/-- **A raw text cannot be encoded** exactly if it has surrogates, and the first ones are
reported. -/
theorem encode_eq_error_iff : text.encode = .error e ↔ e.IsFirstIn text := by
  constructor
  · intro h
    obtain ⟨before, rest, rfl, rfl | ⟨surrogate, more, rfl⟩⟩ := exists_ofString_append text
    · rw [List.append_nil, encode_ofString] at h
      cases h
    · -- the surrogates are those up to the next character
      rw [encode_append_lone] at h
      cases h
      obtain ⟨after, hmore, hafter⟩ := exists_leading more
      refine ⟨before, after, ?_, rfl, hafter⟩
      rw [Unencodable.surrogates, List.map_cons, List.append_assoc, List.cons_append, ← hmore]
  · rintro ⟨before, after, rfl, hplace, hafter⟩
    rw [Unencodable.surrogates, List.map_cons, List.append_assoc, List.cons_append,
      encode_append_lone, leading_append e.more hafter, ← hplace]

/-! ## Bytes -/

theorem bytes?_ofString (s : String) : (ofString s).bytes? = some (utf8 s) := by
  have hpoints (letters : List Char) : (letters.map Point.char).mapM Point.bytes? =
      some (letters.map String.utf8EncodeChar) := by
    induction letters with
    | nil => rfl
    | cons c letters ih => rw [List.map_cons, List.mapM_cons, ih, List.map_cons]; rfl
  rw [bytes?, ofString, hpoints, Option.map_some, utf8, List.flatMap_def]

end Raw

end LoxSyntax.Text
