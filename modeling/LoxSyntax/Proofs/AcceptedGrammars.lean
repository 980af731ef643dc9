/-
# Accepted grammars

What a grammar that is accepted is known to hold: the names of its variants are different
identifiers, so are the names of the fields of each variant, and the types of the fields are words.
Both lists of names are read with the names before them at hand, and so both arguments are one
induction on what is read.
-/
import LoxSyntax.NodeModule.Grammar
import LoxSyntax.Proofs.TextLines

namespace LoxSyntax

namespace Text

variable {isCut : Char → Bool} {text piece : List Char}

theorem isCut_of_mem_pieces (h : piece ∈ pieces isCut text) : ∀ c ∈ piece, isCut c = false := by
  intro c hc
  have hmem : c ∈ (pieces isCut text).flatten := List.mem_flatten.2 ⟨piece, h, hc⟩
  rw [flatten_pieces, List.mem_filter, Bool.not_eq_true'] at hmem
  exact hmem.2

/-- A text that is one of some words. -/
def IsWord (text : List Char) : Prop := text ≠ [] ∧ ∀ c ∈ text, isBlank c = false

instance (text : List Char) : Decidable (IsWord text) :=
  decidable_of_iff (text ≠ [] ∧ text.all (! isBlank ·) = true) (by simp [IsWord])

theorem isWord_of_mem_words {word : List Char} (h : word ∈ words text) : IsWord word := by
  obtain ⟨hpiece, hne⟩ := List.mem_filter.1 h
  exact ⟨by simpa using hne, isCut_of_mem_pieces hpiece⟩

end Text

namespace NodeModule

/-- A field of an accepted grammar. -/
structure Field.IsAccepted (f : Field) : Prop where
  name : Text.isIdentifier f.name.toList = true
  typeName : Text.IsWord f.typeName.toList

/-- A variant of an accepted grammar. -/
structure Variant.IsAccepted (v : Variant) : Prop where
  name : Text.isIdentifier v.name.toList = true
  fields_ne : v.fields ≠ []
  fields : ∀ f ∈ v.fields, f.IsAccepted
  nodup : (v.fields.map (·.name)).Nodup

instance (f : Field) : Decidable f.IsAccepted :=
  decidable_of_iff (Text.isIdentifier f.name.toList = true ∧ Text.IsWord f.typeName.toList)
    ⟨fun h => ⟨h.1, h.2⟩, fun h => ⟨h.name, h.typeName⟩⟩

instance (v : Variant) : Decidable v.IsAccepted :=
  decidable_of_iff (Text.isIdentifier v.name.toList = true ∧ v.fields ≠ [] ∧
      (∀ f ∈ v.fields, f.IsAccepted) ∧ (v.fields.map (·.name)).Nodup)
    ⟨fun h => ⟨h.1, h.2.1, h.2.2.1, h.2.2.2⟩, fun h => ⟨h.name, h.fields_ne, h.fields, h.nodup⟩⟩

variable {line : Nat} {variant name : String} {seen names : List String} {text : List Char}
  {f : Field} {fields : List Field} {v : Variant} {variants : List Variant}

theorem eq_ok_of_bind {ε α β : Type} {x : Except ε α} {next : α → Except ε β} {b : β}
    (h : x >>= next = .ok b) : ∃ a, x = .ok a ∧ next a = .ok b := by
  cases x with
  | error e => cases h
  | ok a => exact ⟨a, rfl, h⟩

/-- A computation that fails after another one: one of the two fails. -/
theorem eq_error_of_bind {ε α β : Type} {x : Except ε α} {next : α → Except ε β} {e : ε}
    (h : x >>= next = .error e) : x = .error e ∨ ∃ a, x = .ok a ∧ next a = .error e := by
  cases x with
  | error e' =>
    cases h
    exact Or.inl rfl
  | ok a => exact Or.inr ⟨a, rfl, h⟩

theorem eq_ok_of_map {ε α β : Type} {x : Except ε α} {form : α → β} {b : β}
    (h : x.map form = .ok b) : ∃ a, x = .ok a ∧ form a = b := by
  cases x with
  | error e => cases h
  | ok a => exact ⟨a, rfl, Except.ok.inj h⟩

/-- Putting a value into another form does not fail. -/
theorem eq_error_of_map {ε α β : Type} {x : Except ε α} {form : α → β} {e : ε}
    (h : x.map form = .error e) : x = .error e := by
  cases x with
  | error e' =>
    cases h
    rfl
  | ok a => cases h

/-! ## Names that were not seen before -/

/-- The names are different from each other and from the ones that were seen before. -/
def AreNew (seen names : List String) : Prop := names.Nodup ∧ ∀ name ∈ names, name ∉ seen

/-- A name in front of others is not seen before them, and they are new behind it. -/
theorem areNew_cons_iff :
    AreNew seen (name :: names) ↔ name ∉ seen ∧ AreNew (name :: seen) names := by
  simp only [AreNew, List.nodup_cons, List.mem_cons, forall_eq_or_imp, not_or]
  constructor
  · rintro ⟨⟨hnot, hnodup⟩, hname, hseen⟩
    refine ⟨hname, hnodup, fun other hother => ⟨?_, hseen other hother⟩⟩
    rintro rfl
    exact hnot hother
  · rintro ⟨hname, hnodup, hother⟩
    exact ⟨⟨fun hmem => (hother name hmem).1 rfl, hnodup⟩, hname, fun other h => (hother other h).2⟩

/-! ## Fields -/

/-- A field that is read is accepted and new. -/
theorem readField_ok (h : readField line variant seen text = .ok f) :
    f.IsAccepted ∧ f.name ∉ seen := by
  unfold readField at h
  split at h
  · rename_i typeName name hwords
    have hmem : typeName ∈ Text.words text := by rw [hwords]; exact List.mem_cons_self
    have htype : Text.IsWord typeName := Text.isWord_of_mem_words hmem
    split at h
    · cases h
    · rename_i hidentifier
      split at h
      · cases h
      · rename_i hnew
        cases h
        simp only [Bool.not_eq_true', Bool.not_eq_false] at hidentifier
        refine ⟨⟨?_, ?_⟩, by simpa using hnew⟩
        · rwa [String.toList_ofList]
        · rwa [String.toList_ofList]
  · cases h

/-- The fields that are read are accepted and new. -/
theorem readFields_ok {pieces : List (List Char)}
    (h : readFields line variant seen pieces = .ok fields) :
    (∀ f ∈ fields, f.IsAccepted) ∧ AreNew seen (fields.map (·.name)) ∧
      fields.length = pieces.length := by
  induction pieces generalizing seen fields with
  | nil =>
    cases h
    exact ⟨List.forall_mem_nil _, ⟨List.nodup_nil, List.forall_mem_nil _⟩, rfl⟩
  | cons piece pieces ih =>
    -- the rest is read with the name of the first field among the ones seen
    rw [readFields] at h
    obtain ⟨first, hfirst, h⟩ := eq_ok_of_bind h
    obtain ⟨rest, hrest, h⟩ := eq_ok_of_bind h
    cases h
    obtain ⟨haccepted, hname⟩ := readField_ok hfirst
    obtain ⟨hall, hnew, hlength⟩ := ih hrest
    exact ⟨List.forall_mem_cons.2 ⟨haccepted, hall⟩, areNew_cons_iff.2 ⟨hname, hnew⟩,
      congrArg (· + 1) hlength⟩

/-! ## Variants -/

/-- A variant that is read is accepted and new. -/
theorem readVariant_ok (h : readVariant line seen text = .ok v) :
    v.IsAccepted ∧ v.name ∉ seen := by
  unfold readVariant at h
  split at h
  · cases h
  · rename_i before after hsplit
    simp only at h
    split at h
    · cases h
    · rename_i hidentifier
      split at h
      · cases h
      · rename_i hnew
        simp only [Bool.not_eq_true', Bool.not_eq_false] at hidentifier
        obtain ⟨fields, hfields, rfl⟩ := eq_ok_of_map h
        obtain ⟨hall, hdistinct, hlength⟩ := readFields_ok hfields
        refine ⟨⟨?_, ?_, hall, hdistinct.1⟩, by simpa using hnew⟩
        · rwa [String.toList_ofList]
        · rw [← List.length_pos_iff, hlength, List.length_pos_iff]
          exact Text.pieces_ne_nil _ _

/-- The variants that are read are accepted and new. -/
theorem readVariants_ok {lines : List String}
    (h : readVariants line seen lines = .ok variants) :
    (∀ v ∈ variants, v.IsAccepted) ∧ AreNew seen (variants.map (·.name)) := by
  induction lines generalizing line seen variants with
  | nil =>
    cases h
    exact ⟨List.forall_mem_nil _, List.nodup_nil, List.forall_mem_nil _⟩
  | cons text lines ih =>
    rw [readVariants] at h
    split at h
    · obtain ⟨first, hfirst, h⟩ := eq_ok_of_bind h
      obtain ⟨rest, hrest, h⟩ := eq_ok_of_bind h
      cases h
      obtain ⟨haccepted, hname⟩ := readVariant_ok hfirst
      obtain ⟨hall, hnew⟩ := ih hrest
      exact ⟨List.forall_mem_cons.2 ⟨haccepted, hall⟩, areNew_cons_iff.2 ⟨hname, hnew⟩⟩
    · exact ih h

/-- **An accepted grammar** has variants, all of them accepted, with different names. -/
theorem parseGrammar_ok {grammar : List String} (h : parseGrammar grammar = .ok variants) :
    variants ≠ [] ∧ (∀ v ∈ variants, v.IsAccepted) ∧ (variants.map (·.name)).Nodup := by
  unfold parseGrammar at h
  split at h
  · cases h
  · rename_i hne
    obtain ⟨hall, hnew⟩ := readVariants_ok h
    refine ⟨?_, hall, hnew.1⟩
    rintro rfl
    exact hne h

end NodeModule

end LoxSyntax
