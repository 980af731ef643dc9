/-
# The format of grammars

What the lines of a grammar look like, said without the steps of a reader: a line is passed over, or
it is a variant as it is written, with blanks wherever they may stand.  A grammar is accepted
exactly if its lines list variants with different names, and these are then the result.  Otherwise
the first line that breaks a rule is named.  Variants that are written out are read back.
-/
import Mathlib.Data.List.Forall2
import LoxSyntax.Proofs.NameCharacters
import LoxSyntax.Proofs.WordsOfText

namespace LoxSyntax.NodeModule

open Text

/-! ## The format -/

/-- The piece is the field as it is written: its type, blanks and its name, maybe with blanks around
them. -/
def Field.IsWrittenAs (f : Field) (piece : List Char) : Prop :=
  f.IsAccepted ∧ ∃ before between after,
    piece = before ++ f.typeName.toList ++ between ++ f.name.toList ++ after ∧
      IsBlanks before ∧ IsBlanks between ∧ between ≠ [] ∧ IsBlanks after

/-- The line is the variant as it is written: its name, maybe with blanks around it, a colon, and
the fields with commas between them. -/
def Variant.IsWrittenAs (v : Variant) (line : List Char) : Prop :=
  v.IsAccepted ∧ ∃ before between pieces,
    line = before ++ v.name.toList ++ between ++ ':' :: [','].intercalate pieces ∧
      IsBlanks before ∧ IsBlanks between ∧ (∀ piece ∈ pieces, ',' ∉ piece) ∧
      List.Forall₂ Field.IsWrittenAs v.fields pieces

/-- The line says nothing: it is blank, or `#` comes first behind its blanks. -/
def IsPassedOver (line : List Char) : Prop :=
  IsBlanks line ∨ ∃ before after, line = before ++ '#' :: after ∧ IsBlanks before

/-- The lines, but for those that are passed over, are the variants as they are written,
in order. -/
inductive Lists : List String → List Variant → Prop
  /-- No line is left. -/
  | nil : Lists [] []
  /-- A line that says nothing. -/
  | passedOver {line : String} {lines : List String} {variants : List Variant}
      (hline : IsPassedOver line.toList) (hlines : Lists lines variants) :
      Lists (line :: lines) variants
  /-- A line with a variant. -/
  | variant {line : String} {lines : List String} {v : Variant} {variants : List Variant}
      (hline : v.IsWrittenAs line.toList) (hlines : Lists lines variants) :
      Lists (line :: lines) (v :: variants)

variable {n : Nat} {name : String} {seen : List String} {line piece text : List Char} {f : Field}
  {fields : List Field} {v : Variant} {variants : List Variant} {lines : List String}
  {e : GrammarError}

/-! ## Fields -/

/-- The two words of a field. -/
def Field.words (f : Field) : List (List Char) := [f.typeName.toList, f.name.toList]

/-- An identifier is a word. -/
theorem isWord_of_isIdentifier (h : isIdentifier text = true) : IsWord text := by
  refine ⟨?_, (isUnbroken_of_isIdentifier h).isBlank⟩
  rintro rfl
  cases h

/-- A piece is a field as it is written if it has the two words of the field. -/
theorem Field.isWrittenAs_iff :
    f.IsWrittenAs piece ↔ f.IsAccepted ∧ Text.words piece = f.words := by
  refine and_congr_right fun h => ?_
  rw [Field.words, words_eq_pair_iff]
  exact ⟨fun hshape => ⟨h.typeName, isWord_of_isIdentifier h.name, hshape⟩,
    fun hshape => hshape.2.2⟩

/-- So it is with the pieces of a line. -/
theorem forall₂_isWrittenAs_iff {pieces : List (List Char)} :
    List.Forall₂ Field.IsWrittenAs fields pieces ↔
      (∀ f ∈ fields, f.IsAccepted) ∧ pieces.map Text.words = fields.map Field.words := by
  have hfields : Field.IsWrittenAs = fun f piece => f.IsAccepted ∧ f.words = Text.words piece := by
    funext f piece
    rw [Field.isWrittenAs_iff, eq_comm (a := Text.words piece)]
  have hmap : fields.map Field.words = pieces.map Text.words ↔
      List.Forall₂ (fun f piece => f.words = Text.words piece) fields pieces := by
    rw [← List.forall₂_map_right_iff, ← List.forall₂_map_left_iff, List.forall₂_eq_eq_eq]
  rw [hfields, List.forall₂_and_left, ← hmap, eq_comm (a := fields.map Field.words)]

/-- The words of a field that is read. -/
theorem words_of_readField (h : readField n name seen piece = .ok f) :
    Text.words piece = f.words := by
  unfold readField at h
  split at h
  · rename_i first second hwords
    split at h
    · cases h
    · split at h
      · cases h
      · cases h
        rw [hwords, Field.words, String.toList_ofList, String.toList_ofList]
  · cases h

/-- A field is read from its words, if its name is new. -/
theorem readField_of_words (hf : f.IsAccepted) (hwords : Text.words piece = f.words)
    (hnew : f.name ∉ seen) : readField n name seen piece = .ok f := by
  unfold readField
  rw [hwords]
  simp only [Field.words, hf.name, String.ofList_toList, Bool.not_true, Bool.false_eq_true,
    if_false]
  rw [if_neg (by simpa using hnew)]

/-- **The fields that are read** are those whose words the pieces have. -/
theorem readFields_eq_ok_iff {pieces : List (List Char)} :
    readFields n name seen pieces = .ok fields ↔ pieces.map Text.words = fields.map Field.words ∧
      (∀ f ∈ fields, f.IsAccepted) ∧ AreNew seen (fields.map (·.name)) := by
  constructor
  · intro h
    obtain ⟨hall, hnew, -⟩ := readFields_ok h
    refine ⟨?_, hall, hnew⟩
    clear hall hnew
    induction pieces generalizing seen fields with
    | nil =>
      cases h
      rfl
    | cons piece pieces ih =>
      rw [readFields] at h
      obtain ⟨first, hfirst, h⟩ := eq_ok_of_bind h
      obtain ⟨others, hothers, h⟩ := eq_ok_of_bind h
      cases h
      rw [List.map_cons, List.map_cons, words_of_readField hfirst, ih hothers]
  · rintro ⟨hwords, hall, hnew⟩
    induction pieces generalizing seen fields with
    | nil =>
      obtain rfl := List.map_eq_nil_iff.1 hwords.symm
      rfl
    | cons piece pieces ih =>
      obtain ⟨first, others, rfl, hfirst, hothers⟩ := List.map_eq_cons_iff.1 hwords.symm
      rw [List.forall_mem_cons] at hall
      rw [List.map_cons, areNew_cons_iff] at hnew
      rw [readFields, readField_of_words hall.1 hfirst.symm hnew.1]
      show (readFields n name (first.name :: seen) pieces >>= _) = _
      rw [ih hothers.symm hall.2 hnew.2]
      rfl

/-! ## Variants -/

/-- The text is read as the variant: its name is in front of the first colon, and the pieces behind
the colon have the words of its fields. -/
def Variant.IsReadFrom (v : Variant) (text : List Char) : Prop :=
  v.IsAccepted ∧ ∃ before after, splitFirst? ':' text = some (before, after) ∧
    trim before = v.name.toList ∧
    (pieces (· == ',') after).map Text.words = v.fields.map Field.words

/-- **The variant that is read**, if its name is new. -/
theorem readVariant_eq_ok_iff :
    readVariant n seen text = .ok v ↔ v.IsReadFrom text ∧ v.name ∉ seen := by
  constructor
  · intro h
    obtain ⟨haccepted, hnew⟩ := readVariant_ok h
    refine ⟨⟨haccepted, ?_⟩, hnew⟩
    unfold readVariant at h
    split at h
    · cases h
    · rename_i before after hsplit
      simp only at h
      split at h
      · cases h
      · split at h
        · cases h
        · obtain ⟨fields, hfields, rfl⟩ := eq_ok_of_map h
          refine ⟨before, after, hsplit, ?_, (readFields_eq_ok_iff.1 hfields).1⟩
          rw [String.toList_ofList]
  · rintro ⟨⟨haccepted, before, after, hsplit, hname, hwords⟩, hnew⟩
    have hread : readFields n v.name [] (pieces (· == ',') after) = .ok v.fields := by
      refine readFields_eq_ok_iff.2 ⟨hwords, haccepted.fields, haccepted.nodup, ?_⟩
      exact fun name _ => List.not_mem_nil
    unfold readVariant
    rw [hsplit]
    simp only [hname, haccepted.name, String.ofList_toList, hread, Bool.not_true,
      Bool.false_eq_true, if_false]
    rw [if_neg (by simpa using hnew)]
    rfl

/-- An identifier holds no colon, no comma and no `#`. -/
theorem marks_not_mem_of_isIdentifier (h : isIdentifier text = true) :
    ':' ∉ text ∧ ',' ∉ text ∧ '#' ∉ text := by
  let marks : CodePoints := ⟨[(0x23, 0x23), (0x2C, 0x2C), (0x3A, 0x3A)]⟩
  have hmarks : ∀ c ∈ text, marks.has c = false :=
    not_has_of_isIdentifier (by decide +kernel) (by decide +kernel) h
  have hnot {mark : Char} (hmark : marks.has mark = true) : mark ∉ text := by
    intro hmem
    rw [hmarks mark hmem] at hmark
    cases hmark
  exact ⟨hnot (by decide), hnot (by decide), hnot (by decide)⟩

/-- **A line is a variant as it is written** exactly if it is read as the variant. -/
theorem Variant.isWrittenAs_iff : v.IsWrittenAs text ↔ v.IsReadFrom text := by
  refine and_congr_right fun haccepted => ?_
  constructor
  · rintro ⟨before, between, parts, rfl, hbefore, hbetween, hparts, hfields⟩
    have htrimmed : IsTrimmed v.name.toList :=
      isTrimmed_of_isBlank (isWord_of_isIdentifier haccepted.name).2
    have hcolon : ':' ∉ before ++ v.name.toList ++ between := by
      simp only [List.mem_append, not_or]
      exact ⟨⟨hbefore.not_mem (by decide), (marks_not_mem_of_isIdentifier haccepted.name).1⟩,
        hbetween.not_mem (by decide)⟩
    have hne : parts ≠ [] := by
      rintro rfl
      exact haccepted.fields_ne (List.forall₂_nil_right_iff.1 hfields)
    refine ⟨_, _, splitFirst?_append hcolon, trim_append hbefore htrimmed hbetween, ?_⟩
    rw [pieces_intercalate hne hparts]
    exact (forall₂_isWrittenAs_iff.1 hfields).2
  · rintro ⟨before, after, hsplit, hname, hwords⟩
    obtain ⟨rfl, -⟩ := eq_of_splitFirst? hsplit
    obtain ⟨-, front, between, rfl, hfront, hbetween⟩ := trim_eq_iff.1 hname
    obtain ⟨-, hafter, hparts⟩ := pieces_eq_iff.1 (Eq.refl (pieces (· == ',') after))
    refine ⟨front, between, pieces (· == ',') after, ?_, hfront, hbetween, hparts, ?_⟩
    · rw [← hafter]
    · exact forall₂_isWrittenAs_iff.2 ⟨haccepted.fields, hwords⟩

/-- Blanks around a text do not change how it is read. -/
theorem Variant.isReadFrom_trim : v.IsReadFrom (trim text) ↔ v.IsReadFrom text := by
  obtain ⟨front, back, htext, hfront, -, hback⟩ := exists_trim text
  generalize trim text = core at htext
  subst htext
  have hfront' : ':' ∉ front := hfront.not_mem (by decide)
  have hback' : ':' ∉ back := hback.not_mem (by decide)
  have hname (before : List Char) : trim (front ++ before) = trim before :=
    trim_blanks_append hfront
  have hwords (after : List Char) : (pieces (· == ',') (after ++ back)).map Text.words =
      (pieces (· == ',') after).map Text.words := by
    refine map_words_pieces_append after hback fun c hc => ?_
    rw [beq_eq_false_iff_ne]
    rintro rfl
    exact hback.not_mem (by decide) hc
  refine and_congr_right fun _ => ?_
  rw [splitFirst?_around hfront' hback']
  constructor
  · rintro ⟨before, after, hcore, hbefore, hafter⟩
    refine ⟨front ++ before, after ++ back, by rw [hcore]; rfl, ?_, ?_⟩
    · rw [hname, hbefore]
    · rw [hwords, hafter]
  · rintro ⟨before', after', hsplit, hbefore, hafter⟩
    obtain ⟨⟨before, after⟩, hcore, hparts⟩ := Option.map_eq_some_iff.1 hsplit
    cases hparts
    rw [hname] at hbefore
    rw [hwords] at hafter
    exact ⟨before, after, hcore, hbefore, hafter⟩

/-! ## Lines -/

/-- A line is passed over by its first character that is no blank. -/
theorem isPassedOver_blanks_cons {front rest : List Char} {c : Char} (hfront : IsBlanks front)
    (hc : isBlank c = false) : IsPassedOver (front ++ c :: rest) ↔ c = '#' := by
  constructor
  · rintro (hblanks | ⟨before, after, htext, hbefore⟩)
    · exact absurd (by simp) (hblanks.not_mem hc)
    · -- what stands behind the blanks in front is the same on both sides
      have hmark : isBlank '#' = false := by decide
      have hdrop := congrArg (List.dropWhile isBlank) htext
      rw [List.dropWhile_append_of_pos hfront, List.dropWhile_append_of_pos hbefore,
        List.dropWhile_cons_of_neg (by simp [hc]), List.dropWhile_cons_of_neg (by simp [hmark])]
        at hdrop
      exact (List.cons.inj hdrop).1
  · rintro rfl
    exact Or.inr ⟨front, rest, rfl, hfront⟩

/-- A trimmed line says something exactly if the line is not passed over. -/
theorem isSignificant_trim : isSignificant (trim text) = true ↔ ¬ IsPassedOver text := by
  obtain ⟨front, back, htext, hfront, hcore, hback⟩ := exists_trim text
  generalize trim text = core at htext hcore
  subst htext
  cases core with
  | nil =>
    have hblanks : IsBlanks (front ++ [] ++ back) := by
      rw [List.append_nil]
      exact hfront.append hback
    exact iff_of_false (by decide) (not_not_intro (Or.inl hblanks))
  | cons c run =>
    rw [List.append_assoc, List.cons_append, isPassedOver_blanks_cons hfront (hcore.first c rfl)]
    simp [isSignificant]

/-- A line with a variant is not passed over. -/
theorem Variant.IsWrittenAs.not_isPassedOver (h : v.IsWrittenAs text) : ¬ IsPassedOver text := by
  obtain ⟨haccepted, before, between, parts, rfl, hbefore, -⟩ := h
  have hword := isWord_of_isIdentifier haccepted.name
  have hmarks := marks_not_mem_of_isIdentifier haccepted.name
  obtain ⟨c, run, hname⟩ := List.exists_cons_of_ne_nil hword.1
  rw [hname] at hword hmarks ⊢
  rw [List.append_assoc, List.append_assoc, List.cons_append,
    isPassedOver_blanks_cons hbefore (hword.2 c List.mem_cons_self)]
  rintro rfl
  exact hmarks.2.2 List.mem_cons_self

/-- A line is read, its blanks trimmed, as the variant that it is written as. -/
theorem readVariant_trim_eq_ok_iff :
    readVariant n seen (trim text) = .ok v ↔ v.IsWrittenAs text ∧ v.name ∉ seen := by
  rw [readVariant_eq_ok_iff, Variant.isReadFrom_trim, Variant.isWrittenAs_iff]

/-- **The variants that are read** are those that the lines list, if their names are new. -/
theorem readVariants_eq_ok_iff : readVariants n seen lines = .ok variants ↔
    Lists lines variants ∧ AreNew seen (variants.map (·.name)) := by
  constructor
  · intro h
    refine ⟨?_, (readVariants_ok h).2⟩
    induction lines generalizing n seen variants with
    | nil =>
      cases h
      exact Lists.nil
    | cons line lines ih =>
      rw [readVariants] at h
      split at h
      · obtain ⟨first, hfirst, h⟩ := eq_ok_of_bind h
        obtain ⟨others, hothers, h⟩ := eq_ok_of_bind h
        cases h
        exact Lists.variant (readVariant_trim_eq_ok_iff.1 hfirst).1 (ih hothers)
      · rename_i hskip
        exact Lists.passedOver (not_not.1 (mt isSignificant_trim.2 hskip)) (ih h)
  · rintro ⟨hlists, hnew⟩
    induction hlists generalizing n seen with
    | nil => rfl
    | passedOver hline _ ih =>
      have hskip := mt isSignificant_trim.1 (not_not_intro hline)
      simp only [readVariants, if_neg hskip]
      exact ih hnew
    | variant hline _ ih =>
      have hsays := isSignificant_trim.2 hline.not_isPassedOver
      rw [List.map_cons, areNew_cons_iff] at hnew
      simp only [readVariants, if_pos hsays, readVariant_trim_eq_ok_iff.2 ⟨hline, hnew.1⟩]
      show (readVariants _ _ _ >>= _) = _
      rw [ih hnew.2]
      rfl

/-! ## Errors -/

/-- The line that an error names. -/
def GrammarError.line? : GrammarError → Option Nat
  | noVariant line _ | duplicateVariant line _ | malformedField line _
  | duplicateField line _ _ => some line
  | empty => none

/-- The message starts with the line. -/
theorem GrammarError.exists_message (h : e.line? = some n) :
    ∃ complaint, e.message = s!"line {n}: " ++ complaint := by
  have hsplit {whole front back : String} (h : whole = front ++ back) (rest : String) :
      whole ++ rest = front ++ (back ++ rest) := by
    rw [h, String.append_assoc]
  cases e with
  | noVariant line text =>
    cases h
    have hcolon : ": expected 'Name : Type field, ...', got " =
        ": " ++ "expected 'Name : Type field, ...', got " := by decide
    refine ⟨s!"expected 'Name : Type field, ...', got {quote text}", ?_⟩
    simp only [message, toString, String.append_assoc, hsplit hcolon]
  | duplicateVariant line name =>
    cases h
    have hcolon : ": duplicate variant " = ": " ++ "duplicate variant " := by decide
    refine ⟨s!"duplicate variant {quote name}", ?_⟩
    simp only [message, toString, String.append_assoc, hsplit hcolon]
  | malformedField line text =>
    cases h
    have hcolon : ": malformed field " = ": " ++ "malformed field " := by decide
    refine ⟨s!"malformed field {quote text}", ?_⟩
    simp only [message, toString, String.append_assoc, hsplit hcolon]
  | duplicateField line name variant =>
    cases h
    have hcolon : ": duplicate field " = ": " ++ "duplicate field " := by decide
    refine ⟨s!"duplicate field {quote name} in {variant}", ?_⟩
    simp only [message, toString, String.append_assoc, hsplit hcolon]
  | empty => cases h

/-- An error in a field names the line. -/
theorem line?_of_readField (h : readField n name seen piece = .error e) : e.line? = some n := by
  unfold readField at h
  split at h
  · split at h
    · cases h
      rfl
    · split at h
      · cases h
        rfl
      · cases h
  · cases h
    rfl

/-- An error among the fields names the line. -/
theorem line?_of_readFields {pieces : List (List Char)}
    (h : readFields n name seen pieces = .error e) : e.line? = some n := by
  induction pieces generalizing seen with
  | nil => cases h
  | cons piece pieces ih =>
    rw [readFields] at h
    rcases eq_error_of_bind h with hfirst | ⟨first, -, hothers⟩
    · exact line?_of_readField hfirst
    · rcases eq_error_of_bind hothers with hothers | ⟨others, -, hnever⟩
      · exact ih hothers
      · cases hnever

/-- An error in a variant names the line. -/
theorem line?_of_readVariant (h : readVariant n seen text = .error e) : e.line? = some n := by
  unfold readVariant at h
  split at h
  · cases h
    rfl
  · simp only at h
    split at h
    · cases h
      rfl
    · split at h
      · cases h
        rfl
      · exact line?_of_readFields (eq_error_of_map h)

/-- The line breaks a rule of the format, behind lines with variants of the names: it says
something, but not a variant with a new name. -/
def BreaksRule (names : List String) (line : List Char) : Prop :=
  ¬ IsPassedOver line ∧ ∀ v : Variant, v.IsWrittenAs line → v.name ∈ names

/-- The line of this number, counted from 1, is the first one that breaks a rule: the lines in front
of it list variants with different names. -/
def FirstBreaksRule (grammar : List String) (n : Nat) : Prop :=
  ∃ before line after variants, grammar = before ++ line :: after ∧ n = before.length + 1 ∧
    Lists before variants ∧ (variants.map (·.name)).Nodup ∧
    BreaksRule (variants.map (·.name)) line.toList

/-- **An error is about the first line that breaks a rule**: the lines in front of it list variants
with new names, and it has no variant with a name that is new behind them. -/
theorem exists_of_readVariants (h : readVariants n seen lines = .error e) :
    ∃ before line after variants, lines = before ++ line :: after ∧ Lists before variants ∧
      AreNew seen (variants.map (·.name)) ∧
      BreaksRule (seen ++ variants.map (·.name)) line.toList ∧
      e.line? = some (n + before.length) := by
  induction lines generalizing n seen with
  | nil => cases h
  | cons line lines ih =>
    rw [readVariants] at h
    split at h
    · rename_i hsays
      rcases eq_error_of_bind h with hfirst | ⟨first, hfirst, hothers⟩
      · -- the line itself breaks a rule
        refine ⟨[], line, lines, [], rfl, Lists.nil, ⟨List.nodup_nil, List.forall_mem_nil _⟩,
          ⟨isSignificant_trim.1 hsays, fun v hv => ?_⟩, line?_of_readVariant hfirst⟩
        rw [List.map_nil, List.append_nil]
        by_contra hnew
        rw [readVariant_trim_eq_ok_iff.2 ⟨hv, hnew⟩] at hfirst
        cases hfirst
      · rcases eq_error_of_bind hothers with hothers | ⟨others, -, hnever⟩
        · obtain ⟨hwritten, hnew⟩ := readVariant_trim_eq_ok_iff.1 hfirst
          obtain ⟨before, bad, after, variants, rfl, hlists, hnews, ⟨hsay, hbad⟩, hline⟩ :=
            ih hothers
          refine ⟨line :: before, bad, after, first :: variants, rfl, Lists.variant hwritten hlists,
            ?_, ⟨hsay, fun v hv => ?_⟩, ?_⟩
          · rw [List.map_cons, areNew_cons_iff]
            exact ⟨hnew, hnews⟩
          · have hseen := hbad v hv
            simp only [List.map_cons, List.cons_append, List.mem_append, List.mem_cons]
              at hseen ⊢
            tauto
          · rw [hline, List.length_cons, Nat.add_right_comm, Nat.add_assoc]
        · cases hnever
    · rename_i hskip
      obtain ⟨before, bad, after, variants, rfl, hlists, hnews, hbad, hline⟩ := ih h
      refine ⟨line :: before, bad, after, variants, rfl, ?_, hnews, hbad, ?_⟩
      · exact Lists.passedOver (not_not.1 (mt isSignificant_trim.2 hskip)) hlists
      · rw [hline, List.length_cons, Nat.add_right_comm, Nat.add_assoc]

/-! ## Written grammars -/

/-- A field as text. -/
def Field.render (f : Field) : String := f.typeName ++ " " ++ f.name

/-- A variant as a line. -/
def Variant.render (v : Variant) : String :=
  v.name ++ " : " ++ ", ".intercalate (v.fields.map Field.render)

/-- The field can be told from the ones around it: there is no comma in its type. -/
def Field.IsClear (f : Field) : Prop := ',' ∉ f.typeName.toList

instance (f : Field) : Decidable f.IsClear :=
  inferInstanceAs (Decidable (',' ∉ f.typeName.toList))

/-- Blanks behind the marks go to the parts. -/
theorem blank_intercalate {parts : List (List Char)} (hne : parts ≠ []) :
    ' ' :: [',', ' '].intercalate parts = [','].intercalate (parts.map (' ' :: ·)) := by
  induction parts with
  | nil => exact absurd rfl hne
  | cons part parts ih =>
    cases parts with
    | nil => rfl
    | cons next parts =>
      have hrest := ih (List.cons_ne_nil _ _)
      rw [List.map_cons] at hrest ⊢
      rw [List.map_cons, List.intercalate_cons_cons, List.intercalate_cons_cons, ← hrest]
      simp only [List.append_assoc, List.cons_append, List.nil_append]

/-- A field is read from its text. -/
theorem Field.isWrittenAs_render (hf : f.IsAccepted) :
    f.IsWrittenAs (' ' :: f.render.toList) := by
  have hblanks : IsBlanks [' '] := by decide
  refine ⟨hf, [' '], [' '], [], ?_, hblanks, hblanks, List.cons_ne_nil _ _,
    List.forall_mem_nil _⟩
  simp [Field.render]

/-- There is no comma in the text of a field that can be told from others. -/
theorem Field.IsClear.render (h : f.IsClear) (hf : f.IsAccepted) :
    ',' ∉ ' ' :: f.render.toList := by
  have hname := (marks_not_mem_of_isIdentifier hf.name).2.1
  simp only [Field.render, String.toList_append, List.mem_cons, List.mem_append, not_or]
  exact ⟨by decide, ⟨h, by decide⟩, hname⟩

/-- **The line of a variant** is the variant as it is written. -/
theorem Variant.isWrittenAs_render (hv : v.IsAccepted) (hclear : ∀ f ∈ v.fields, f.IsClear) :
    v.IsWrittenAs v.render.toList := by
  have hblanks : IsBlanks [' '] := by decide
  refine ⟨hv, [], [' '], v.fields.map (' ' :: ·.render.toList), ?_, List.forall_mem_nil _, hblanks,
    ?_, ?_⟩
  · have hne : v.fields.map (·.render.toList) ≠ [] := by
      rw [Ne, List.map_eq_nil_iff]
      exact hv.fields_ne
    have hfields := blank_intercalate hne
    rw [List.map_map] at hfields
    have hmarks : " : ".toList = [' ', ':', ' '] := by decide
    have hcomma : ", ".toList = [',', ' '] := by decide
    simp only [Variant.render, String.toList_append, String.toList_intercalate, List.map_map,
      hmarks, hcomma, List.append_assoc, List.cons_append, List.nil_append]
    rw [show String.toList ∘ Field.render = (·.render.toList) from rfl, hfields]
    rfl
  · intro piece hpiece
    obtain ⟨f, hf, rfl⟩ := List.mem_map.1 hpiece
    exact (hclear f hf).render (hv.fields f hf)
  · rw [List.forall₂_map_right_iff, List.forall₂_same]
    exact fun f hf => Field.isWrittenAs_render (hv.fields f hf)

/-- The lines of variants list them. -/
theorem lists_render (h : ∀ v ∈ variants, v.IsAccepted)
    (hclear : ∀ v ∈ variants, ∀ f ∈ v.fields, f.IsClear) :
    Lists (variants.map Variant.render) variants := by
  induction variants with
  | nil => exact Lists.nil
  | cons v variants ih =>
    rw [List.forall_mem_cons] at h hclear
    exact Lists.variant (Variant.isWrittenAs_render h.1 hclear.1) (ih h.2 hclear.2)

/-! ## Whole grammars -/

/-- A grammar is accepted if its lines list variants with different names. -/
theorem parseGrammar_eq_ok_iff {grammar : List String} : parseGrammar grammar = .ok variants ↔
    variants ≠ [] ∧ Lists grammar variants ∧ (variants.map (·.name)).Nodup := by
  have hread : readVariants 1 [] grammar = .ok variants ↔
      Lists grammar variants ∧ (variants.map (·.name)).Nodup := by
    rw [readVariants_eq_ok_iff, AreNew, and_iff_left fun name _ => List.not_mem_nil]
  rw [← hread, parseGrammar]
  split
  · rename_i hnone
    rw [hnone]
    constructor
    · intro h
      cases h
    · rintro ⟨hne, h⟩
      exact absurd (Except.ok.inj h).symm hne
  · rename_i hsome
    refine ⟨fun h => ⟨?_, h⟩, fun h => h.2⟩
    rintro rfl
    exact hsome h

/-- Lines that list no variant are passed over. -/
theorem isPassedOver_of_lists (h : Lists lines []) : ∀ line ∈ lines, IsPassedOver line.toList := by
  generalize hnone : ([] : List Variant) = variants at h
  induction h with
  | nil => exact List.forall_mem_nil _
  | passedOver hline _ ih => exact List.forall_mem_cons.2 ⟨hline, ih hnone⟩
  | variant => cases hnone

/-- A grammar that is not accepted has no line that says something, or one that breaks a rule. -/
theorem of_parseGrammar_eq_error {grammar : List String} (h : parseGrammar grammar = .error e) :
    (e = .empty ∧ ∀ line ∈ grammar, IsPassedOver line.toList) ∨
      ∃ n, FirstBreaksRule grammar n ∧ e.line? = some n := by
  unfold parseGrammar at h
  split at h
  · rename_i hnone
    cases h
    exact Or.inl ⟨rfl, isPassedOver_of_lists (readVariants_eq_ok_iff.1 hnone).1⟩
  · obtain ⟨before, line, after, variants, hsplit, hlists, hnew, hbreaks, hline⟩ :=
      exists_of_readVariants h
    rw [List.nil_append] at hbreaks
    rw [Nat.add_comm] at hline
    exact Or.inr ⟨_, ⟨before, line, after, variants, hsplit, rfl, hlists, hnew.1, hbreaks⟩, hline⟩

/-- **The format of grammars**.  A grammar is accepted exactly if its lines list at least one
variant, with different names, and these are the result.  Otherwise the error says that there are no
variants, where every line is passed over, or it names the first line that breaks a rule.  Variants
that are written out are read back. -/
theorem parseGrammar_follows_format (grammar : List String) :
    (∀ variants, parseGrammar grammar = .ok variants ↔
      variants ≠ [] ∧ Lists grammar variants ∧ (variants.map (·.name)).Nodup) ∧
    (∀ e, parseGrammar grammar = .error e →
      (e.message = "grammar defines no variants" ∧ ∀ line ∈ grammar, IsPassedOver line.toList) ∨
      ∃ n complaint, FirstBreaksRule grammar n ∧ e.message = s!"line {n}: " ++ complaint) ∧
    ∀ variants : List Variant, variants ≠ [] → (variants.map (·.name)).Nodup →
      (∀ v ∈ variants, v.IsAccepted ∧ ∀ f ∈ v.fields, f.IsClear) →
      parseGrammar (variants.map Variant.render) = .ok variants := by
  refine ⟨fun variants => parseGrammar_eq_ok_iff, fun e h => ?_, fun variants hne hnodup hall => ?_⟩
  · rcases of_parseGrammar_eq_error h with ⟨rfl, hnone⟩ | ⟨n, hbreaks, hline⟩
    · exact Or.inl ⟨rfl, hnone⟩
    · obtain ⟨complaint, hmessage⟩ := GrammarError.exists_message hline
      exact Or.inr ⟨n, complaint, hbreaks, hmessage⟩
  · have hlists : Lists (variants.map Variant.render) variants :=
      lists_render (fun v hv => (hall v hv).1) (fun v hv => (hall v hv).2)
    exact parseGrammar_eq_ok_iff.2 ⟨hne, hlists, hnodup⟩

/-- Behind a comment, a line of blanks and a variant with a colon in a type, the fourth line is
named, which has the name of the third one.  The two variants of an arithmetic are read back. -/
theorem parseGrammar_follows_format_arithmetic :
    (∃ n complaint,
      FirstBreaksRule
        ["# nodes", "\u2003", "\tSum :a::b\u3000left , Node right ", "Sum: Node all"] n ∧
        "line 4: duplicate variant 'Sum'" = s!"line {n}: " ++ complaint) ∧
    parseGrammar ["Sum : Node left, Node right", "Constant : int value"] =
      .ok [⟨"Sum", [⟨"Node", "left"⟩, ⟨"Node", "right"⟩]⟩, ⟨"Constant", [⟨"int", "value"⟩]⟩] := by
  constructor
  · have hread : parseGrammar
        ["# nodes", "\u2003", "\tSum :a::b\u3000left , Node right ", "Sum: Node all"] =
          .error (.duplicateVariant 4 ['S', 'u', 'm']) := by decide +kernel
    rcases (parseGrammar_follows_format _).2.1 _ hread with ⟨hmessage, -⟩ | hnamed
    · exact absurd hmessage (by decide +kernel)
    · exact hnamed
  · exact (parseGrammar_follows_format []).2.2
      [⟨"Sum", [⟨"Node", "left"⟩, ⟨"Node", "right"⟩]⟩, ⟨"Constant", [⟨"int", "value"⟩]⟩]
      (by decide) (by decide) (by decide +kernel)

end LoxSyntax.NodeModule
