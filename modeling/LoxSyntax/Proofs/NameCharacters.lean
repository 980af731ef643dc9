/-
# The characters of names

Identifiers hold no blanks and none of the marks behind which a line of a node module goes on after
a name.  Neither do the names that are made of identifiers: lower case never turns a letter into
such a character, and underscores are none.
-/
import LoxSyntax.NodeModule.Source

namespace LoxSyntax.Text

open LetterCase

/-! ## Sets without a common code point -/

/-- No range of the one set meets a range of the other. -/
def CodePoints.isDisjoint (first second : CodePoints) : Bool :=
  first.ranges.all fun r => second.ranges.all fun s => Nat.blt r.2 s.1 || Nat.blt s.2 r.1

/-- A character of a set is in no disjoint one. -/
theorem CodePoints.not_has_of_isDisjoint {first second : CodePoints} {c : Char}
    (h : first.isDisjoint second = true) (hc : first.has c = true) : second.has c = false := by
  obtain ⟨r, hr, hlow, hhigh⟩ := (first.has_iff c).1 hc
  rw [Bool.eq_false_iff]
  intro hsecond
  obtain ⟨s, hs, hlow', hhigh'⟩ := (second.has_iff c).1 hsecond
  have hapart := List.all_eq_true.1 (List.all_eq_true.1 h r hr) s hs
  simp only [Bool.or_eq_true, Nat.blt_eq] at hapart
  omega

/-! ## What ends a name -/

/-- The characters that end a name in a module: blanks, quotes, opening parentheses and colons. -/
def nameEnds : CodePoints := ⟨blanks.ranges ++ [(0x22, 0x22), (0x28, 0x28), (0x3A, 0x3A)]⟩

/-- A text in which nothing ends a name. -/
def IsUnbroken (text : List Char) : Prop := ∀ c ∈ text, nameEnds.has c = false

instance (text : List Char) : Decidable (IsUnbroken text) :=
  decidable_of_iff (text.all (! nameEnds.has ·) = true) (by simp [IsUnbroken])

variable {c : Char} {text before after : List Char}

theorem nameEnds_of_isBlank (h : isBlank c = true) : nameEnds.has c = true := by
  obtain ⟨r, hr, hbounds⟩ := (blanks.has_iff c).1 h
  exact (nameEnds.has_iff c).2 ⟨r, List.mem_append_left _ hr, hbounds⟩

theorem IsUnbroken.not_mem (h : IsUnbroken text) (hc : nameEnds.has c = true) : c ∉ text := by
  intro hmem
  rw [h c hmem] at hc
  cases hc

theorem IsUnbroken.isBlank (h : IsUnbroken text) : ∀ c ∈ text, isBlank c = false := by
  intro c hc
  rw [Bool.eq_false_iff]
  exact fun hblank => h.not_mem (nameEnds_of_isBlank hblank) hc

theorem isUnbroken_append : IsUnbroken (before ++ after) ↔ IsUnbroken before ∧ IsUnbroken after :=
  List.forall_mem_append

/-- No character of an identifier is in a set that neither of its two classes meets. -/
theorem not_has_of_isIdentifier {set : CodePoints} (hstart : identifierStart.isDisjoint set = true)
    (hcontinue : identifierContinue.isDisjoint set = true) (h : isIdentifier text = true) :
    ∀ c ∈ text, set.has c = false := by
  cases text with
  | nil => cases h
  | cons first rest =>
    rw [isIdentifier, Bool.and_eq_true, List.all_eq_true] at h
    refine List.forall_mem_cons.2 ⟨CodePoints.not_has_of_isDisjoint hstart h.1, fun c hc => ?_⟩
    exact CodePoints.not_has_of_isDisjoint hcontinue (h.2 c hc)

/-- **Identifiers are unbroken.** -/
theorem isUnbroken_of_isIdentifier (h : isIdentifier text = true) : IsUnbroken text :=
  not_has_of_isIdentifier (by decide +kernel) (by decide +kernel) h

/-! ## Lower case -/

/-- The ends of what a run is moved to. -/
def LetterCase.Run.image (run : Run) : Nat × Nat :=
  ((run.first + run.shift).toNat, (run.last + run.shift).toNat)

/-- What the runs of a mapping are moved to, the gaps in them filled. -/
def LetterCase.Mapping.images (mapping : Mapping) : CodePoints := ⟨mapping.runs.map Run.image⟩

/-- A code point of a run is moved between the ends. -/
theorem LetterCase.Run.image_of_has {run : Run} {code : Nat} (h : run.has code = true) :
    run.image.1 ≤ (code + run.shift).toNat ∧ (code + run.shift).toNat ≤ run.image.2 := by
  simp only [Run.has, Bool.and_eq_true, decide_eq_true_eq] at h
  simp only [Run.image]
  omega

/-- A code point outside a set gives a character outside it, if the set is without the code point
zero. -/
theorem CodePoints.not_has_ofNat {set : CodePoints} {code : Nat} (hzero : ∀ r ∈ set.ranges, 0 < r.1)
    (h : ∀ r ∈ set.ranges, code < r.1 ∨ r.2 < code) : set.has (Char.ofNat code) = false := by
  rw [Bool.eq_false_iff]
  intro hhas
  obtain ⟨r, hr, hlow, hhigh⟩ := (set.has_iff _).1 hhas
  have hpositive := hzero r hr
  have hoff := h r hr
  -- a number that is no code point stands for the code point zero
  have hcode : (Char.ofNat code).toNat = code ∨ (Char.ofNat code).toNat = 0 := by
    rw [Char.ofNat]
    by_cases hvalid : code.isValidChar
    · rw [dif_pos hvalid]
      exact Or.inl rfl
    · rw [dif_neg hvalid]
      exact Or.inr rfl
  rcases hcode with hcode | hcode <;> omega

/-- The lower case of a character ends no name unless the character does. -/
theorem isUnbroken_lower (hc : nameEnds.has c = false) : IsUnbroken (lower.apply c) := by
  have hexpansions : ∀ entry ∈ lower.expansions, IsUnbroken (entry.2.map Char.ofNat) := by
    decide +kernel
  have himages : lower.images.isDisjoint nameEnds = true := by decide +kernel
  have hzero : ∀ r ∈ nameEnds.ranges, 0 < r.1 := by decide
  rw [Mapping.apply]
  split
  case h_1 codes hlookup =>
    obtain ⟨before, after, hsplit, -⟩ := List.lookup_eq_some_iff.1 hlookup
    exact hexpansions (c.toNat, codes) (by simp [hsplit])
  case h_2 =>
    split
    case h_1 run hfind =>
      have hhas : run.has c.toNat = true := by simpa using List.find?_some hfind
      have himage := Run.image_of_has hhas
      have hmem : run.image ∈ lower.images.ranges :=
        List.mem_map_of_mem (List.mem_of_find?_eq_some hfind)
      refine List.forall_mem_singleton.2 (CodePoints.not_has_ofNat hzero fun s hs => ?_)
      have hapart := List.all_eq_true.1 (List.all_eq_true.1 himages _ hmem) s hs
      simp only [Bool.or_eq_true, Nat.blt_eq] at hapart
      omega
    case h_2 => exact List.forall_mem_singleton.2 hc

/-- So it is with the lower case of a text behind another one. -/
theorem isUnbroken_lowerFrom (before : List Char) (h : IsUnbroken text) :
    IsUnbroken (lowerFrom before text) := by
  induction text generalizing before with
  | nil => exact h
  | cons c after ih =>
    obtain ⟨hc, hafter⟩ := List.forall_mem_cons.1 h
    refine isUnbroken_append.2 ⟨?_, ih (c :: before) hafter⟩
    rw [lowerAt]
    split
    · refine List.forall_mem_singleton.2 ?_
      split <;> decide
    · exact isUnbroken_lower hc

end LoxSyntax.Text

namespace LoxSyntax.NodeModule

open Text

variable {base variant name : String}

/-! ## Names made of identifiers -/

theorem isUnbroken_lowerName (h : IsUnbroken name.toList) : IsUnbroken (lowerName name).toList := by
  rw [lowerName, String.toList_ofList]
  exact isUnbroken_lowerFrom [] h

/-- The words of a name set apart by underscores are unbroken. -/
theorem isUnbroken_snakeCase (h : IsUnbroken name.toList) : IsUnbroken (snakeCase name).toList := by
  rw [snakeCase]
  split
  case h_1 => exact List.forall_mem_nil _
  case h_2 first rest hcons =>
    rw [hcons] at h
    obtain ⟨hfirst, hrest⟩ := List.forall_mem_cons.1 h
    have hunderscore : nameEnds.has '_' = false := by decide
    rw [String.toList_ofList]
    refine isUnbroken_lowerFrom [] (List.forall_mem_cons.2 ⟨hfirst, fun c hc => ?_⟩)
    obtain ⟨d, hd, hc⟩ := List.mem_flatMap.1 hc
    split at hc
    · have hpair : ∀ c ∈ ['_', d], nameEnds.has c = false :=
        List.forall_mem_cons.2 ⟨hunderscore, List.forall_mem_singleton.2 (hrest d hd)⟩
      exact hpair c hc
    · obtain rfl := List.mem_singleton.1 hc
      exact hrest _ hd

/-- The name of a visitor method is unbroken. -/
theorem isUnbroken_visitMethod (hbase : IsUnbroken base.toList) (h : IsUnbroken variant.toList) :
    IsUnbroken (visitMethod base variant).toList := by
  have hfront : IsUnbroken "visit_".toList := by decide
  have hunderscore : IsUnbroken "_".toList := by decide
  simp only [visitMethod, String.toList_append, isUnbroken_append, toString]
  exact ⟨⟨⟨hfront, isUnbroken_snakeCase h⟩, hunderscore⟩, isUnbroken_lowerName hbase⟩

theorem isUnbroken_visitorName (hbase : IsUnbroken base.toList) :
    IsUnbroken (visitorName base).toList := by
  have hend : IsUnbroken "Visitor".toList := by decide
  simp only [visitorName, String.toList_append, isUnbroken_append, toString]
  exact ⟨hbase, hend⟩

end LoxSyntax.NodeModule
