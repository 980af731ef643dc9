/-
# What is accepted

A list of tokens is parsed without an error exactly if the tokens before the first end of input are
a sentence: an expression of the grammar within the nesting limit, with or without a semicolon.  The
tree is the only one that the grammar has for them, and its yield is these tokens.
-/
import LoxSyntax.Parsing.Source
import LoxSyntax.Proofs.Reading

namespace LoxSyntax.Grammar

open Parsing

variable {ts rest body body' : List Token} {e e' : Expr}

/-- Nothing is left behind an optional semicolon. -/
theorem dropSemicolon_eq_nil_iff : dropSemicolon rest = [] ↔ IsBody rest [] := by
  constructor
  · intro h
    cases rest with
    | nil => exact Or.inl rfl
    | cons t others =>
      simp only [dropSemicolon] at h
      split at h
      · rename_i hk
        exact Or.inr ⟨t, hk, by rw [h]; rfl⟩
      · cases h
  · rintro (rfl | ⟨semicolon, hk, rfl⟩)
    · rfl
    · simp only [List.nil_append, dropSemicolon, if_pos hk]

/-- An optional semicolon at the end stays where it is when a text is put in front. -/
theorem isBody_append_iff (used : List Token) :
    IsBody (used ++ rest) (used ++ body) ↔ IsBody rest body := by
  simp only [IsBody, List.append_assoc, List.append_cancel_left_eq]

/-- Every phrase stops before an optional semicolon. -/
theorem stops_of_isBody_nil (h : IsBody rest []) (nt : Nonterminal) (e : Expr) :
    Stops nt e rest := by
  rcases h with rfl | ⟨semicolon, hk, rfl⟩
  · exact stops_nil nt e
  · exact stops_cons semicolon [] (by rw [hk]; exact not_mem_reach (by decide) _ _)

/-- The rule for expressions with so many levels of nesting reads the body of a sentence. -/
theorem Sentence.run {limit n : Nat} (h : Sentence limit ts e) (hn : e.nesting ≤ n) :
    ∃ rest, IsBody rest [] ∧ (rule n .expression).run ts = .ok (e, rest) := by
  obtain ⟨body, hbody, hd, -⟩ := h
  rcases hbody with rfl | ⟨semicolon, hk, rfl⟩
  · have hrun := (hd.answers n hn).run (stops_nil .expression e)
    rw [List.append_nil] at hrun
    exact ⟨[], Or.inl rfl, hrun⟩
  · have hrest : IsBody [semicolon] [] := Or.inr ⟨semicolon, hk, rfl⟩
    exact ⟨[semicolon], hrest, (hd.answers n hn).run (stops_of_isBody_nil hrest _ _)⟩

/-- **Reading to the end succeeds exactly on sentences.** -/
theorem complete_eq_ok_iff : (complete ts).1 = .ok e ↔ Sentence maxNesting ts e := by
  constructor
  · intro h
    simp only [complete] at h
    split at h
    · cases h
    · rename_i e' rest hrun
      split at h
      · rename_i hrest
        cases h
        obtain ⟨used, rfl, hd, hn, -⟩ :=
          rule_sound maxNesting .expression (by decide) _ _ _ hrun
        have hbody := (isBody_append_iff used).2 (dropSemicolon_eq_nil_iff.1 hrest)
        exact ⟨used, by simpa using hbody, hd, hn⟩
      · cases h
  · intro h
    obtain ⟨body, hbody, hd, hn⟩ := id h
    obtain ⟨rest, hrest, hrun⟩ := h.run hn
    have hrun' : expression.run ts = .ok (e, rest) := hrun
    simp only [complete, hrun', dropSemicolon_eq_nil_iff.2 hrest]

/-- Reading to the end succeeds on exactly what is a sentence. -/
theorem isOk_complete_iff : (complete ts).1.isOk = true ↔ IsSentence maxNesting ts := by
  constructor
  · intro h
    cases hread : (complete ts).1 with
    | error f =>
      rw [hread] at h
      cases h
    | ok e => exact ⟨e, complete_eq_ok_iff.1 hread⟩
  · rintro ⟨e, h⟩
    rw [complete_eq_ok_iff.2 h]
    rfl

/-- Sentences are told by reading them. -/
instance (ts : List Token) : Decidable (IsSentence maxNesting ts) :=
  decidable_of_iff _ isOk_complete_iff

/-- A sentence has one body and one tree. -/
theorem body_unique (hbody : IsBody ts body) (hd : Derives .expression body e)
    (hbody' : IsBody ts body') (hd' : Derives .expression body' e') : body' = body ∧ e' = e := by
  -- a semicolon that only one of the bodies drops would stand inside of the other
  have same : body' = body := by
    rcases hbody with rfl | ⟨s, hs, rfl⟩ <;> rcases hbody' with h | ⟨s', hs', h⟩
    · exact h.symm
    · have hmem : s' ∈ ts := by
        rw [h]
        exact List.mem_append_right _ (by simp)
      exact absurd (by rw [hs']; decide) (hd.not_mem_strangers s' hmem)
    · have hmem : s ∈ body' := by
        rw [← h]
        exact List.mem_append_right _ (by simp)
      exact absurd (by rw [hs]; decide) (hd'.not_mem_strangers s hmem)
    · exact (List.append_inj_left' h rfl).symm
  subst same
  exact ⟨rfl, hd'.unique hd⟩

/-- **Parsing accepts exactly the sentences.**  The result is a tree without an error if and only if
the tokens before the first end of input are a sentence with this tree.  The grammar has no other
tree for them, and the tree yields these tokens in order. -/
theorem parse_eq_tree_iff (tokens : List Token) (e : Expr) :
    (parse tokens = { tree? := some e } ↔
      Sentence maxNesting (tokens.takeWhile (! ·.isEnd)) e) ∧
    ∀ body, IsBody (tokens.takeWhile (! ·.isEnd)) body → Derives .expression body e →
      body.map Token.mark = e.yield ∧
      ∀ body' e', IsBody (tokens.takeWhile (! ·.isEnd)) body' → Derives .expression body' e' →
        body' = body ∧ e' = e := by
  refine ⟨?_, fun body hbody hd =>
    ⟨hd.map_mark, fun body' e' hbody' hd' => body_unique hbody hd hbody' hd'⟩⟩
  rw [← complete_eq_ok_iff]
  show parse tokens = _ ↔ (complete (Input.ofTokens tokens).tokens).1 = _
  simp only [parse]
  cases (complete (Input.ofTokens tokens).tokens).1 with
  | error f => simp
  | ok e' => simp

end LoxSyntax.Grammar
