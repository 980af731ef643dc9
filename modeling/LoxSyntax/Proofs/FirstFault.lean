/-
# Where an error is reported

Parsing names the first token that cannot be right: the tokens before it start a sentence, and with
it they start none.  The code of the error says why, in terms of the sentences alone.
-/
import LoxSyntax.Proofs.Acceptance
import LoxSyntax.Proofs.Lookahead
import LoxSyntax.Proofs.Viability

namespace LoxSyntax.Grammar

open Parsing

variable {n limit : Nat} {ts used rest more : List Token} {t : Token} {e : Expr} {f : Failure}

/-! ## Sentences and their starts -/

/-- A sentence holds no end of input. -/
theorem Sentence.not_isEnd (h : Sentence limit ts e) : ∀ t ∈ ts, t.isEnd = false := by
  intro t ht
  have hkind : t.kind ≠ .endOfInput := by
    obtain ⟨body, rfl | ⟨semicolon, hk, rfl⟩, hd, -⟩ := h
    · exact fun hk => hd.not_mem_strangers t ht (by rw [hk]; decide)
    · rcases List.mem_append.1 ht with ht | ht
      · exact fun hk => hd.not_mem_strangers t ht (by rw [hk]; decide)
      · rw [List.mem_singleton.1 ht, hk]
        decide
  simpa [Token.isEnd] using hkind

/-- What starts an expression starts a sentence. -/
theorem Completes.isViable (h : Completes n .expression ts) : IsViable n ts := by
  obtain ⟨more, e, hd, hn⟩ := h
  exact ⟨more, e, ts ++ more, Or.inl rfl, hd, hn⟩

theorem IsViable.of_append (h : IsViable limit (ts ++ more)) : IsViable limit ts := by
  obtain ⟨behind, h⟩ := h
  exact ⟨more ++ behind, by rwa [← List.append_assoc]⟩

theorem IsViable.not_isEnd (h : IsViable limit ts) : ∀ t ∈ ts, t.isEnd = false := by
  obtain ⟨more, e, hsentence⟩ := h
  exact fun t ht => hsentence.not_isEnd t (List.mem_append_left more ht)

/-- Nothing starts a sentence that reading to the end rejects, whatever follows and however deep the
nesting may go. -/
theorem not_isViable_of_run
    (h : ∀ more e rest,
      (rule (max maxNesting limit) .expression).run (used ++ more) = .ok (e, rest) →
        ¬ IsBody rest []) : ¬ IsViable limit used := by
  rintro ⟨more, e, hsentence⟩
  -- the sentence may nest deeper than parsing allows, but not deeper than this rule
  obtain ⟨body, -, -, hn⟩ := id hsentence
  obtain ⟨rest, hrest, hrun⟩ := hsentence.run (Nat.le_trans hn (Nat.le_max_right maxNesting limit))
  exact h more e rest hrun hrest

/-- An optional semicolon stands in front of what is left. -/
theorem dropSemicolon_eq_cons {after : List Token} (h : dropSemicolon rest = t :: after) :
    ∃ before, rest = before ++ t :: after ∧ IsBody before [] ∧
      ∀ more, ¬ IsBody (before ++ t :: more) [] := by
  cases rest with
  | nil => cases h
  | cons s others =>
    simp only [dropSemicolon] at h
    split at h
    · rename_i hk
      subst h
      refine ⟨[s], rfl, Or.inr ⟨s, hk, rfl⟩, ?_⟩
      rintro more (hbody | ⟨semicolon, -, hbody⟩) <;> cases hbody
    · rename_i hk
      cases h
      refine ⟨[], rfl, Or.inl rfl, ?_⟩
      rintro more (hbody | ⟨semicolon, hs, hbody⟩)
      · cases hbody
      · cases hbody
        exact hk hs

/-! ## Failures and their places -/

/-- What is known of the tokens before a failure, and of the token found there. -/
structure Located (used : List Token) (f : Failure) : Prop where
  before : IsViable maxNesting used
  here : ∀ t ∈ f.found.head?, ¬ IsViable maxNesting (used ++ [t])
  found : f.fault = .trailing → f.found ≠ []
  trailing : f.fault = .trailing ↔ IsSentence maxNesting used
  tooDeep : f.fault = .tooDeep ↔ ∃ t ∈ f.found.head?, ∃ limit, IsViable limit (used ++ [t])
  operand : f.fault = .noExpression →
    ∀ t, t.kind = .number → IsViable maxNesting (used ++ [t])
  missing : (∃ message, f.fault = .missing message) →
    ∀ t, t.kind = .number → ¬ IsViable maxNesting (used ++ [t])

/-- A failure of the rule for expressions is a failure under every limit that it admits. -/
theorem not_isViable_of_error (hrun : expression.run (used ++ f.found) = .error f)
    (h : ∀ more, Admits (maxNesting = max maxNesting limit) f (t :: more)) :
    ¬ IsViable limit (used ++ [t]) := by
  have hrepeats := rule_repeats (Nat.le_max_left maxNesting limit) id .expression (by decide)
  obtain ⟨used', hused, hagain⟩ := hrepeats.error _ f hrun
  obtain rfl := List.append_cancel_right hused
  apply not_isViable_of_run
  intro more e rest hok
  have herror := hagain (t :: more) (h more)
  rw [List.append_assoc, List.singleton_append, herror] at hok
  cases hok

/-- Where a terminator goes on to a sentence, there is no sentence yet. -/
theorem not_isSentence_of_terminator (ht : t.kind ∈ terminators)
    (h : Completes n .expression (used ++ [t])) : ¬ IsSentence maxNesting used := by
  rintro ⟨e, body, hbody, hd, hn⟩
  obtain ⟨more, e', hd', hn'⟩ := h
  -- one rule reads both phrases, and it cannot both stop before the terminator and go on over it
  rcases hbody with rfl | ⟨semicolon, hk, rfl⟩
  · have hstop : Stops .expression e (t :: more) := stops_cons t more (not_mem_reach ht _ _)
    have hrun := (hd.answers (max e.nesting e'.nesting) (Nat.le_max_left _ _)).run hstop
    have hrun' := (hd'.answers (max e.nesting e'.nesting) (Nat.le_max_right _ _)).run
      (stops_nil .expression e')
    rw [List.append_nil, List.append_assoc, List.singleton_append, hrun] at hrun'
    cases hrun'
  · refine hd'.not_mem_strangers semicolon (by simp) ?_
    rw [hk]
    decide

/-- A failure of the rule for expressions is where it should be. -/
theorem located_of_run (hrun : expression.run ts = .error f) :
    ∃ used, ts = used ++ f.found ∧ Located used f := by
  obtain ⟨used, rfl, hblames⟩ := expression_fails maxNesting ts f hrun
  obtain ⟨kind, hmem, hkind, hwanted⟩ := hblames.wanted
  have hsame : maxNesting = max maxNesting maxNesting := (Nat.max_self maxNesting).symm
  have hsample := hwanted (sample kind) (kind_sample kind)
  refine ⟨used, rfl, ?_, ?_, ?_, ?_, ?_, ?_, ?_⟩
  · exact hsample.isViable.of_append
  -- the rule fails at the token found whatever is behind it
  · intro t ht
    exact not_isViable_of_error hrun (fun more => Or.inl ⟨ht.symm, fun _ => hsame⟩)
  · exact fun hf => absurd hf hblames.inside
  · constructor
    · exact fun hf => absurd hf hblames.inside
    · refine fun hs => absurd hs (not_isSentence_of_terminator ?_ hsample)
      revert hmem
      cases kind <;> simp [sample, terminators]
  · constructor
    · intro hf
      obtain ⟨t, ht, m, hm⟩ := hblames.deeper hf
      exact ⟨t, ht, m, hm.isViable⟩
    · rintro ⟨t, ht, limit, hviable⟩
      by_contra hf
      exact not_isViable_of_error hrun (fun more => Or.inl ⟨ht.symm, fun h => absurd h hf⟩) hviable
  · intro hf t ht
    exact (hwanted t (ht.trans (hkind.2 (by simp [hf])).symm)).isViable
  -- a number in place of the missing token is not wanted either
  · intro hf t ht
    refine not_isViable_of_error hrun (fun more => Or.inr ⟨hf, ?_⟩)
    rintro _ ⟨⟩
    exact ht

/-- What is left behind an expression is found where it should be. -/
theorem located_of_trailing {after : List Token} (hrun : expression.run ts = .ok (e, rest))
    (hrest : dropSemicolon rest = t :: after) :
    ∃ used, ts = used ++ t :: after ∧ Located used ⟨.trailing, t :: after⟩ := by
  obtain ⟨before, rfl, hbefore, hbehind⟩ := dropSemicolon_eq_cons hrest
  obtain ⟨body, rfl, hd, hn, -⟩ := rule_sound maxNesting .expression (by decide) _ _ _ hrun
  have hsentence : IsSentence maxNesting (body ++ before) :=
    ⟨e, body, by simpa using (isBody_append_iff body).2 hbefore, hd, hn⟩
  have hhere : ∀ limit, ¬ IsViable limit ((body ++ before) ++ [t]) := by
    intro limit
    apply not_isViable_of_run
    intro more e' rest' hok hbody
    obtain ⟨body', hbody', hagain⟩ := rule_repeats_ok (Nat.le_max_left maxNesting limit) .expression
      (by decide) hrun
    obtain rfl := List.append_cancel_right hbody'
    have hstand : StandsIn (before ++ t :: after) (before ++ t :: more) := by
      cases before with
      | nil => exact Or.inl rfl
      | cons s others => exact Or.inl rfl
    have hok' := hagain _ hstand
    simp only [List.append_assoc, List.singleton_append, hok'] at hok
    cases hok
    exact hbehind more hbody
  refine ⟨body ++ before, by simp, ?_, ?_, ?_, ?_, ?_, ?_, ?_⟩
  · exact ⟨[], by simpa using hsentence⟩
  · rintro _ ⟨⟩
    exact hhere maxNesting
  · simp
  · exact iff_of_true rfl hsentence
  · refine iff_of_false (by simp) ?_
    rintro ⟨_, ⟨⟩, limit, hviable⟩
    exact hhere limit hviable
  · exact fun hf => by cases hf
  · rintro ⟨message, hf⟩
    cases hf

/-- **Reading to the end fails where it should.** -/
theorem located_of_complete (h : (complete ts).1 = .error f) :
    ∃ used, ts = used ++ f.found ∧ Located used f := by
  simp only [complete] at h
  split at h
  · rename_i g hrun
    cases h
    exact located_of_run hrun
  · rename_i e rest hrun
    split at h
    · cases h
    · rename_i t after hrest
      cases h
      exact located_of_trailing hrun hrest

/-! ## Errors and their tokens -/

/-- Only the end of the input is placed at the end. -/
theorem place_eq_atEnd_iff : t.place = "at end" ↔ t.isEnd = true := by
  unfold Token.place
  split
  · rename_i h
    exact iff_of_true rfl h
  · rename_i h
    refine iff_of_false (fun hplace => ?_) h
    change "at '" ++ t.lexeme ++ "'" = "at end" at hplace
    have hletters := congrArg String.toList hplace
    simp [String.toList_append] at hletters

/-- The tokens of an input do not end it. -/
theorem not_isEnd_of_mem_input (tokens : List Token) :
    ∀ t ∈ (Input.ofTokens tokens).tokens, t.isEnd = false := by
  intro t ht
  simpa using List.all_eq_true.1 List.all_takeWhile t ht

/-- The ending of an input ends it. -/
theorem isEnd_ending (tokens : List Token) : (Input.ofTokens tokens).ending.isEnd = true := by
  have hhead := List.head?_dropWhile_not (! ·.isEnd) tokens
  simp only [Input.ofTokens]
  cases h : (tokens.dropWhile (! ·.isEnd)).head? with
  | none => rfl
  | some t => simpa [h] using hhead

/-- What an error says, read at the position of its token: the position is the first one that cannot
be right, it is the end of the input if the tokens lack something only, and the code tells what is
wrong in terms of the sentences. -/
structure FirstFault (ts : List Token) (ending : Token) (p : Nat) (error : SyntaxError) :
    Prop where
  token : (ts ++ [ending])[p]? = some error.token
  before : IsViable maxNesting (ts.take p)
  here : ¬ IsViable maxNesting (ts.take p ++ [error.token])
  atEnd : p = ts.length ↔ ∃ more, more ≠ [] ∧ IsSentence maxNesting (ts ++ more)
  place : error.token.place = "at end" ↔ ∃ more, more ≠ [] ∧ IsSentence maxNesting (ts ++ more)
  trailing : error.code? = some "P003" ↔ IsSentence maxNesting (ts.take p)
  tooDeep : error.code? = some "P004" ↔
    p < ts.length ∧ ∃ limit, IsViable limit (ts.take (p + 1))
  operand : error.code? ≠ some "P003" → error.code? ≠ some "P004" →
    ∀ number, number.kind = Token.Kind.number →
      (error.code? = some "P002" ↔ IsViable maxNesting (ts.take p ++ [number])) ∧
        (error.code? = some "P001" ↔ ¬ IsViable maxNesting (ts.take p ++ [number]))

/-- Without a sentence, nothing is found exactly if the tokens lack something only. -/
theorem Located.found_eq_nil_iff (h : Located used f)
    (hbad : ¬ IsSentence maxNesting (used ++ f.found)) :
    f.found = [] ↔ ∃ more, more ≠ [] ∧ IsSentence maxNesting ((used ++ f.found) ++ more) := by
  constructor
  · intro hnil
    rw [hnil, List.append_nil] at hbad ⊢
    obtain ⟨more, hmore⟩ := h.before
    refine ⟨more, ?_, hmore⟩
    rintro rfl
    rw [List.append_nil] at hmore
    exact hbad hmore
  · rintro ⟨more, -, hmore⟩
    by_contra hne
    obtain ⟨t, rest, hcons⟩ := List.exists_cons_of_ne_nil hne
    rw [hcons] at hmore
    refine h.here t (by rw [hcons]; rfl) ⟨rest ++ more, ?_⟩
    simpa using hmore

/-- The code of trailing input is its own. -/
theorem code_eq_trailing_iff {fault : SyntaxFault} :
    (fault.at t).code? = some "P003" ↔ fault = .trailing := by
  cases fault <;> simp [SyntaxFault.at, SyntaxFault.code]

theorem code_eq_tooDeep_iff {fault : SyntaxFault} :
    (fault.at t).code? = some "P004" ↔ fault = .tooDeep := by
  cases fault <;> simp [SyntaxFault.at, SyntaxFault.code]

/-- The two codes that are left tell whether an expression could stand here. -/
theorem Located.operand_iff (h : Located used f) (htrailing : f.fault ≠ .trailing)
    (hdeep : f.fault ≠ .tooDeep) {number : Token} (hnumber : number.kind = .number) :
    ((f.fault.at t).code? = some "P002" ↔ IsViable maxNesting (used ++ [number])) ∧
      ((f.fault.at t).code? = some "P001" ↔ ¬ IsViable maxNesting (used ++ [number])) := by
  obtain ⟨fault, found⟩ := f
  cases fault with
  | missing message =>
    have hnot := h.missing ⟨message, rfl⟩ number hnumber
    simp [SyntaxFault.at, SyntaxFault.code, hnot]
  | noExpression =>
    have hviable := h.operand rfl number hnumber
    simp [SyntaxFault.at, SyntaxFault.code, hviable]
  | trailing => exact absurd rfl htrailing
  | tooDeep => exact absurd rfl hdeep

/-- The error of a located failure is at the first fault. -/
theorem Located.firstFault {ending : Token} (h : Located used f)
    (hts : ∀ t ∈ used ++ f.found, t.isEnd = false) (hending : ending.isEnd = true)
    (hbad : ¬ IsSentence maxNesting (used ++ f.found)) :
    FirstFault (used ++ f.found) ending used.length (f.fault.at (f.found.head?.getD ending)) := by
  have hlacks := h.found_eq_nil_iff hbad
  have htake : (used ++ f.found).take used.length = used := List.take_left
  refine ⟨?_, ?_, ?_, ?_, ?_, ?_, ?_, ?_⟩
  · rcases f.found with _ | ⟨t, rest⟩ <;> simp [SyntaxFault.at]
  · rw [htake]
    exact h.before
  · rw [htake]
    rcases hfound : f.found with _ | ⟨t, rest⟩
    · intro hviable
      have hnot := hviable.not_isEnd ending (by simp [SyntaxFault.at])
      rw [hending] at hnot
      cases hnot
    · exact h.here t (by rw [hfound]; rfl)
  · rw [← hlacks, List.length_append, Nat.left_eq_add, List.length_eq_zero_iff]
  · rw [← hlacks, place_eq_atEnd_iff]
    rcases hfound : f.found with _ | ⟨t, rest⟩
    · exact iff_of_true hending rfl
    · have hnot := hts t (by simp [hfound])
      exact iff_of_false (by simp [SyntaxFault.at, hnot]) (List.cons_ne_nil t rest)
  · rw [htake, code_eq_trailing_iff, h.trailing]
  · rw [code_eq_tooDeep_iff, h.tooDeep]
    rcases hfound : f.found with _ | ⟨t, rest⟩
    · simp
    · have htake' : (used ++ t :: rest).take (used.length + 1) = used ++ [t] := by
        rw [List.take_append, List.take_of_length_le (Nat.le_succ _), Nat.add_sub_cancel_left]
        rfl
      simp [htake']
  · rw [htake, Ne, Ne, code_eq_trailing_iff, code_eq_tooDeep_iff]
    exact fun htrailing hdeep number => h.operand_iff htrailing hdeep

/-- **Errors are reported at the first token that cannot be right.**  If the tokens before the first
end of input are no sentence, parsing records one error, and it is at the first fault. -/
theorem parse_error_first_fault (tokens : List Token)
    (hbad : ¬ IsSentence maxNesting (tokens.takeWhile (! ·.isEnd))) :
    ∃ p error, parse tokens = { tree? := none, syntactic := [error] } ∧
      FirstFault (tokens.takeWhile (! ·.isEnd)) (Input.ofTokens tokens).ending p error := by
  cases hcomplete : (complete (Input.ofTokens tokens).tokens).1 with
  | ok e => exact absurd ⟨e, complete_eq_ok_iff.1 hcomplete⟩ hbad
  | error f =>
    obtain ⟨used, hused, hlocated⟩ := located_of_complete hcomplete
    have hts := not_isEnd_of_mem_input tokens
    have hfirst := hlocated.firstFault (hused ▸ hts) (isEnd_ending tokens) (hused ▸ hbad)
    rw [← hused] at hfirst
    refine ⟨used.length, _, ?_, hfirst⟩
    simp only [parse, hcomplete]
    rfl

/-- A group of two numbers that is not closed has its first fault. -/
theorem parse_error_open_group :
    let tokens := [sample .leftParen, sample .number, sample .number]
    ¬ IsSentence maxNesting (tokens.takeWhile (! ·.isEnd)) ∧
      ∃ p error, parse tokens = { tree? := none, syntactic := [error] } ∧
        FirstFault (tokens.takeWhile (! ·.isEnd)) (Input.ofTokens tokens).ending p error :=
  ⟨by decide +kernel, parse_error_first_fault _ (by decide +kernel)⟩

end LoxSyntax.Grammar
