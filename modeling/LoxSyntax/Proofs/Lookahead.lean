/-
# What a rule looks at

A rule depends on the tokens that it has read and on the one token ahead, and on nothing behind it.
So its answer stays the same when other tokens follow: with the same token ahead always, and with a
number or nothing ahead wherever only an operator or a closing token would have been read.  More
room for nesting changes nothing either, but for a failure to nest deeper.
-/
import LoxSyntax.Proofs.Reading

namespace LoxSyntax.Grammar

open Parsing

/-! ## Exchanging what lies ahead -/

/-- The second list may stand for the first behind a complete phrase. -/
def StandsIn (rest rest' : List Token) : Prop :=
  rest'.head? = rest.head? ∨ ∀ t ∈ rest'.head?, t.kind = .number

/-- The failure stays where it is when the other tokens are found instead, and when the rule is
replaced by another one; `same` says that this one may nest as deep. -/
def Admits (same : Prop) (f : Failure) (rest' : List Token) : Prop :=
  (rest'.head? = f.found.head? ∧ (f.fault = .tooDeep → same)) ∨
    ((∃ message, f.fault = .missing message) ∧ ∀ t ∈ rest'.head?, t.kind = .number)

/-- Numbers are no operators: the phrase ends before the exchanged tokens too. -/
theorem Stops.of_standsIn {nt : Nonterminal} {e : Expr} {rest rest' : List Token}
    (hs : Stops nt e rest) (h : StandsIn rest rest') : Stops nt e rest' := by
  intro t ht
  rcases h with h | h
  · exact hs t (h ▸ ht)
  · rw [h t ht]
    exact not_mem_reach (by decide) nt e

/-- Behind the same tokens the exchange is no worse. -/
theorem Admits.standsIn {same : Prop} {f : Failure} {rest' : List Token} (h : Admits same f rest')
    (used : List Token) : StandsIn (used ++ f.found) (used ++ rest') := by
  cases used with
  | nil =>
    rcases h with ⟨h, -⟩ | ⟨-, h⟩
    · exact Or.inl h
    · exact Or.inr h
  | cons t others => exact Or.inl rfl

/-- A closing token that is missing stays missing. -/
theorem Admits.ne_kind {same : Prop} {fault : SyntaxFault} {rest rest' : List Token}
    {kind : Token.Kind} (h : Admits same ⟨fault, rest⟩ rest') (hk : kind ≠ .number)
    (hrest : ∀ t ∈ rest.head?, t.kind ≠ kind) : ∀ t ∈ rest'.head?, t.kind ≠ kind := by
  intro t ht
  rcases h with ⟨h, -⟩ | ⟨-, h⟩
  · exact hrest t (h ▸ ht)
  · rw [h t ht]
    exact hk.symm

/-- With an unexpected token ahead the same token must be ahead. -/
theorem Admits.head_eq {same : Prop} {f : Failure} {rest' : List Token} (h : Admits same f rest')
    (hf : ∀ message, f.fault ≠ .missing message) :
    rest'.head? = f.found.head? ∧ (f.fault = .tooDeep → same) := by
  rcases h with h | ⟨⟨message, hm⟩, -⟩
  · exact h
  · exact absurd hm (hf message)

/-! ## Rules that repeat each other -/

/-- The second rule answers like the first one, whatever lies behind the token ahead. -/
structure Repeats (same : Prop) (r r' : Rule) : Prop where
  ok : ∀ tokens e rest, r.run tokens = .ok (e, rest) →
    ∃ used, tokens = used ++ rest ∧
      ∀ rest', StandsIn rest rest' → r'.run (used ++ rest') = .ok (e, rest')
  error : ∀ tokens f, r.run tokens = .error f →
    ∃ used, tokens = used ++ f.found ∧
      ∀ rest', Admits same f rest' → r'.run (used ++ rest') = .error ⟨f.fault, rest'⟩

variable {n m : Nat} {same : Prop} {operand operand' branch branch' : Rule}

/-- With more room for nesting a rule succeeds as before. -/
theorem rule_repeats_ok (hnm : n ≤ m) (nt : Nonterminal) (hnt : nt ≠ .primary)
    {tokens rest : List Token} {e : Expr} (h : (rule n nt).run tokens = .ok (e, rest)) :
    ∃ used, tokens = used ++ rest ∧
      ∀ rest', StandsIn rest rest' → (rule m nt).run (used ++ rest') = .ok (e, rest') := by
  obtain ⟨used, rfl, hd, hn, hs⟩ := (rule_run_eq_ok_iff hnt).1 h
  refine ⟨used, rfl, fun rest' hrest' => (rule_run_eq_ok_iff hnt).2 ?_⟩
  exact ⟨used, rfl, hd, Nat.le_trans hn hnm, hs.of_standsIn hrest'⟩

/-- A chain fails again where it failed. -/
theorem chainFrom_repeats (hop : Repeats same operand operand') {operators : List Token.Kind}
    {left : Expr} {tokens : List Token} {f : Failure}
    (h : chainFrom operand operators left tokens = .error f) :
    ∃ used, tokens = used ++ f.found ∧ ∀ rest', Admits same f rest' →
      chainFrom operand' operators left (used ++ rest') = .error ⟨f.fault, rest'⟩ := by
  fun_induction chainFrom operand operators left tokens with
  | case1 left => cases h
  | case2 left t others hk g run =>
    cases h
    obtain ⟨used, rfl, hagain⟩ := hop.error _ _ run
    refine ⟨t :: used, rfl, fun rest' hrest' => ?_⟩
    exact chainFrom_of_fail (by simpa using hk) (hagain rest' hrest')
  | case3 left t others hk right after run ih =>
    obtain ⟨used, rfl, hagain⟩ := hop.ok _ _ _ run
    obtain ⟨behind, rfl, hbehind⟩ := ih h
    refine ⟨t :: (used ++ behind), by simp, fun rest' hrest' => ?_⟩
    -- what is behind the operand starts with the same token, or the exchange happens right there
    have hright := hagain (behind ++ rest') (hrest'.standsIn behind)
    rw [List.cons_append, List.append_assoc, chainFrom_of_link (by simpa using hk) hright]
    exact hbehind rest' hrest'
  | case4 left t others hk => cases h

/-- A level fails again where it failed. -/
theorem chain_repeats_error (hop : Repeats same operand operand') {operators : List Token.Kind}
    {tokens : List Token} {f : Failure} (h : (chain operand operators).run tokens = .error f) :
    ∃ used, tokens = used ++ f.found ∧ ∀ rest', Admits same f rest' →
      (chain operand' operators).run (used ++ rest') = .error ⟨f.fault, rest'⟩ := by
  rcases chain_run_error h with hrun | ⟨left, after, hrun, hchain⟩
  · obtain ⟨used, rfl, hagain⟩ := hop.error _ _ hrun
    exact ⟨used, rfl, fun rest' hrest' => chain_run_of_error (hagain rest' hrest')⟩
  · obtain ⟨used, rfl, hagain⟩ := hop.ok _ _ _ hrun
    obtain ⟨behind, rfl, hbehind⟩ := chainFrom_repeats hop hchain
    refine ⟨used ++ behind, by simp, fun rest' hrest' => ?_⟩
    rw [List.append_assoc, chain_run_of_ok (hagain _ (hrest'.standsIn behind))]
    exact hbehind rest' hrest'

/-- The branches of a conditional fail again where they failed. -/
theorem branches_repeats (hb : Repeats same branch branch') {condition : Expr}
    {tokens : List Token} {f : Failure} (h : branches branch condition tokens = .error f) :
    ∃ used, tokens = used ++ f.found ∧ ∀ rest', Admits same f rest' →
      branches branch' condition (used ++ rest') = .error ⟨f.fault, rest'⟩ := by
  rcases branches_eq_error_iff.1 h with
    hfirst | ⟨first, after, hfirst, rfl, hk⟩ | ⟨first, colon, after, hfirst, hk, hsecond⟩
  · obtain ⟨used, rfl, hagain⟩ := hb.error _ _ hfirst
    exact ⟨used, rfl, fun rest' hrest' =>
      branches_eq_error_iff.2 (Or.inl (hagain rest' hrest'))⟩
  · obtain ⟨used, rfl, hagain⟩ := hb.ok _ _ _ hfirst
    -- a number in the place of the colon is missing the colon as well
    refine ⟨used, rfl, fun rest' hrest' => branches_eq_error_iff.2 (Or.inr (Or.inl ?_))⟩
    exact ⟨first, rest', hagain rest' (hrest'.standsIn []), rfl, hrest'.ne_kind (by decide) hk⟩
  · obtain ⟨used, rfl, hagain⟩ := hb.ok _ _ _ hfirst
    obtain ⟨behind, rfl, hbehind⟩ := hb.error _ _ hsecond
    refine ⟨used ++ colon :: behind, by simp, fun rest' hrest' =>
      branches_eq_error_iff.2 (Or.inr (Or.inr ?_))⟩
    refine ⟨first, colon, behind ++ rest', ?_, hk, hbehind rest' hrest'⟩
    rw [List.append_assoc, List.cons_append]
    exact hagain _ (hrest'.standsIn (colon :: behind))

/-- A conditional fails again where it failed. -/
theorem conditional_repeats_error (hb : Repeats same branch branch') {tokens : List Token}
    {f : Failure} (h : (conditional branch).run tokens = .error f) :
    ∃ used, tokens = used ++ f.found ∧ ∀ rest', Admits same f rest' →
      (conditional branch').run (used ++ rest') = .error ⟨f.fault, rest'⟩ := by
  rcases conditional_run_error h with hrun | ⟨condition, t, after, hrun, hk, hbranches⟩
  · obtain ⟨used, rfl, hagain⟩ := hb.error _ _ hrun
    exact ⟨used, rfl, fun rest' hrest' => conditional_run_of_error (hagain rest' hrest')⟩
  · obtain ⟨used, rfl, hagain⟩ := hb.ok _ _ _ hrun
    obtain ⟨behind, rfl, hbehind⟩ := branches_repeats hb hbranches
    refine ⟨used ++ t :: behind, by simp, fun rest' hrest' => ?_⟩
    have hcondition := hagain (t :: (behind ++ rest')) (hrest'.standsIn (t :: behind))
    rw [List.append_assoc, List.cons_append, conditional_run_of_question hcondition hk]
    exact hbehind rest' hrest'

/-- An expression in parentheses fails again where it failed. -/
theorem parenthesized_repeats (he : Repeats same (expressionOf operand) (expressionOf operand'))
    {tokens : List Token} {f : Failure} (h : parenthesized operand tokens = .error f) :
    ∃ used, tokens = used ++ f.found ∧ ∀ rest', Admits same f rest' →
      parenthesized operand' (used ++ rest') = .error ⟨f.fault, rest'⟩ := by
  rcases parenthesized_eq_error_iff.1 h with hbody | ⟨body, after, hbody, rfl, hk⟩
  · obtain ⟨used, rfl, hagain⟩ := he.error _ _ hbody
    exact ⟨used, rfl, fun rest' hrest' =>
      parenthesized_eq_error_iff.2 (Or.inl (hagain rest' hrest'))⟩
  · obtain ⟨used, rfl, hagain⟩ := he.ok _ _ _ hbody
    refine ⟨used, rfl, fun rest' hrest' => parenthesized_eq_error_iff.2 (Or.inr ?_)⟩
    exact ⟨body, rest', hagain rest' (hrest'.standsIn []), rfl, hrest'.ne_kind (by decide) hk⟩

/-! ## The rules of the grammar -/

/-- Levels and conditionals repeat themselves if operands do. -/
theorem rule_repeats_of_unary (hnm : n ≤ m) (hop : Repeats same (unary n) (unary m))
    (nt : Nonterminal) (hnt : nt ≠ .primary) : Repeats same (rule n nt) (rule m nt) := by
  refine ⟨fun _ _ _ => rule_repeats_ok hnm nt hnt, ?_⟩
  induction nt using Nonterminal.byPrecedence with
  | primary => exact absurd rfl hnt
  | unary => exact hop.error
  | chain level ih =>
    have hoperand := level.operand_ne_primary
    intro tokens f h
    rw [rule_chain] at h ⊢
    exact chain_repeats_error ⟨fun _ _ _ => rule_repeats_ok hnm _ hoperand, ih hoperand⟩ h
  | ternary ih =>
    exact fun _ _ => conditional_repeats_error
      ⟨fun _ _ _ => rule_repeats_ok hnm _ (by decide), ih (by decide)⟩
  | expression ih => exact ih (by decide)

/-- Operands repeat themselves if those one level deeper do. -/
theorem unary_repeats_of_inner (hnm : n ≤ m) (hsame : same → n = m)
    (hinner : ∀ k l, n = k + 1 → m = l + 1 → Repeats same (unary k) (unary l)) :
    Repeats same (unary n) (unary m) := by
  refine ⟨fun _ _ _ => rule_repeats_ok hnm .unary (by decide), fun tokens f h => ?_⟩
  cases tokens with
  | nil =>
    rw [unary_run_nil] at h
    cases h
    refine ⟨[], rfl, fun rest' hrest' => ?_⟩
    obtain ⟨hhead, -⟩ := hrest'.head_eq (by simp)
    rw [List.head?_eq_none_iff.1 hhead]
    exact unary_run_nil m
  | cons t others =>
    rcases unary_run_cases n t others with ⟨v, hv, hrun⟩ | ⟨k, rfl, hk, hrun⟩ |
      ⟨k, rfl, hk, hrun⟩ | ⟨rfl, hk, hrun⟩ | ⟨hl, hk, hrun⟩ <;> rw [hrun] at h
    · cases h
    · obtain ⟨l, rfl⟩ : ∃ l, m = l + 1 := ⟨m - 1, by omega⟩
      obtain ⟨used, rfl, hagain⟩ :=
        (hinner k l rfl rfl).error _ _ (negated_eq_error_iff.1 h)
      refine ⟨t :: used, rfl, fun rest' hrest' => ?_⟩
      rw [List.cons_append, unary_run_of_negation hk]
      exact negated_eq_error_iff.2 (hagain rest' hrest')
    · obtain ⟨l, rfl⟩ : ∃ l, m = l + 1 := ⟨m - 1, by omega⟩
      have hbody := rule_repeats_of_unary (Nat.le_of_succ_le_succ hnm) (hinner k l rfl rfl)
        .expression (by decide)
      obtain ⟨used, rfl, hagain⟩ := parenthesized_repeats hbody h
      refine ⟨t :: used, rfl, fun rest' hrest' => ?_⟩
      rw [List.cons_append, unary_run_of_opening hk]
      exact hagain rest' hrest'
    · cases h
      refine ⟨[], rfl, fun rest' hrest' => ?_⟩
      obtain ⟨hhead, hdeep⟩ := hrest'.head_eq (by simp)
      obtain ⟨more, rfl⟩ := List.head?_eq_some_iff.1 hhead
      -- a wider limit would let the second rule go on, so this case needs the same one
      obtain rfl := hsame (hdeep rfl)
      exact unary_run_of_limit hk more
    · cases h
      refine ⟨[], rfl, fun rest' hrest' => ?_⟩
      obtain ⟨hhead, -⟩ := hrest'.head_eq (by simp)
      obtain ⟨more, rfl⟩ := List.head?_eq_some_iff.1 hhead
      exact unary_run_of_stray hl hk m more

/-- Operands repeat themselves at every depth of nesting. -/
theorem unary_repeats (hnm : n ≤ m) (hsame : same → n = m) :
    Repeats same (unary n) (unary m) := by
  induction n generalizing m with
  | zero =>
    apply unary_repeats_of_inner hnm hsame
    intro k l hk
    cases hk
  | succ n ih =>
    apply unary_repeats_of_inner hnm hsame
    intro k l hk hl
    cases hk
    subst hl
    exact ih (Nat.le_of_succ_le_succ hnm) (fun h => Nat.succ.inj (hsame h))

/-- **A rule repeats its answer** when the tokens behind the one ahead are exchanged and there is no
less room for nesting. -/
theorem rule_repeats (hnm : n ≤ m) (hsame : same → n = m) (nt : Nonterminal)
    (hnt : nt ≠ .primary) : Repeats same (rule n nt) (rule m nt) :=
  rule_repeats_of_unary hnm (unary_repeats hnm hsame) nt hnt

end LoxSyntax.Grammar
