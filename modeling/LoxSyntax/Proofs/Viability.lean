/-
# Phrases that have been started

When a rule fails, what it has read so far starts a phrase of its nonterminal.  A missing token or
a number completes it further, according to the fault; and where the nesting is at its limit, the
token at fault would complete it further under a wider one.
-/
import LoxSyntax.Proofs.Reading

namespace LoxSyntax.Grammar

open Parsing

/-! ## Starts of phrases -/

/-- The tokens start a phrase of the nonterminal that fits the nesting. -/
def Completes (n : Nat) (nt : Nonterminal) (ts : List Token) : Prop :=
  ∃ more e, Derives nt (ts ++ more) e ∧ e.nesting ≤ n

variable {n m : Nat} {nt : Nonterminal} {level : Level} {ts : List Token}

/-- Some token of a kind. -/
def sample (kind : Token.Kind) : Token := ⟨kind, "", .nil, 1⟩

theorem kind_sample (kind : Token.Kind) : (sample kind).kind = kind := rfl

/-- A number is a phrase of every nonterminal. -/
theorem derives_number {t : Token} (ht : t.kind = .number) (nt : Nonterminal) :
    Derives nt [t] (.literal t.literal) := by
  induction nt using Nonterminal.byPrecedence with
  | primary => exact .constant (Or.inl ht)
  | unary h => exact .primary h
  | chain level h => exact .operand h
  | ternary h => exact .plain h
  | expression h => exact .expression h

theorem completes_number (n : Nat) (nt : Nonterminal) {t : Token} (ht : t.kind = .number) :
    Completes n nt [t] :=
  ⟨[], _, derives_number ht nt, Nat.zero_le n⟩

theorem Completes.mono (h : Completes n nt ts) (hnm : n ≤ m) : Completes m nt ts := by
  obtain ⟨more, e, hd, hn⟩ := h
  exact ⟨more, e, hd, Nat.le_trans hn hnm⟩

theorem Completes.operand (h : Completes n level.operand ts) : Completes n (.chain level) ts := by
  obtain ⟨more, e, hd, hn⟩ := h
  exact ⟨more, e, .operand hd, hn⟩

/-- A further operand of a chain. -/
theorem Completes.link {ls : List Token} {l : Expr} {operator : Token}
    (hl : Derives (.chain level) ls l) (hn : l.nesting ≤ n) (ho : operator.kind ∈ level.operators)
    (h : Completes n level.operand ts) : Completes n (.chain level) (ls ++ operator :: ts) := by
  obtain ⟨more, e, hd, hen⟩ := h
  refine ⟨more, .binary l operator e, ?_, Nat.max_le.2 ⟨hn, hen⟩⟩
  rw [List.append_assoc, List.cons_append]
  exact .link hl ho hd

theorem Completes.condition (h : Completes n (.chain .equality) ts) : Completes n .ternary ts := by
  obtain ⟨more, e, hd, hn⟩ := h
  exact ⟨more, e, .plain hd, hn⟩

section Branches

variable {cs : List Token} {c : Expr} {question : Token}
  (hc : Derives (.chain .equality) cs c) (hn : c.nesting ≤ n) (hq : question.kind = .question)

include hc hn hq

/-- The first branch of a conditional. -/
theorem Completes.thenBranch (h : Completes n (.chain .equality) ts) :
    Completes n .ternary (cs ++ question :: ts) := by
  obtain ⟨more, e, hd, hen⟩ := h
  have hd' := Derives.conditional hc hq hd (kind_sample .colon)
    (derives_number (kind_sample .number) (.chain .equality))
  refine ⟨more ++ sample .colon :: [sample .number],
    .ternary c e (.literal (sample .number).literal), ?_,
    Nat.max_le.2 ⟨hn, Nat.max_le.2 ⟨hen, Nat.zero_le n⟩⟩⟩
  simpa using hd'

/-- The second branch of a conditional. -/
theorem Completes.elseBranch {bs : List Token} {b : Expr} {colon : Token}
    (hb : Derives (.chain .equality) bs b) (hbn : b.nesting ≤ n) (hk : colon.kind = .colon)
    (h : Completes n (.chain .equality) ts) :
    Completes n .ternary (cs ++ question :: (bs ++ colon :: ts)) := by
  obtain ⟨more, e, hd, hen⟩ := h
  have hd' := Derives.conditional hc hq hb hk hd
  refine ⟨more, .ternary c b e, ?_, Nat.max_le.2 ⟨hn, Nat.max_le.2 ⟨hbn, hen⟩⟩⟩
  simpa using hd'

/-- The colon of a conditional. -/
theorem completes_colon {bs : List Token} {b : Expr} {colon : Token}
    (hb : Derives (.chain .equality) bs b) (hbn : b.nesting ≤ n) (hk : colon.kind = .colon) :
    Completes n .ternary (cs ++ question :: (bs ++ [colon])) := by
  have h := Completes.elseBranch hc hn hq hb hbn hk
    (completes_number n (.chain .equality) (kind_sample .number))
  obtain ⟨more, e, hd, hen⟩ := h
  refine ⟨sample .number :: more, e, ?_, hen⟩
  simpa using hd

end Branches

theorem Completes.negation {operator : Token} (ho : operator.kind = .bang ∨ operator.kind = .minus)
    (h : Completes n .unary ts) : Completes (n + 1) .unary (operator :: ts) := by
  obtain ⟨more, e, hd, hn⟩ := h
  exact ⟨more, .unary operator e, .negation ho hd, Nat.succ_le_succ hn⟩

/-- The expression in parentheses. -/
theorem Completes.grouping {opening : Token} (ho : opening.kind = .leftParen)
    (h : Completes n .expression ts) : Completes (n + 1) .unary (opening :: ts) := by
  obtain ⟨more, e, hd, hn⟩ := h
  have hd' := Derives.grouping ho hd (kind_sample .rightParen)
  refine ⟨more ++ [sample .rightParen], .grouping e, .primary ?_, Nat.succ_le_succ hn⟩
  simpa using hd'

/-- The parenthesis that closes an expression. -/
theorem completes_closing {opening closing : Token} {e : Expr} (ho : opening.kind = .leftParen)
    (hd : Derives .expression ts e) (hn : e.nesting ≤ n) (hc : closing.kind = .rightParen) :
    Completes (n + 1) .unary (opening :: (ts ++ [closing])) := by
  refine ⟨[], .grouping e, .primary ?_, Nat.succ_le_succ hn⟩
  rw [List.append_nil]
  exact .grouping ho hd hc

/-- A token that nests starts an operand, if there is room for it. -/
theorem completes_nesting {t : Token} (ht : IsNesting t) : Completes (n + 1) .unary [t] := by
  have hunary := completes_number n .unary (kind_sample .number)
  rcases ht with ht | ht | ht
  · obtain ⟨more, e, hd, hn⟩ := hunary.negation (Or.inl ht)
    exact ⟨sample .number :: more, e, hd, hn⟩
  · obtain ⟨more, e, hd, hn⟩ := hunary.negation (Or.inr ht)
    exact ⟨sample .number :: more, e, hd, hn⟩
  · obtain ⟨more, e, hd, hn⟩ :=
      (completes_number n .expression (kind_sample .number)).grouping ht
    exact ⟨sample .number :: more, e, hd, hn⟩

/-! ## What a fault says about the tokens before it -/

/-- The tokens before a fault start a phrase, and so they do with a token of the kind that is
wanted: a closing token if one is missing, a number otherwise.  If the fault is the nesting, they do
with the token at fault too, under a wider limit. -/
structure Blames (n : Nat) (nt : Nonterminal) (used : List Token) (f : Failure) : Prop where
  wanted : ∃ kind ∈ [.number, .colon, .rightParen],
    (kind = Token.Kind.number ↔ ∀ message, f.fault ≠ .missing message) ∧
      ∀ t, t.kind = kind → Completes n nt (used ++ [t])
  deeper : f.fault = .tooDeep → ∃ t ∈ f.found.head?, ∃ m, Completes m nt (used ++ [t])
  inside : f.fault ≠ .trailing

/-- What a fault says goes over to a phrase around. -/
theorem Blames.lift {n' : Nat} {nt' : Nonterminal} {used : List Token} {f : Failure}
    (h : Blames n' nt' used f) (before : List Token)
    (hlift : ∀ k ts, Completes (n' + k) nt' ts → Completes (n + k) nt (before ++ ts)) :
    Blames n nt (before ++ used) f := by
  obtain ⟨⟨kind, hmem, hkind, hwanted⟩, hdeeper, hinside⟩ := h
  refine ⟨⟨kind, hmem, hkind, fun t ht => ?_⟩, fun hf => ?_, hinside⟩
  · rw [List.append_assoc]
    exact hlift 0 _ (hwanted t ht)
  · obtain ⟨t, ht, m, hm⟩ := hdeeper hf
    refine ⟨t, ht, n + m, ?_⟩
    rw [List.append_assoc]
    exact hlift m _ (hm.mono (Nat.le_add_left m n'))

/-- The rule fails behind the start of a phrase. -/
def Fails (n : Nat) (nt : Nonterminal) (r : Rule) : Prop :=
  ∀ tokens f, r.run tokens = .error f → ∃ used, tokens = used ++ f.found ∧ Blames n nt used f

/-- A chain fails behind the start of a chain. -/
theorem chainFrom_fails {operand : Rule} (hop : Sound n level.operand operand)
    (hfail : Fails n level.operand operand) {left : Expr} {tokens : List Token} {f : Failure}
    (h : chainFrom operand level.operators left tokens = .error f) :
    ∀ {ls}, Derives (.chain level) ls left → left.nesting ≤ n →
      ∃ used, tokens = used ++ f.found ∧ Blames n (.chain level) (ls ++ used) f := by
  -- the phrase that the operators hang on grows to the left of the tokens still to read
  fun_induction chainFrom operand level.operators left tokens with
  | case1 left => cases h
  | case2 left t others hk g run =>
    intro ls hl hn
    cases h
    obtain ⟨used, rfl, hblames⟩ := hfail _ _ run
    refine ⟨t :: used, rfl, ?_⟩
    have hlifted : Blames n (.chain level) ((ls ++ [t]) ++ used) f := by
      refine hblames.lift (ls ++ [t]) (fun k ts hts => ?_)
      rw [List.append_assoc]
      exact .link hl (Nat.le_trans hn (Nat.le_add_right n k)) (by simpa using hk) hts
    simpa using hlifted
  | case3 left t others hk right after run ih =>
    intro ls hl hn
    obtain ⟨rs, rfl, hr, hrn, -⟩ := hop _ _ _ run
    have hlink : Derives (.chain level) (ls ++ t :: rs) (.binary left t right) :=
      .link hl (by simpa using hk) hr
    obtain ⟨used, rfl, hblames⟩ := ih h hlink (Nat.max_le.2 ⟨hn, hrn⟩)
    exact ⟨t :: rs ++ used, by simp, by simpa using hblames⟩
  | case4 left t others hk => cases h

/-- A level fails behind the start of a phrase of it. -/
theorem chain_fails {operand : Rule} (hop : Sound n level.operand operand)
    (hfail : Fails n level.operand operand) :
    Fails n (.chain level) (chain operand level.operators) := by
  intro tokens f h
  rcases chain_run_error h with hrun | ⟨left, after, hrun, hchain⟩
  · obtain ⟨used, rfl, hblames⟩ := hfail _ _ hrun
    exact ⟨used, rfl, hblames.lift [] (fun k ts hts => hts.operand)⟩
  · obtain ⟨ls, rfl, hl, hn, -⟩ := hop _ _ _ hrun
    obtain ⟨used, rfl, hblames⟩ := chainFrom_fails hop hfail hchain (.operand hl) hn
    exact ⟨ls ++ used, by simp, hblames⟩

/-- The branches of a conditional fail behind the start of a conditional. -/
theorem branches_fail {branch : Rule} (hb : Sound n (.chain .equality) branch)
    (hfail : Fails n (.chain .equality) branch) {cs : List Token} {c : Expr} {question : Token}
    (hc : Derives (.chain .equality) cs c) (hn : c.nesting ≤ n) (hq : question.kind = .question)
    {tokens : List Token} {f : Failure} (h : branches branch c tokens = .error f) :
    ∃ used, tokens = used ++ f.found ∧ Blames n .ternary (cs ++ question :: used) f := by
  have hnk : ∀ k, c.nesting ≤ n + k := fun k => Nat.le_trans hn (Nat.le_add_right n k)
  rcases branches_eq_error_iff.1 h with
    hfirst | ⟨first, after, hfirst, rfl, hk⟩ | ⟨first, colon, after, hfirst, hk, hsecond⟩
  · obtain ⟨used, rfl, hblames⟩ := hfail _ _ hfirst
    have hlifted : Blames n .ternary ((cs ++ [question]) ++ used) f := by
      refine hblames.lift (cs ++ [question]) (fun k ts hts => ?_)
      rw [List.append_assoc]
      exact Completes.thenBranch hc (hnk k) hq hts
    exact ⟨used, rfl, by simpa using hlifted⟩
  -- the colon is missing: with one the branch would be complete
  · obtain ⟨bs, rfl, hd, hbn, -⟩ := hb _ _ _ hfirst
    refine ⟨bs, rfl, ⟨.colon, by decide, ?_, fun t ht => ?_⟩, ?_, ?_⟩
    · simp [missingColon]
    · rw [List.append_assoc, List.cons_append]
      exact completes_colon hc hn hq hd hbn ht
    · intro hf
      cases hf
    · intro hf
      cases hf
  · obtain ⟨bs, rfl, hd, hbn, -⟩ := hb _ _ _ hfirst
    obtain ⟨used, rfl, hblames⟩ := hfail _ _ hsecond
    have hlifted : Blames n .ternary ((cs ++ question :: (bs ++ [colon])) ++ used) f := by
      refine hblames.lift (cs ++ question :: (bs ++ [colon])) (fun k ts hts => ?_)
      have := Completes.elseBranch hc (hnk k) hq hd (Nat.le_trans hbn (Nat.le_add_right n k)) hk hts
      simpa using this
    exact ⟨bs ++ colon :: used, by simp, by simpa using hlifted⟩

/-- A conditional fails behind the start of a ternary. -/
theorem conditional_fails {branch : Rule} (hb : Sound n (.chain .equality) branch)
    (hfail : Fails n (.chain .equality) branch) : Fails n .ternary (conditional branch) := by
  intro tokens f h
  rcases conditional_run_error h with hrun | ⟨condition, t, after, hrun, hk, hbranches⟩
  · obtain ⟨used, rfl, hblames⟩ := hfail _ _ hrun
    exact ⟨used, rfl, hblames.lift [] (fun k ts hts => hts.condition)⟩
  · obtain ⟨cs, rfl, hc, hn, -⟩ := hb _ _ _ hrun
    obtain ⟨used, rfl, hblames⟩ := branches_fail hb hfail hc hn hk hbranches
    exact ⟨cs ++ t :: used, by simp, hblames⟩

/-- Every nonterminal fails behind its start if operands do. -/
theorem rule_fails_of_unary (hfail : Fails n .unary (unary n)) (nt : Nonterminal)
    (hnt : nt ≠ .primary) : Fails n nt (rule n nt) := by
  induction nt using Nonterminal.byPrecedence with
  | primary => exact absurd rfl hnt
  | unary => exact hfail
  | chain level ih =>
    have hoperand := level.operand_ne_primary
    rw [rule_chain]
    exact chain_fails (rule_sound n level.operand hoperand) (ih hoperand)
  | ternary ih => exact conditional_fails (rule_sound n _ (by decide)) (ih (by decide))
  | expression ih =>
    intro tokens f h
    obtain ⟨used, rfl, hblames⟩ := ih (by decide) tokens f h
    refine ⟨used, rfl, hblames.lift [] (fun k ts hts => ?_)⟩
    obtain ⟨more, e, hd, hn⟩ := hts
    exact ⟨more, e, .expression hd, hn⟩

/-- Operands fail behind the start of an operand if those with less room for nesting do. -/
theorem unary_fails_of_inner (hinner : ∀ m < n, Fails m .unary (unary m)) :
    Fails n .unary (unary n) := by
  have hnumber : ∀ t : Token, t.kind = .number → Completes n .unary ([] ++ [t]) := fun t ht =>
    completes_number n .unary ht
  intro tokens f h
  cases tokens with
  | nil =>
    rw [unary_run_nil] at h
    cases h
    exact ⟨[], rfl, ⟨.number, by decide, by simp, hnumber⟩, by simp, by simp⟩
  | cons t others =>
    rcases unary_run_cases n t others with ⟨v, hv, hrun⟩ | ⟨m, rfl, hk, hrun⟩ |
      ⟨m, rfl, hk, hrun⟩ | ⟨rfl, hk, hrun⟩ | ⟨hl, hk, hrun⟩ <;> rw [hrun] at h
    · cases h
    · obtain ⟨used, rfl, hblames⟩ :=
        hinner m (Nat.lt_succ_self m) _ _ (negated_eq_error_iff.1 h)
      refine ⟨t :: used, rfl, hblames.lift [t] (fun k ts hts => ?_)⟩
      rw [Nat.add_right_comm]
      exact hts.negation hk
    · rcases parenthesized_eq_error_iff.1 h with hbody | ⟨body, after, hbody, rfl, hc⟩
      · have hgroup := rule_fails_of_unary (hinner m (Nat.lt_succ_self m)) .expression (by decide)
        obtain ⟨used, rfl, hblames⟩ := hgroup _ _ hbody
        refine ⟨t :: used, rfl, hblames.lift [t] (fun k ts hts => ?_)⟩
        rw [Nat.add_right_comm]
        exact hts.grouping hk
      · obtain ⟨used, rfl, hd, hn, -⟩ := rule_sound m .expression (by decide) _ _ _ hbody
        refine ⟨t :: used, rfl, ⟨.rightParen, by decide, ?_, fun t' ht' => ?_⟩, ?_, ?_⟩
        · simp [missingParenthesis]
        · exact completes_closing hk hd hn ht'
        · intro hf
          cases hf
        · intro hf
          cases hf
    -- one level more would be enough for the token that nests too deep
    · cases h
      refine ⟨[], rfl, ⟨.number, by decide, by simp, hnumber⟩, fun _ => ?_, by simp⟩
      exact ⟨t, rfl, 1, completes_nesting hk⟩
    · cases h
      exact ⟨[], rfl, ⟨.number, by decide, by simp, hnumber⟩, by simp, by simp⟩

theorem unary_fails (n : Nat) : Fails n .unary (unary n) := by
  induction n using Nat.strongRecOn with
  | ind n ih => exact unary_fails_of_inner ih

/-- **Expressions fail behind the start of an expression.** -/
theorem expression_fails (n : Nat) : Fails n .expression (rule n .expression) :=
  rule_fails_of_unary (unary_fails n) .expression (by decide)

end LoxSyntax.Grammar
