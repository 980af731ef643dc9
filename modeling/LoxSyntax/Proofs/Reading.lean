/-
# The rules read the grammar

Each rule succeeds exactly on the phrases of its nonterminal: what it has read is a phrase that fits
the nesting, the tree is the one of the derivation, and the phrase ends where no operator could go
on with it (`rule_run_eq_ok_iff`).  Hence a phrase has one tree only (`Derives.unique`).
-/
import LoxSyntax.Proofs.Grammar
import LoxSyntax.Proofs.RuleCases

namespace LoxSyntax.Grammar

open Parsing

/-! ## Where a phrase ends -/

/-- The operators that go on with a phrase of a level: its own and the tighter ones. -/
def Level.reach : Level → List Token.Kind
  | .equality =>
    Level.equality.operators ++ (Level.comparison.operators ++
      (Level.term.operators ++ Level.factor.operators))
  | .comparison =>
    Level.comparison.operators ++ (Level.term.operators ++ Level.factor.operators)
  | .term => Level.term.operators ++ Level.factor.operators
  | .factor => Level.factor.operators

/-- The tree is a conditional that stands for itself. -/
def isConditional : Expr → Bool
  | .ternary .. => true
  | _ => false

/-- The kinds of tokens that go on with a phrase of the given tree.  A conditional does not go on
with a question mark: conditionals do not form chains. -/
def Nonterminal.reach : Nonterminal → Expr → List Token.Kind
  | .expression, e | .ternary, e =>
    if isConditional e then Level.equality.reach else .question :: Level.equality.reach
  | .chain level, _ => level.reach
  | .unary, _ | .primary, _ => []

/-- The tokens ahead do not go on with a phrase of the given tree. -/
def Stops (nt : Nonterminal) (e : Expr) (rest : List Token) : Prop :=
  ∀ t ∈ rest.head?, t.kind ∉ nt.reach e

theorem stops_nil (nt : Nonterminal) (e : Expr) : Stops nt e [] := by
  intro t ht
  cases ht

theorem stops_cons {nt : Nonterminal} {e : Expr} (t : Token) (rest : List Token)
    (h : t.kind ∉ nt.reach e) : Stops nt e (t :: rest) := by
  intro t' ht'
  cases ht'
  exact h

/-- The kinds of tokens that go on with no phrase and may stand behind some. -/
def terminators : List Token.Kind := [.number, .colon, .rightParen, .semicolon]

/-- A terminator goes on with no phrase. -/
theorem not_mem_reach {k : Token.Kind} (hk : k ∈ terminators) (nt : Nonterminal) (e : Expr) :
    k ∉ nt.reach e := by
  have hlevel : ∀ level : Level, k ∉ level.reach := by
    intro level
    revert k
    cases level <;> decide
  cases nt with
  | expression | ternary =>
    simp only [Nonterminal.reach]
    split
    · exact hlevel _
    · rw [List.mem_cons, not_or]
      refine ⟨?_, hlevel _⟩
      rintro rfl
      revert hk
      decide
  | chain level => exact hlevel level
  | unary | primary => exact List.not_mem_nil

theorem stops_unary (e : Expr) (rest : List Token) : Stops .unary e rest := by
  intro t _ ht
  cases ht

/-- A level reaches its own operators and what its operands reach. -/
theorem reach_chain (level : Level) (e e' : Expr) :
    (Nonterminal.chain level).reach e = level.operators ++ level.operand.reach e' := by
  cases level with
  | factor => exact (List.append_nil _).symm
  | equality | comparison | term => rfl

/-- A chain stops where its operands stop and none of its operators stands. -/
theorem stops_chain_iff {level : Level} {e : Expr} {rest : List Token} (e' : Expr) :
    Stops (.chain level) e rest ↔
      (∀ t ∈ rest.head?, t.kind ∉ level.operators) ∧ Stops level.operand e' rest := by
  simp only [Stops, reach_chain level e e', List.mem_append, not_or, ← forall_and]

/-- The operators of a level do not go on with its operands. -/
theorem not_mem_reach_operand {level : Level} {k : Token.Kind} (hk : k ∈ level.operators)
    (e : Expr) : k ∉ level.operand.reach e := by
  revert k
  cases level <;> simp only [Level.operand, Nonterminal.reach] <;> decide

/-- A phrase below the conditionals stops also for the conditionals, but for a question mark. -/
theorem stops_ternary_of_chain {e e' : Expr} {rest : List Token}
    (h : Stops (.chain .equality) e' rest) (hq : ∀ t ∈ rest.head?, t.kind ≠ .question) :
    Stops .ternary e rest := by
  intro t ht
  simp only [Nonterminal.reach]
  split
  · exact h t ht
  · rw [List.mem_cons, not_or]
    exact ⟨hq t ht, h t ht⟩

/-- Conditionals stop only where equalities do. -/
theorem stops_chain_of_ternary {e e' : Expr} {rest : List Token} (h : Stops .ternary e rest) :
    Stops (.chain .equality) e' rest := by
  intro t ht
  have := h t ht
  simp only [Nonterminal.reach] at this
  split at this
  · exact this
  · exact fun hk => this (List.mem_cons_of_mem _ hk)

/-- A question mark goes on with what is no conditional. -/
theorem Stops.ne_question {e : Expr} {rest : List Token} (h : Stops .ternary e rest)
    (he : isConditional e = false) : ∀ t ∈ rest.head?, t.kind ≠ .question := by
  intro t ht hk
  refine h t ht ?_
  simp only [Nonterminal.reach, he, hk, Bool.false_eq_true, if_false]
  exact List.mem_cons_self

/-- Below the conditionals no tree is a conditional. -/
theorem Derives.not_conditional {nt : Nonterminal} {ts : List Token} {e : Expr}
    (h : Derives nt ts e) :
    (∃ level, nt = .chain level) ∨ nt = .unary ∨ nt = .primary → isConditional e = false := by
  induction h with
  | expression | plain | conditional => rintro (⟨_, h⟩ | h | h) <;> cases h
  | @operand level _ _ _ ih =>
    intro _
    apply ih
    cases level
    · exact Or.inl ⟨_, rfl⟩
    · exact Or.inl ⟨_, rfl⟩
    · exact Or.inl ⟨_, rfl⟩
    · exact Or.inr (Or.inl rfl)
  | primary _ ih => exact fun _ => ih (Or.inr (Or.inr rfl))
  | link | negation | constant | trueWord | falseWord | nilWord | grouping => exact fun _ => rfl

/-! ## The rule of a nonterminal -/

/-- The rule that reads a nonterminal with so many levels of nesting left. -/
def rule (n : Nat) : Nonterminal → Rule
  | .expression | .ternary => expressionOf (unary n)
  | .chain .equality => equality (unary n)
  | .chain .comparison => comparison (unary n)
  | .chain .term => term (unary n)
  | .chain .factor => factor (unary n)
  | .unary | .primary => unary n

/-- The rule of a level is a chain over the rule of its operands. -/
theorem rule_chain (n : Nat) (level : Level) :
    rule n (.chain level) = chain (rule n level.operand) level.operators := by
  cases level <;> rfl

/-! ## Soundness -/

/-- The tokens fall into a phrase with the given tree and the rest, the phrase fits the nesting, and
it ends where nothing goes on with it. -/
def Reads (n : Nat) (nt : Nonterminal) (tokens : List Token) (e : Expr) (rest : List Token) :
    Prop :=
  ∃ used, tokens = used ++ rest ∧ Derives nt used e ∧ e.nesting ≤ n ∧ Stops nt e rest

/-- The rule succeeds on phrases of the nonterminal only. -/
def Sound (n : Nat) (nt : Nonterminal) (r : Rule) : Prop :=
  ∀ tokens e rest, r.run tokens = .ok (e, rest) → Reads n nt tokens e rest

variable {n : Nat} {level : Level}

/-- A chain behind a phrase makes a longer phrase of it. -/
theorem chainFrom_sound {operand : Rule} (hop : Sound n level.operand operand)
    {left : Expr} {tokens : List Token} {e : Expr} {rest : List Token}
    (h : chainFrom operand level.operators left tokens = .ok (e, rest)) :
    ∀ {ls}, Derives (.chain level) ls left → left.nesting ≤ n → Stops level.operand left tokens →
      ∃ used, tokens = used ++ rest ∧ Derives (.chain level) (ls ++ used) e ∧ e.nesting ≤ n ∧
        Stops (.chain level) e rest := by
  -- what has been linked so far is a phrase, and it stops as its last operand does
  fun_induction chainFrom operand level.operators left tokens with
  | case1 left =>
    intro ls hl hn hs
    cases h
    exact ⟨[], rfl, by rwa [List.append_nil], hn, stops_nil _ _⟩
  | case2 left t others _ f _ => cases h
  | case3 left t others hk right after run ih =>
    intro ls hl hn hs
    obtain ⟨rs, rfl, hr, hrn, hrs⟩ := hop _ _ _ run
    have hlink : Derives (.chain level) (ls ++ t :: rs) (.binary left t right) :=
      .link hl (by simpa using hk) hr
    -- below the conditionals the tree does not matter for where a phrase stops
    have hstop : Stops level.operand (.binary left t right) after := by
      cases level <;> exact hrs
    obtain ⟨used, rfl, hd, hen, hes⟩ := ih h hlink (Nat.max_le.2 ⟨hn, hrn⟩) hstop
    exact ⟨t :: rs ++ used, by simp, by simpa using hd, hen, hes⟩
  | case4 left t others hk =>
    intro ls hl hn hs
    cases h
    refine ⟨[], rfl, by rwa [List.append_nil], hn, (stops_chain_iff _).2 ⟨?_, hs⟩⟩
    intro t' ht'
    cases ht'
    simpa using hk

/-- A chain reads the phrases of its level. -/
theorem chain_sound {operand : Rule} (hop : Sound n level.operand operand) :
    Sound n (.chain level) (chain operand level.operators) := by
  intro tokens e rest h
  obtain ⟨left, after, hleft, hchain⟩ := chain_run_ok h
  obtain ⟨ls, rfl, hl, hn, hs⟩ := hop _ _ _ hleft
  obtain ⟨used, rfl, hd, hen, hes⟩ := chainFrom_sound hop hchain (.operand hl) hn hs
  exact ⟨ls ++ used, by simp, hd, hen, hes⟩

/-- The branch level and the conditionals read the ternaries. -/
theorem conditional_sound {branch : Rule} (hb : Sound n (.chain .equality) branch) :
    Sound n .ternary (conditional branch) := by
  intro tokens e rest h
  rcases conditional_run_ok h with ⟨hrun, hq⟩ | ⟨condition, q, after, hrun, hk, hbranches⟩
  · obtain ⟨used, rfl, hd, hn, hs⟩ := hb _ _ _ hrun
    exact ⟨used, rfl, .plain hd, hn, stops_ternary_of_chain hs hq⟩
  · obtain ⟨first, colon, behind, second, hfirst, hcolon, hsecond, rfl⟩ :=
      branches_eq_ok_iff.1 hbranches
    obtain ⟨cs, rfl, hc, hcn, -⟩ := hb _ _ _ hrun
    obtain ⟨ts, rfl, ht, htn, -⟩ := hb _ _ _ hfirst
    obtain ⟨es, rfl, he, hen, hes⟩ := hb _ _ _ hsecond
    refine ⟨cs ++ q :: (ts ++ colon :: es), by simp, .conditional hc hk ht hcolon he,
      Nat.max_le.2 ⟨hcn, Nat.max_le.2 ⟨htn, hen⟩⟩, ?_⟩
    exact hes

/-- Every nonterminal above the operands is read by its rule if operands are. -/
theorem rule_sound_of_unary (hop : Sound n .unary (unary n)) (nt : Nonterminal)
    (hnt : nt ≠ .primary) : Sound n nt (rule n nt) := by
  induction nt using Nonterminal.byPrecedence with
  | primary => exact absurd rfl hnt
  | unary => exact hop
  | chain level ih =>
    rw [rule_chain]
    exact chain_sound (ih level.operand_ne_primary)
  | ternary ih => exact conditional_sound (ih (by decide))
  | expression ih =>
    intro tokens e rest h
    obtain ⟨used, rfl, hd, hn, hs⟩ := ih (by decide) tokens e rest h
    exact ⟨used, rfl, .expression hd, hn, hs⟩

/-- A token that is a literal is a phrase. -/
theorem derives_of_literal? {t : Token} {v : Value} (h : literal? t = some v) :
    Derives .primary [t] (.literal v) := by
  unfold literal? at h
  split at h
  · rename_i hk
    cases h
    exact .falseWord hk
  · rename_i hk
    cases h
    exact .trueWord hk
  · rename_i hk
    cases h
    exact .nilWord hk
  · rename_i hk
    cases h
    exact .constant (Or.inl hk)
  · rename_i hk
    cases h
    exact .constant (Or.inr hk)
  · cases h

/-- Operands are read if those with less room for nesting are. -/
theorem unary_sound_of_inner (hinner : ∀ m < n, Sound m .unary (unary m)) :
    Sound n .unary (unary n) := by
  intro tokens e rest h
  cases tokens with
  | nil =>
    rw [unary_run_nil] at h
    cases h
  | cons t others =>
    rcases unary_run_cases n t others with ⟨v, hv, hrun⟩ | ⟨m, rfl, hk, hrun⟩ |
      ⟨m, rfl, hk, hrun⟩ | ⟨-, -, hrun⟩ | ⟨-, -, hrun⟩ <;> rw [hrun] at h
    · cases h
      exact ⟨[t], rfl, .primary (derives_of_literal? hv), Nat.zero_le n, stops_unary _ _⟩
    · obtain ⟨right, hright, rfl⟩ := negated_eq_ok_iff.1 h
      obtain ⟨used, rfl, hd, hn, -⟩ := hinner m (Nat.lt_succ_self m) _ _ _ hright
      exact ⟨t :: used, rfl, .negation hk hd, Nat.succ_le_succ hn, stops_unary _ _⟩
    · obtain ⟨body, closing, hbody, hc, rfl⟩ := parenthesized_eq_ok_iff.1 h
      -- the group starts over at the loosest level, but with less room
      have hgroup := rule_sound_of_unary (hinner m (Nat.lt_succ_self m)) .expression (by decide)
      obtain ⟨used, rfl, hd, hn, -⟩ := hgroup _ _ _ hbody
      exact ⟨t :: (used ++ [closing]), by simp, .primary (.grouping hk hd hc),
        Nat.succ_le_succ hn, stops_unary _ _⟩
    · cases h
    · cases h

/-- Operands are read at every depth of nesting. -/
theorem unary_sound (n : Nat) : Sound n .unary (unary n) := by
  induction n using Nat.strongRecOn with
  | ind n ih => exact unary_sound_of_inner ih

/-- **Every nonterminal above the operands is read by its rule.** -/
theorem rule_sound (n : Nat) (nt : Nonterminal) (hnt : nt ≠ .primary) :
    Sound n nt (rule n nt) :=
  rule_sound_of_unary (unary_sound n) nt hnt

/-! ## Completeness -/

/-- What the rule answers on a phrase with the given tree, whatever follows.  A chain is not done
with the phrase before it has tried to go on, so that only its operands have to stop. -/
def Answers (n : Nat) (nt : Nonterminal) (ts : List Token) (e : Expr) : Prop :=
  match nt with
  | .chain level =>
    ∀ rest, Stops level.operand e rest →
      (rule n (.chain level)).run (ts ++ rest) =
        chainFrom (rule n level.operand) level.operators e rest
  | nt => ∀ rest, Stops nt e rest → (rule n nt).run (ts ++ rest) = .ok (e, rest)

/-- The rule reads the phrase if nothing goes on with it. -/
theorem Answers.run {nt : Nonterminal} {ts : List Token} {e : Expr} (h : Answers n nt ts e)
    {rest : List Token} (hs : Stops nt e rest) :
    (rule n nt).run (ts ++ rest) = .ok (e, rest) := by
  cases nt with
  | chain level =>
    obtain ⟨hops, hop⟩ := (stops_chain_iff e).1 hs
    rw [h rest hop]
    exact chainFrom_of_stop hops
  | expression | ternary | unary | primary => exact h rest hs

/-- A constant is read as it stands. -/
theorem answers_constant {t : Token} {v : Value} (h : literal? t = some v) :
    Answers n .primary [t] (.literal v) := by
  intro rest _
  exact unary_run_of_literal h n rest

/-- **The rules read every phrase** that fits the nesting. -/
theorem Derives.answers {nt : Nonterminal} {ts : List Token} {e : Expr} (h : Derives nt ts e) :
    ∀ n, e.nesting ≤ n → Answers n nt ts e := by
  induction h with
  | expression _ ih => exact ih
  | plain h ih =>
    intro n hn rest hs
    have hrun := (ih n hn).run (stops_chain_of_ternary hs)
    exact conditional_run_of_stop hrun (hs.ne_question (h.not_conditional (Or.inl ⟨_, rfl⟩)))
  | @conditional cs ts es c t e question colon _ hq _ hc _ ihc iht ihe =>
    intro n hn rest hs
    obtain ⟨hcn, hn⟩ := Nat.max_le.1 hn
    obtain ⟨htn, hen⟩ := Nat.max_le.1 hn
    -- the condition is an equality, so that a question mark ends it
    have hfirst := (ihc n hcn).run
      (stops_cons question (ts ++ colon :: (es ++ rest))
        (by rw [hq]; show _ ∉ Level.equality.reach; decide))
    have hthen := (iht n htn).run
      (stops_cons colon (es ++ rest) (by rw [hc]; exact not_mem_reach (by decide) _ _))
    have helse := (ihe n hen).run (stops_chain_of_ternary hs)
    have hbranches :
        branches (rule n (.chain .equality)) c (ts ++ colon :: (es ++ rest)) =
          .ok (.ternary c t e, rest) :=
      branches_eq_ok_iff.2 ⟨t, colon, es ++ rest, e, hthen, hc, helse, rfl⟩
    simp only [List.append_assoc, List.cons_append]
    exact (conditional_run_of_question hfirst hq).trans hbranches
  | operand _ ih =>
    intro n hn rest hs
    rw [rule_chain]
    exact chain_run_of_ok ((ih n hn).run hs)
  | @link level ls rs l r operator _ ho _ ihl ihr =>
    intro n hn rest hs
    obtain ⟨hln, hrn⟩ := Nat.max_le.1 hn
    -- the chain on the left does not stop at the operator; it is the loop that goes on there
    have hleft := ihl n hln (operator :: (rs ++ rest))
      (stops_cons operator (rs ++ rest) (not_mem_reach_operand ho l))
    have hstop : Stops level.operand r rest := by cases level <;> exact hs
    have hright := (ihr n hrn).run hstop
    simp only [List.append_assoc, List.cons_append]
    rw [hleft]
    exact chainFrom_of_link ho hright
  | @negation ts e operator ho _ ih =>
    intro n hn rest _
    obtain ⟨m, rfl⟩ : ∃ m, n = m + 1 := ⟨n - 1, by simp only [Expr.nesting] at hn; omega⟩
    have hinner := (ih m (Nat.le_of_succ_le_succ hn)).run (stops_unary e rest)
    show (unary (m + 1)).run (operator :: (ts ++ rest)) = _
    rw [unary_run_of_negation ho]
    exact negated_eq_ok_iff.2 ⟨e, hinner, rfl⟩
  | primary _ ih =>
    intro n hn rest _
    exact ih n hn rest (fun _ _ => List.not_mem_nil)
  | constant hk =>
    intro n _
    apply answers_constant
    rcases hk with hk | hk <;> simp only [literal?, hk]
  | trueWord hk | falseWord hk | nilWord hk =>
    intro n _
    apply answers_constant
    simp only [literal?, hk]
  | @grouping ts e opening closing ho _ hc ih =>
    intro n hn rest _
    obtain ⟨m, rfl⟩ : ∃ m, n = m + 1 := ⟨n - 1, by simp only [Expr.nesting] at hn; omega⟩
    have hinner := (ih m (Nat.le_of_succ_le_succ hn)).run
      (stops_cons closing rest (by rw [hc]; exact not_mem_reach (by decide) _ _))
    show (unary (m + 1)).run (opening :: ((ts ++ [closing]) ++ rest)) = _
    rw [unary_run_of_opening ho, List.append_assoc, List.singleton_append]
    exact parenthesized_eq_ok_iff.2 ⟨e, closing, hinner, hc, rfl⟩

/-- **A rule succeeds exactly on phrases.** -/
theorem rule_run_eq_ok_iff {nt : Nonterminal} (hnt : nt ≠ .primary) {tokens rest : List Token}
    {e : Expr} : (rule n nt).run tokens = .ok (e, rest) ↔ Reads n nt tokens e rest := by
  constructor
  · exact rule_sound n nt hnt tokens e rest
  · rintro ⟨used, rfl, hd, hn, hs⟩
    exact (hd.answers n hn).run hs

/-- **A phrase has one tree.** -/
theorem Derives.unique {nt : Nonterminal} {ts : List Token} {e e' : Expr} (h : Derives nt ts e)
    (h' : Derives nt ts e') : e = e' := by
  have hrun := (h.answers (max e.nesting e'.nesting) (Nat.le_max_left _ _)).run (stops_nil nt e)
  have hrun' := (h'.answers (max e.nesting e'.nesting) (Nat.le_max_right _ _)).run (stops_nil nt e')
  rw [hrun] at hrun'
  cases hrun'
  rfl

end LoxSyntax.Grammar
