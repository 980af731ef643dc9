/-
# What the rules do

Every rule of the expression grammar by cases: how it can succeed, how it can fail, and what it
answers once the answers of the rules below it are known.  Later arguments about rules use these
facts and do not look into the definitions again.
-/
import LoxSyntax.Parsing.Expression

namespace LoxSyntax.Parsing

variable {operand inner branch : Rule} {operators : List Token.Kind}
  {e left condition : Expr} {t : Token} {tokens rest after : List Token} {f : Failure}

/-! ## Expected tokens -/

/-- An expected token has been read exactly if it stands in front. -/
theorem expect_eq_ok_iff {kind : Token.Kind} {fault : SyntaxFault} :
    expect kind fault tokens = .ok rest ↔ ∃ t, t.kind = kind ∧ tokens = t :: rest := by
  constructor
  · intro h
    cases tokens with
    | nil => cases h
    | cons t others =>
      simp only [expect] at h
      split at h
      · rename_i hk
        cases h
        exact ⟨t, hk, rfl⟩
      · cases h
  · rintro ⟨t, hk, rfl⟩
    simp only [expect, if_pos hk]

/-- An expected token is missing exactly if no such token stands in front. -/
theorem expect_eq_error_iff {kind : Token.Kind} {fault : SyntaxFault} :
    expect kind fault tokens = .error f ↔
      f = ⟨fault, tokens⟩ ∧ ∀ t ∈ tokens.head?, t.kind ≠ kind := by
  cases tokens with
  | nil => simp [expect, eq_comm]
  | cons t others =>
    by_cases hk : t.kind = kind
    · simp [expect, hk]
    · simp only [expect, if_neg hk, List.head?_cons, Option.mem_some_iff]
      constructor
      · intro h
        cases h
        refine ⟨rfl, ?_⟩
        rintro _ rfl
        exact hk
      · rintro ⟨rfl, -⟩
        rfl

/-! ## Chains -/

/-- A chain ends before a token that is none of its operators. -/
theorem chainFrom_of_stop (h : ∀ t ∈ tokens.head?, t.kind ∉ operators) :
    chainFrom operand operators left tokens = .ok (left, tokens) := by
  cases tokens with
  | nil => rw [chainFrom]
  | cons t others =>
    have hk : t.kind ∉ operators := h t rfl
    rw [chainFrom, if_neg (by simpa using hk)]

/-- A chain goes on over an operator and an operand. -/
theorem chainFrom_of_link {right : Expr} (hk : t.kind ∈ operators)
    (h : operand.run rest = .ok (right, after)) :
    chainFrom operand operators left (t :: rest) =
      chainFrom operand operators (.binary left t right) after := by
  rw [chainFrom, if_pos (by simpa using hk)]
  -- the loop keeps the equation of its operand for termination, so rewriting is not enough
  split
  · rename_i run
    rw [h] at run
    cases run
  · rename_i run
    rw [h] at run
    cases run
    rfl

/-- A chain fails where an operand fails. -/
theorem chainFrom_of_fail (hk : t.kind ∈ operators) (h : operand.run rest = .error f) :
    chainFrom operand operators left (t :: rest) = .error f := by
  rw [chainFrom, if_pos (by simpa using hk)]
  split
  · rename_i run
    rw [h] at run
    cases run
    rfl
  · rename_i run
    rw [h] at run
    cases run

theorem chain_run_of_ok (h : operand.run tokens = .ok (left, rest)) :
    (chain operand operators).run tokens = chainFrom operand operators left rest := by
  simp only [chain, h]

theorem chain_run_of_error (h : operand.run tokens = .error f) :
    (chain operand operators).run tokens = .error f := by
  simp only [chain, h]

/-- A chain that succeeds has read a first operand. -/
theorem chain_run_ok (h : (chain operand operators).run tokens = .ok (e, rest)) :
    ∃ left after, operand.run tokens = .ok (left, after) ∧
      chainFrom operand operators left after = .ok (e, rest) := by
  simp only [chain] at h
  split at h
  · cases h
  · rename_i left after run
    exact ⟨left, after, run, h⟩

/-- A chain fails at its first operand or behind it. -/
theorem chain_run_error (h : (chain operand operators).run tokens = .error f) :
    operand.run tokens = .error f ∨
      ∃ left after, operand.run tokens = .ok (left, after) ∧
        chainFrom operand operators left after = .error f := by
  simp only [chain] at h
  split at h
  · rename_i run
    cases h
    exact Or.inl run
  · rename_i left after run
    exact Or.inr ⟨left, after, run, h⟩

/-! ## Conditionals -/

/-- A conditional is an expression of the branch level before any token but a question mark. -/
theorem conditional_run_of_stop (h : branch.run tokens = .ok (e, rest))
    (hs : ∀ t ∈ rest.head?, t.kind ≠ .question) :
    (conditional branch).run tokens = .ok (e, rest) := by
  cases rest with
  | nil => simp only [conditional, h]
  | cons t others =>
    have hk : t.kind ≠ .question := hs t rfl
    simp only [conditional, h, if_neg hk]

/-- Behind a question mark the branches follow. -/
theorem conditional_run_of_question (h : branch.run tokens = .ok (condition, t :: rest))
    (hk : t.kind = .question) :
    (conditional branch).run tokens = branches branch condition rest := by
  simp only [conditional, h, if_pos hk]

theorem conditional_run_of_error (h : branch.run tokens = .error f) :
    (conditional branch).run tokens = .error f := by
  simp only [conditional, h]

/-- A conditional without branches, or one with branches behind a question mark. -/
theorem conditional_run_ok (h : (conditional branch).run tokens = .ok (e, rest)) :
    (branch.run tokens = .ok (e, rest) ∧ ∀ t ∈ rest.head?, t.kind ≠ .question) ∨
      ∃ condition t after, branch.run tokens = .ok (condition, t :: after) ∧
        t.kind = .question ∧ branches branch condition after = .ok (e, rest) := by
  simp only [conditional] at h
  split at h
  · cases h
  · rename_i run
    cases h
    exact Or.inl ⟨run, by simp⟩
  · rename_i condition t after run
    split at h
    · rename_i hk
      exact Or.inr ⟨condition, t, after, run, hk, h⟩
    · rename_i hk
      cases h
      exact Or.inl ⟨run, by simpa using hk⟩

/-- A conditional fails in its condition or in its branches. -/
theorem conditional_run_error (h : (conditional branch).run tokens = .error f) :
    branch.run tokens = .error f ∨
      ∃ condition t after, branch.run tokens = .ok (condition, t :: after) ∧
        t.kind = .question ∧ branches branch condition after = .error f := by
  simp only [conditional] at h
  split at h
  · rename_i run
    cases h
    exact Or.inl run
  · cases h
  · rename_i condition t after run
    split at h
    · rename_i hk
      exact Or.inr ⟨condition, t, after, run, hk, h⟩
    · cases h

/-- The branches of a conditional with the colon between them. -/
theorem branches_eq_ok_iff :
    branches branch condition tokens = .ok (e, rest) ↔
      ∃ first colon after second, branch.run tokens = .ok (first, colon :: after) ∧
        colon.kind = .colon ∧ branch.run after = .ok (second, rest) ∧
        e = .ternary condition first second := by
  constructor
  · intro h
    simp only [branches] at h
    split at h
    · cases h
    · rename_i first middle hfirst
      split at h
      · cases h
      · rename_i after hcolon
        obtain ⟨colon, hk, rfl⟩ := expect_eq_ok_iff.1 hcolon
        split at h
        · cases h
        · rename_i second last hsecond
          cases h
          exact ⟨first, colon, after, second, hfirst, hk, hsecond, rfl⟩
  · rintro ⟨first, colon, after, second, hfirst, hk, hsecond, rfl⟩
    simp only [branches, hfirst, expect_eq_ok_iff.2 ⟨colon, hk, rfl⟩, hsecond]

/-- The branches fail in the first one, at the colon, or in the second one. -/
theorem branches_eq_error_iff :
    branches branch condition tokens = .error f ↔
      branch.run tokens = .error f ∨
      (∃ first after, branch.run tokens = .ok (first, after) ∧ f = ⟨missingColon, after⟩ ∧
        ∀ t ∈ after.head?, t.kind ≠ .colon) ∨
      ∃ first colon after, branch.run tokens = .ok (first, colon :: after) ∧
        colon.kind = .colon ∧ branch.run after = .error f := by
  constructor
  · intro h
    simp only [branches] at h
    split at h
    · rename_i hfirst
      cases h
      exact Or.inl hfirst
    · rename_i first middle hfirst
      split at h
      · rename_i hcolon
        cases h
        obtain ⟨rfl, hk⟩ := expect_eq_error_iff.1 hcolon
        exact Or.inr (Or.inl ⟨first, middle, hfirst, rfl, hk⟩)
      · rename_i after hcolon
        obtain ⟨colon, hk, rfl⟩ := expect_eq_ok_iff.1 hcolon
        split at h
        · rename_i hsecond
          cases h
          exact Or.inr (Or.inr ⟨first, colon, after, hfirst, hk, hsecond⟩)
        · cases h
  · rintro (hfirst | ⟨first, after, hfirst, rfl, hk⟩ | ⟨first, colon, after, hfirst, hk, hsecond⟩)
    · simp only [branches, hfirst]
    · simp only [branches, hfirst, expect_eq_error_iff.2 ⟨rfl, hk⟩]
    · simp only [branches, hfirst, expect_eq_ok_iff.2 ⟨colon, hk, rfl⟩, hsecond]

/-! ## Operands -/

/-- A negation succeeds where its operand does. -/
theorem negated_eq_ok_iff :
    negated t inner tokens = .ok (e, rest) ↔
      ∃ right, inner.run tokens = .ok (right, rest) ∧ e = .unary t right := by
  unfold negated
  cases h : inner.run tokens with
  | error f => simp
  | ok answer =>
    obtain ⟨right, after⟩ := answer
    simp only [Except.ok.injEq, Prod.mk.injEq]
    constructor
    · rintro ⟨rfl, rfl⟩
      exact ⟨right, ⟨rfl, rfl⟩, rfl⟩
    · rintro ⟨_, ⟨rfl, rfl⟩, rfl⟩
      exact ⟨rfl, rfl⟩

/-- A negation fails where its operand does. -/
theorem negated_eq_error_iff :
    negated t inner tokens = .error f ↔ inner.run tokens = .error f := by
  unfold negated
  cases inner.run tokens with
  | error g => simp
  | ok answer => simp

/-- An expression and the parenthesis that closes it. -/
theorem parenthesized_eq_ok_iff :
    parenthesized inner tokens = .ok (e, rest) ↔
      ∃ body closing, (expressionOf inner).run tokens = .ok (body, closing :: rest) ∧
        closing.kind = .rightParen ∧ e = .grouping body := by
  constructor
  · intro h
    simp only [parenthesized] at h
    split at h
    · cases h
    · rename_i body middle hbody
      split at h
      · cases h
      · rename_i after hclosing
        cases h
        obtain ⟨closing, hk, rfl⟩ := expect_eq_ok_iff.1 hclosing
        exact ⟨body, closing, hbody, hk, rfl⟩
  · rintro ⟨body, closing, hbody, hk, rfl⟩
    simp only [parenthesized, hbody, expect_eq_ok_iff.2 ⟨closing, hk, rfl⟩]

/-- A parenthesis fails in the expression, or where it is not closed. -/
theorem parenthesized_eq_error_iff :
    parenthesized inner tokens = .error f ↔
      (expressionOf inner).run tokens = .error f ∨
      ∃ body after, (expressionOf inner).run tokens = .ok (body, after) ∧
        f = ⟨missingParenthesis, after⟩ ∧ ∀ t ∈ after.head?, t.kind ≠ .rightParen := by
  constructor
  · intro h
    simp only [parenthesized] at h
    split at h
    · rename_i hbody
      cases h
      exact Or.inl hbody
    · rename_i body middle hbody
      split at h
      · rename_i hclosing
        cases h
        obtain ⟨rfl, hk⟩ := expect_eq_error_iff.1 hclosing
        exact Or.inr ⟨body, middle, hbody, rfl, hk⟩
      · cases h
  · rintro (hbody | ⟨body, after, hbody, rfl, hk⟩)
    · simp only [parenthesized, hbody]
    · simp only [parenthesized, hbody, expect_eq_error_iff.2 ⟨rfl, hk⟩]

/-- The token asks for an operand one level deeper. -/
def IsNesting (t : Token) : Prop := t.kind = .bang ∨ t.kind = .minus ∨ t.kind = .leftParen

theorem unary_run_nil (n : Nat) : (unary n).run [] = .error ⟨.noExpression, []⟩ := by
  cases n <;> rfl

theorem unary_run_of_literal {v : Value} (h : literal? t = some v) (n : Nat) (rest : List Token) :
    (unary n).run (t :: rest) = .ok (.literal v, rest) := by
  cases n <;> simp only [unary, operand, readOperand, operandFrom, h]

/-- A unary operator stands before an operand one level deeper. -/
theorem unary_run_of_negation (h : t.kind = .bang ∨ t.kind = .minus) (n : Nat)
    (rest : List Token) : (unary (n + 1)).run (t :: rest) = negated t (unary n) rest := by
  show operandFrom (some (unary n)) t rest = _
  rcases h with h | h <;> simp only [operandFrom, literal?, h]

/-- An opening parenthesis stands before an expression one level deeper. -/
theorem unary_run_of_opening (h : t.kind = .leftParen) (n : Nat) (rest : List Token) :
    (unary (n + 1)).run (t :: rest) = parenthesized (unary n) rest := by
  show operandFrom (some (unary n)) t rest = _
  simp only [operandFrom, literal?, h]

/-- At the nesting limit nothing may go deeper. -/
theorem unary_run_of_limit (h : IsNesting t) (rest : List Token) :
    (unary 0).run (t :: rest) = .error ⟨.tooDeep, t :: rest⟩ := by
  show operandFrom none t rest = _
  rcases h with h | h | h <;> simp only [operandFrom, literal?, h]

/-- Any other token starts nothing. -/
theorem unary_run_of_stray (hl : literal? t = none) (h : ¬ IsNesting t) (n : Nat)
    (rest : List Token) : (unary n).run (t :: rest) = .error ⟨.noExpression, t :: rest⟩ := by
  have hread : ∀ inner?, operandFrom inner? t rest = .error ⟨.noExpression, t :: rest⟩ := by
    intro inner?
    simp only [IsNesting, not_or] at h
    unfold operandFrom
    split <;> simp_all
  cases n <;> exact hread _

/-- **An operand by its first token**: a literal, a unary operator, an opening parenthesis, one of
these two at the nesting limit, or a token that starts nothing. -/
theorem unary_run_cases (n : Nat) (t : Token) (rest : List Token) :
    (∃ v, literal? t = some v ∧ (unary n).run (t :: rest) = .ok (.literal v, rest)) ∨
    (∃ m, n = m + 1 ∧ (t.kind = .bang ∨ t.kind = .minus) ∧
      (unary n).run (t :: rest) = negated t (unary m) rest) ∨
    (∃ m, n = m + 1 ∧ t.kind = .leftParen ∧
      (unary n).run (t :: rest) = parenthesized (unary m) rest) ∨
    (n = 0 ∧ IsNesting t ∧ (unary n).run (t :: rest) = .error ⟨.tooDeep, t :: rest⟩) ∨
    (literal? t = none ∧ ¬ IsNesting t ∧
      (unary n).run (t :: rest) = .error ⟨.noExpression, t :: rest⟩) := by
  cases hl : literal? t with
  | some v => exact Or.inl ⟨v, rfl, unary_run_of_literal hl n rest⟩
  | none =>
    refine Or.inr ?_
    by_cases hn : IsNesting t
    · cases n with
      | zero => exact Or.inr (Or.inr (Or.inl ⟨rfl, hn, unary_run_of_limit hn rest⟩))
      | succ m =>
        rcases hn with hk | hk | hk
        · exact Or.inl ⟨m, rfl, Or.inl hk, unary_run_of_negation (Or.inl hk) m rest⟩
        · exact Or.inl ⟨m, rfl, Or.inr hk, unary_run_of_negation (Or.inr hk) m rest⟩
        · exact Or.inr (Or.inl ⟨m, rfl, hk, unary_run_of_opening hk m rest⟩)
    · exact Or.inr (Or.inr (Or.inr ⟨rfl, hn, unary_run_of_stray hl hn n rest⟩))

end LoxSyntax.Parsing
