/-
# Translated tokens

The parser decides by the kinds of tokens and takes the values of literals from them; it never looks
at a lexeme, at a line or into a value.  So if the tokens of a list are exchanged for others of the
same kinds, and their values for others in one way, then every rule and every recovery does the same
as before, with the tokens and the values exchanged.
-/
import Mathlib.Data.List.TakeWhile
import LoxSyntax.Parsing.Source
import LoxSyntax.Proofs.RuleCases

namespace LoxSyntax

/-! ## Exchanging tokens and values -/

/-- The tree with its operators and its literals exchanged. -/
def Expr.translate (f : Token → Token) (g : Value → Value) : Expr → Expr
  | binary left operator right => .binary (left.translate f g) (f operator) (right.translate f g)
  | grouping inner => .grouping (inner.translate f g)
  | literal value => .literal (g value)
  | unary operator right => .unary (f operator) (right.translate f g)
  | ternary condition thenBranch elseBranch =>
    .ternary (condition.translate f g) (thenBranch.translate f g) (elseBranch.translate f g)

/-- The error with its token exchanged. -/
def SyntaxError.mapToken (f : Token → Token) (e : SyntaxError) : SyntaxError :=
  { e with token := f e.token }

namespace Parsing

/-- The functions exchange each token for one of the same kind, and its value accordingly; the
values of reserved words stay as they are. -/
structure Translates (f : Token → Token) (g : Value → Value) : Prop where
  kind : ∀ t, (f t).kind = t.kind
  literal : ∀ t, (f t).literal = g t.literal
  nil : g .nil = .nil
  bool : ∀ b, g (.bool b) = .bool b

/-- The failure with its tokens exchanged. -/
def Failure.mapTokens (f : Token → Token) (failure : Failure) : Failure :=
  ⟨failure.fault, failure.found.map f⟩

/-- The answer with its tree translated, and the tokens left or found exchanged. -/
def translateAnswer (f : Token → Token) (g : Value → Value) : Answer → Answer
  | .ok (e, rest) => .ok (e.translate f g, rest.map f)
  | .error failure => .error (failure.mapTokens f)

/-- The outcome with its tree translated, or the tokens found exchanged. -/
def translateOutcome (f : Token → Token) (g : Value → Value) : Outcome → Outcome
  | .ok e => .ok (e.translate f g)
  | .error failure => .error (failure.mapTokens f)

/-- The rule reads exchanged tokens as it reads the tokens themselves. -/
def Commutes (f : Token → Token) (g : Value → Value) (rule : Rule) : Prop :=
  ∀ tokens, rule.run (tokens.map f) = translateAnswer f g (rule.run tokens)

section Rules

variable {f : Token → Token} {g : Value → Value} {operand inner branch : Rule}

/-! ## Rules -/

/-- Exchanged tokens have exchanged literals. -/
theorem literal?_apply (h : Translates f g) (t : Token) :
    literal? (f t) = (literal? t).map g := by
  unfold literal?
  rw [h.kind, h.literal]
  split
  · rw [Option.map_some, h.bool]
  · rw [Option.map_some, h.bool]
  · rw [Option.map_some, h.nil]
  · rw [Option.map_some]
  · rw [Option.map_some]
  · rw [Option.map_none]

theorem isNesting_apply (h : Translates f g) (t : Token) : IsNesting (f t) ↔ IsNesting t := by
  unfold IsNesting
  rw [h.kind]

/-- An expected token is there, or is missing, with the tokens exchanged. -/
theorem expect_map (h : Translates f g) (kind : Token.Kind) (fault : SyntaxFault)
    (tokens : List Token) : expect kind fault (tokens.map f) =
      ((expect kind fault tokens).map (List.map f)).mapError (Failure.mapTokens f) := by
  cases tokens with
  | nil => rfl
  | cons t others =>
    simp only [List.map_cons, expect, h.kind]
    by_cases hk : t.kind = kind
    · rw [if_pos hk, if_pos hk]
      rfl
    · rw [if_neg hk, if_neg hk]
      rfl

/-- A chain goes on over the same operators. -/
theorem chainFrom_map (h : Translates f g) (hoperand : Commutes f g operand)
    (operators : List Token.Kind) (left : Expr) (tokens : List Token) :
    chainFrom operand operators (left.translate f g) (tokens.map f) =
      translateAnswer f g (chainFrom operand operators left tokens) := by
  have hkinds {t : Token} (hk : operators.contains t.kind = true) : (f t).kind ∈ operators := by
    rw [h.kind]
    exact List.contains_iff_mem.1 hk
  fun_induction chainFrom operand operators left tokens with
  | case1 left => exact chainFrom_of_stop (by simp)
  | case2 left t rest hk failure hrun =>
    have hrun' : operand.run (rest.map f) = .error (failure.mapTokens f) := by
      rw [hoperand, hrun]
      rfl
    exact chainFrom_of_fail (hkinds hk) hrun'
  | case3 left t rest hk right after hrun ih =>
    have hrun' : operand.run (rest.map f) = .ok (right.translate f g, after.map f) := by
      rw [hoperand, hrun]
      rfl
    rw [List.map_cons, chainFrom_of_link (hkinds hk) hrun']
    exact ih
  | case4 left t rest hk =>
    have hstop : (f t).kind ∉ operators := by
      rw [h.kind]
      exact fun hmem => hk (List.contains_iff_mem.2 hmem)
    apply chainFrom_of_stop
    intro t' ht'
    rw [← Option.some.inj ht']
    exact hstop

/-- Chains commute if their operands do. -/
theorem chain_commutes (h : Translates f g) (hoperand : Commutes f g operand)
    (operators : List Token.Kind) : Commutes f g (chain operand operators) := by
  intro tokens
  have hrun' := hoperand tokens
  cases hrun : operand.run tokens with
  | error failure =>
    rw [hrun] at hrun'
    rw [chain_run_of_error hrun, chain_run_of_error hrun']
    rfl
  | ok answer =>
    obtain ⟨left, rest⟩ := answer
    rw [hrun] at hrun'
    rw [chain_run_of_ok hrun, chain_run_of_ok hrun']
    exact chainFrom_map h hoperand operators left rest

/-- The branches of a conditional commute. -/
theorem branches_map (h : Translates f g) (hbranch : Commutes f g branch) (condition : Expr)
    (tokens : List Token) : branches branch (condition.translate f g) (tokens.map f) =
      translateAnswer f g (branches branch condition tokens) := by
  unfold branches
  rw [hbranch]
  cases branch.run tokens with
  | error failure => rfl
  | ok answer =>
    obtain ⟨first, rest⟩ := answer
    simp only [translateAnswer]
    rw [expect_map h]
    cases expect .colon missingColon rest with
    | error failure => rfl
    | ok after =>
      simp only [Except.map, Except.mapError]
      rw [hbranch]
      cases branch.run after with
      | error failure => rfl
      | ok answer => rfl

/-- A conditional commutes if its parts do. -/
theorem conditional_commutes (h : Translates f g) (hbranch : Commutes f g branch) :
    Commutes f g (conditional branch) := by
  intro tokens
  have hrun' := hbranch tokens
  cases hrun : branch.run tokens with
  | error failure =>
    rw [hrun] at hrun'
    rw [conditional_run_of_error hrun, conditional_run_of_error hrun']
    rfl
  | ok answer =>
    obtain ⟨condition, rest⟩ := answer
    rw [hrun] at hrun'
    cases rest with
    | nil =>
      rw [conditional_run_of_stop hrun (by simp), conditional_run_of_stop hrun' (by simp)]
      rfl
    | cons t others =>
      by_cases hk : t.kind = .question
      · have hk' : (f t).kind = .question := (h.kind t).trans hk
        rw [conditional_run_of_question hrun hk, conditional_run_of_question hrun' hk']
        exact branches_map h hbranch condition others
      · have hk' : (f t).kind ≠ .question := fun hq => hk ((h.kind t).symm.trans hq)
        rw [conditional_run_of_stop hrun (by simpa using hk),
          conditional_run_of_stop hrun' (by simpa using hk')]
        rfl

/-- Expressions commute if their operands do. -/
theorem expressionOf_commutes (h : Translates f g) (hoperand : Commutes f g operand) :
    Commutes f g (expressionOf operand) := by
  apply conditional_commutes h
  apply chain_commutes h
  apply chain_commutes h
  apply chain_commutes h
  apply chain_commutes h
  exact hoperand

/-- A negation has the exchanged operator. -/
theorem negated_map (hinner : Commutes f g inner) (t : Token) (tokens : List Token) :
    negated (f t) inner (tokens.map f) = translateAnswer f g (negated t inner tokens) := by
  unfold negated
  rw [hinner]
  cases inner.run tokens with
  | error failure => rfl
  | ok answer => rfl

/-- A parenthesized expression commutes if its operands do. -/
theorem parenthesized_map (h : Translates f g) (hinner : Commutes f g inner) (tokens : List Token) :
    parenthesized inner (tokens.map f) = translateAnswer f g (parenthesized inner tokens) := by
  unfold parenthesized
  rw [expressionOf_commutes h hinner]
  cases (expressionOf inner).run tokens with
  | error failure => rfl
  | ok answer =>
    obtain ⟨e, rest⟩ := answer
    simp only [translateAnswer]
    rw [expect_map h]
    cases expect .rightParen missingParenthesis rest with
    | error failure => rfl
    | ok after => rfl

/-- Operands commute if those one level deeper do. -/
theorem unary_commutes_of_inner (h : Translates f g) {n : Nat}
    (hinner : ∀ m, n = m + 1 → Commutes f g (unary m)) : Commutes f g (unary n) := by
  intro tokens
  cases tokens with
  | nil =>
    rw [List.map_nil, unary_run_nil]
    rfl
  | cons t rest =>
    rw [List.map_cons]
    rcases unary_run_cases n t rest with ⟨v, hv, hrun⟩ | ⟨m, rfl, hk, hrun⟩ | ⟨m, rfl, hk, hrun⟩ |
      ⟨rfl, hn, hrun⟩ | ⟨hv, hn, hrun⟩ <;> rw [hrun]
    · have hv' : literal? (f t) = some (g v) := by rw [literal?_apply h, hv, Option.map_some]
      rw [unary_run_of_literal hv']
      rfl
    · rw [← h.kind] at hk
      rw [unary_run_of_negation hk]
      exact negated_map (hinner m rfl) t rest
    · rw [← h.kind] at hk
      rw [unary_run_of_opening hk]
      exact parenthesized_map h (hinner m rfl) rest
    · rw [unary_run_of_limit ((isNesting_apply h t).2 hn)]
      rfl
    · have hv' : literal? (f t) = none := by rw [literal?_apply h, hv, Option.map_none]
      rw [unary_run_of_stray hv' fun hn' => hn ((isNesting_apply h t).1 hn')]
      rfl

/-- Operands commute at every level of nesting. -/
theorem unary_commutes (h : Translates f g) (n : Nat) : Commutes f g (unary n) := by
  induction n with
  | zero => exact unary_commutes_of_inner h fun m hm => by omega
  | succ n ih =>
    apply unary_commutes_of_inner h
    intro m hm
    obtain rfl : n = m := by omega
    exact ih

/-- **Expressions are read by kinds and literals.** -/
theorem expression_commutes (h : Translates f g) : Commutes f g expression :=
  expressionOf_commutes h (unary_commutes h maxNesting)

/-! ## Recovery and statements -/

/-- Recovery stops at the same place. -/
theorem skipFrom_map (h : Translates f g) (previous : Token) (tokens : List Token) :
    skipFrom (f previous) (tokens.map f) = (skipFrom previous tokens).map f := by
  induction tokens generalizing previous with
  | nil => rfl
  | cons t rest ih =>
    have hboundary : isBoundary (f previous) (f t) = isBoundary previous t := by
      unfold isBoundary
      rw [h.kind, h.kind]
    rw [List.map_cons, skipFrom, skipFrom, hboundary]
    by_cases hb : isBoundary previous t = true
    · rw [if_pos hb, if_pos hb, List.map_cons]
    · rw [if_neg hb, if_neg hb, ih]

theorem synchronize_map (h : Translates f g) (tokens : List Token) :
    synchronize (tokens.map f) = (synchronize tokens).map f := by
  cases tokens with
  | nil => rfl
  | cons t rest => exact skipFrom_map h t rest

/-- Reading goes on at the same token. -/
theorem Failure.rest_mapTokens (f : Token → Token) (failure : Failure) :
    (failure.mapTokens f).rest = failure.rest.map f := by
  obtain ⟨fault, found⟩ := failure
  cases fault with
  | tooDeep => exact List.map_tail.symm
  | missing | noExpression | trailing => rfl

/-- The same semicolon is dropped. -/
theorem dropSemicolon_map (h : Translates f g) (tokens : List Token) :
    dropSemicolon (tokens.map f) = (dropSemicolon tokens).map f := by
  cases tokens with
  | nil => rfl
  | cons t rest =>
    rw [List.map_cons, dropSemicolon, dropSemicolon, h.kind]
    by_cases hk : t.kind = .semicolon
    · rw [if_pos hk, if_pos hk]
    · rw [if_neg hk, if_neg hk, List.map_cons]

/-- **Reading to the end** does the same with exchanged tokens. -/
theorem complete_map (h : Translates f g) (tokens : List Token) :
    complete (tokens.map f) =
      (translateOutcome f g (complete tokens).1, (complete tokens).2.map f) := by
  unfold complete
  rw [expression_commutes h]
  cases expression.run tokens with
  | error failure =>
    simp only [translateAnswer, translateOutcome]
    rw [Failure.rest_mapTokens, synchronize_map h]
  | ok answer =>
    obtain ⟨e, rest⟩ := answer
    simp only [translateAnswer]
    rw [dropSemicolon_map h]
    cases dropSemicolon rest with
    | nil => rfl
    | cons t after =>
      simp only [List.map_cons, translateOutcome]
      rw [← List.map_cons, synchronize_map h]
      rfl

/-- **Reading a statement** does the same with exchanged tokens. -/
theorem statement_map (h : Translates f g) (tokens : List Token) :
    statement (tokens.map f) =
      (translateOutcome f g (statement tokens).1, (statement tokens).2.map f) := by
  unfold statement
  rw [expression_commutes h]
  cases expression.run tokens with
  | error failure =>
    simp only [translateAnswer, translateOutcome]
    rw [Failure.rest_mapTokens, synchronize_map h]
  | ok answer =>
    obtain ⟨e, rest⟩ := answer
    simp only [translateAnswer]
    rw [expect_map h]
    cases expect .semicolon missingSemicolon rest with
    | error failure =>
      simp only [Except.map, Except.mapError, translateOutcome]
      rw [synchronize_map h]
    | ok after => rfl

/-- **A batch** has the same outcomes with exchanged tokens. -/
theorem batch_map (h : Translates f g) (tokens : List Token) :
    batch (tokens.map f) = (batch tokens).map (translateOutcome f g) := by
  fun_induction batch tokens with
  | case1 => rw [List.map_nil, batch, List.map_nil]
  | case2 t rest ih =>
    rw [List.map_cons, batch, ← List.map_cons, statement_map h, ih, List.map_cons]

end Rules

/-! ## Parsing -/

section Parse

variable {f : Token → Token} {g : Value → Value} {tokens : List Token}

theorem Failure.error_mapTokens (f : Token → Token) (failure : Failure) (input : Input) :
    (failure.mapTokens f).error ⟨input.tokens.map f, f input.ending⟩ =
      (failure.error input).mapToken f := by
  obtain ⟨fault, found⟩ := failure
  cases found <;> rfl

/-- The input of exchanged tokens is the exchanged input, if the list has a token for its end. -/
theorem input_map (h : Translates f g) (hend : ∃ t ∈ tokens, t.isEnd = true) :
    Input.ofTokens (tokens.map f) =
      ⟨(Input.ofTokens tokens).tokens.map f, f (Input.ofTokens tokens).ending⟩ := by
  have hkind : (fun t : Token => ! t.isEnd) ∘ f = fun t => ! t.isEnd := by
    funext t
    show (! (f t).isEnd) = _
    rw [Token.isEnd, h.kind, Token.isEnd]
  have htokens : (Input.ofTokens (tokens.map f)).tokens = (Input.ofTokens tokens).tokens.map f := by
    simp only [Input.ofTokens, List.takeWhile_map, hkind]
  have hending : (Input.ofTokens (tokens.map f)).ending = f (Input.ofTokens tokens).ending := by
    obtain ⟨others, hcons⟩ := Input.dropWhile_eq_cons hend
    have hdrop : (tokens.map f).dropWhile (! ·.isEnd) =
        f (Input.ofTokens tokens).ending :: others.map f := by
      rw [List.dropWhile_map, hkind, hcons, List.map_cons]
    show ((tokens.map f).dropWhile (! ·.isEnd)).head?.getD _ = _
    rw [hdrop, List.head?_cons, Option.getD_some]
  calc Input.ofTokens (tokens.map f)
      = ⟨(Input.ofTokens (tokens.map f)).tokens, (Input.ofTokens (tokens.map f)).ending⟩ := rfl
    _ = ⟨(Input.ofTokens tokens).tokens.map f, f (Input.ofTokens tokens).ending⟩ := by
        rw [htokens, hending]

/-- **Parsing** finds the same tree or the same error, with the tokens and the values exchanged. -/
theorem parse_map (h : Translates f g) (hend : ∃ t ∈ tokens, t.isEnd = true) :
    parse (tokens.map f) = { tree? := (parse tokens).tree?.map (·.translate f g),
                             syntactic := (parse tokens).syntactic.map (·.mapToken f) } := by
  simp only [parse]
  rw [input_map h hend, complete_map h]
  cases (complete (Input.ofTokens tokens).tokens).1 with
  | ok e => rfl
  | error failure =>
    simp only [translateOutcome, Failure.error_mapTokens, Option.map_none, List.map_singleton]

end Parse


end Parsing

end LoxSyntax
