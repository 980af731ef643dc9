/-
# Grammar rules

A rule of the grammar reads an expression from the front of a list of tokens and leaves the tokens
after it, or fails at a token.  A rule that succeeds has read at least one token, and a rule that
fails does so at one of the tokens it was given or at their end; both facts are part of a rule, so
that repeating a rule always comes to an end.

The lists hold no token that ends the input: the end of the list is the end of the input.
-/
import LoxSyntax.Diagnostic.Syntactic
import LoxSyntax.Expr.Basic

namespace LoxSyntax.Parsing

/-! ## Progress -/

/-- The list is what remains of another after one element at least. -/
def ProperSuffix (rest tokens : List Token) : Prop :=
  ∃ first others, tokens = first :: others ∧ rest <:+ others

namespace ProperSuffix

variable {a b c : List Token}

theorem tail (t : Token) (rest : List Token) : ProperSuffix rest (t :: rest) :=
  ⟨t, rest, rfl, List.suffix_rfl⟩

theorem suffix (h : ProperSuffix a b) : a <:+ b := by
  obtain ⟨first, others, rfl, s⟩ := h
  exact s.trans (List.suffix_cons first others)

theorem length_lt (h : ProperSuffix a b) : a.length < b.length := by
  obtain ⟨first, others, rfl, s⟩ := h
  exact Nat.lt_succ_of_le s.length_le

theorem of_suffix (s : a <:+ b) (h : ProperSuffix b c) : ProperSuffix a c := by
  obtain ⟨first, others, rfl, t⟩ := h
  exact ⟨first, others, rfl, s.trans t⟩

theorem trans (h : ProperSuffix a b) (k : ProperSuffix b c) : ProperSuffix a c :=
  of_suffix h.suffix k

end ProperSuffix

/-! ## Rules -/

/-- A failure to read an expression: what is wrong, and the tokens from the one at fault on. -/
structure Failure where
  fault : SyntaxFault
  found : List Token
  deriving DecidableEq, Repr

/-- An expression and the tokens after it, or a failure. -/
abbrev Answer := Except Failure (Expr × List Token)

/-- A rule of the grammar. -/
structure Rule where
  run : List Token → Answer
  rest_suffix : ∀ {tokens e rest}, run tokens = .ok (e, rest) → ProperSuffix rest tokens
  found_suffix : ∀ {tokens f}, run tokens = .error f → f.found <:+ tokens

/-- Reads one token of a kind, or fails at the token that stands in its place. -/
def expect (kind : Token.Kind) (fault : SyntaxFault) : List Token → Except Failure (List Token)
  | [] => .error ⟨fault, []⟩
  | t :: rest => if t.kind = kind then .ok rest else .error ⟨fault, t :: rest⟩

/-- The token that was expected has been read. -/
theorem expect_ok {kind : Token.Kind} {fault : SyntaxFault} {tokens rest : List Token}
    (h : expect kind fault tokens = .ok rest) : ProperSuffix rest tokens := by
  cases tokens with
  | nil => simp [expect] at h
  | cons t others =>
    simp only [expect] at h
    split at h
    · cases h
      exact .tail t _
    · cases h

/-- The failure is where the token was expected. -/
theorem expect_error {kind : Token.Kind} {fault : SyntaxFault} {tokens : List Token} {f : Failure}
    (h : expect kind fault tokens = .error f) : f = ⟨fault, tokens⟩ := by
  cases tokens with
  | nil => exact (Except.error.inj h).symm
  | cons t others =>
    simp only [expect] at h
    split at h
    · cases h
    · exact (Except.error.inj h).symm

/-! ## Chains of operators -/

/-- Reads operators and operands in turn, and hangs the operands below the operators from the left,
starting with the given operand. -/
def chainFrom (operand : Rule) (operators : List Token.Kind) (left : Expr) : List Token → Answer
  | [] => .ok (left, [])
  | t :: rest =>
    if operators.contains t.kind then
      match _run : operand.run rest with
      | .error f => .error f
      | .ok (right, after) => chainFrom operand operators (.binary left t right) after
    else .ok (left, t :: rest)
termination_by tokens => tokens.length
decreasing_by
  have shorter := (operand.rest_suffix _run).length_lt
  simp only [List.length_cons]
  omega

/-- What a chain leaves is a suffix. -/
theorem chainFrom_ok {operand : Rule} {operators : List Token.Kind} {left e : Expr}
    {tokens rest : List Token} (h : chainFrom operand operators left tokens = .ok (e, rest)) :
    rest <:+ tokens := by
  fun_induction chainFrom operand operators left tokens with
  | case1 left =>
    cases h
    exact List.suffix_rfl
  | case2 left t others _ f _ => cases h
  | case3 left t others _ right after run ih =>
    exact (ih h).trans ((operand.rest_suffix run).suffix.trans (List.suffix_cons t others))
  | case4 left t others _ =>
    cases h
    exact List.suffix_rfl

/-- A chain fails inside its tokens. -/
theorem chainFrom_error {operand : Rule} {operators : List Token.Kind} {left : Expr}
    {tokens : List Token} {f : Failure} (h : chainFrom operand operators left tokens = .error f) :
    f.found <:+ tokens := by
  fun_induction chainFrom operand operators left tokens with
  | case1 left => cases h
  | case2 left t others _ g run =>
    cases h
    exact (operand.found_suffix run).trans (List.suffix_cons t others)
  | case3 left t others _ right after run ih =>
    exact (ih h).trans ((operand.rest_suffix run).suffix.trans (List.suffix_cons t others))
  | case4 left t others _ => cases h

/-- The left-associative chain of one level of operators. -/
def chain (operand : Rule) (operators : List Token.Kind) : Rule where
  run tokens :=
    match operand.run tokens with
    | .error f => .error f
    | .ok (left, rest) => chainFrom operand operators left rest
  rest_suffix h := by
    split at h
    · cases h
    · rename_i run
      exact .of_suffix (chainFrom_ok h) (operand.rest_suffix run)
  found_suffix h := by
    split at h
    · rename_i run
      cases h
      exact operand.found_suffix run
    · rename_i run
      exact (chainFrom_error h).trans (operand.rest_suffix run).suffix

/-! ## Conditionals -/

/-- The complaint about a conditional without its second half. -/
def missingColon : SyntaxFault :=
  .missing "Expect ':' after then branch of conditional expression."

/-- Reads the two branches of a conditional behind its question mark. -/
def branches (branch : Rule) (condition : Expr) (tokens : List Token) : Answer :=
  match branch.run tokens with
  | .error f => .error f
  | .ok (thenBranch, rest) =>
    match expect .colon missingColon rest with
    | .error f => .error f
    | .ok rest =>
      match branch.run rest with
      | .error f => .error f
      | .ok (elseBranch, rest) => .ok (.ternary condition thenBranch elseBranch, rest)

/-- The branches of a conditional take at least one token. -/
theorem branches_ok {branch : Rule} {condition e : Expr} {tokens rest : List Token}
    (h : branches branch condition tokens = .ok (e, rest)) : ProperSuffix rest tokens := by
  unfold branches at h
  split at h
  · cases h
  · rename_i first
    split at h
    · cases h
    · rename_i colon
      split at h
      · cases h
      · rename_i second
        cases h
        exact ((branch.rest_suffix second).trans (expect_ok colon)).trans (branch.rest_suffix first)

/-- The branches of a conditional fail inside their tokens. -/
theorem branches_error {branch : Rule} {condition : Expr} {tokens : List Token} {f : Failure}
    (h : branches branch condition tokens = .error f) : f.found <:+ tokens := by
  unfold branches at h
  split at h
  · rename_i first
    cases h
    exact branch.found_suffix first
  · rename_i first
    split at h
    · rename_i colon
      cases h
      rw [expect_error colon]
      exact (branch.rest_suffix first).suffix
    · rename_i colon
      split at h
      · rename_i second
        cases h
        exact (branch.found_suffix second).trans
          ((expect_ok colon).suffix.trans (branch.rest_suffix first).suffix)
      · cases h

/-- An expression of the branch level, or a conditional of three of them. -/
def conditional (branch : Rule) : Rule where
  run tokens :=
    match branch.run tokens with
    | .error f => .error f
    | .ok (condition, []) => .ok (condition, [])
    | .ok (condition, t :: rest) =>
      if t.kind = .question then branches branch condition rest else .ok (condition, t :: rest)
  rest_suffix h := by
    split at h
    · cases h
    · rename_i run
      cases h
      exact branch.rest_suffix run
    · rename_i t rest run
      split at h
      · exact (branches_ok h).trans ((ProperSuffix.tail t rest).trans (branch.rest_suffix run))
      · cases h
        exact branch.rest_suffix run
  found_suffix h := by
    split at h
    · rename_i run
      cases h
      exact branch.found_suffix run
    · cases h
    · rename_i t rest run
      split at h
      · exact (branches_error h).trans
          ((ProperSuffix.tail t rest).suffix.trans (branch.rest_suffix run).suffix)
      · cases h

end LoxSyntax.Parsing
