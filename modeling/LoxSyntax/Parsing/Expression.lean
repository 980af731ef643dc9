/-
# The expression grammar

From the loosest to the tightest, an expression is a conditional, an equality, a comparison, a sum,
a product, or an operand: a literal, a parenthesized expression, or one of these behind unary
operators.  The branches of a conditional are equalities, so a conditional inside a branch needs
parentheses.

Open parentheses and stacked unary operators count as nesting.  How deep they may still go is the
argument on which the grammar recurses.
-/
import LoxSyntax.Parsing.Rule

namespace LoxSyntax.Parsing

/-! ## Levels of operators -/

/-- Products. -/
def factor (unary : Rule) : Rule := chain unary [.slash, .star]

/-- Sums of products. -/
def term (unary : Rule) : Rule := chain (factor unary) [.minus, .plus]

/-- Comparisons of sums. -/
def comparison (unary : Rule) : Rule :=
  chain (term unary) [.greater, .greaterEqual, .less, .lessEqual]

/-- Equalities of comparisons. -/
def equality (unary : Rule) : Rule := chain (comparison unary) [.bangEqual, .equalEqual]

/-- Expressions whose operands are read by the given rule. -/
def expressionOf (unary : Rule) : Rule := conditional (equality unary)

/-! ## Operands -/

/-- The complaint about a parenthesis that is not closed. -/
def missingParenthesis : SyntaxFault := .missing "Expect ')' after expression."

/-- The value of a token that is a literal by itself. -/
def literal? (t : Token) : Option Value :=
  match t.kind with
  | .kwFalse => some (.bool false)
  | .kwTrue => some (.bool true)
  | .kwNil => some .nil
  | .number | .string => some t.literal
  | _ => none

/-- Reads the operand of a unary operator. -/
def negated (operator : Token) (inner : Rule) (tokens : List Token) : Answer :=
  match inner.run tokens with
  | .error f => .error f
  | .ok (right, rest) => .ok (.unary operator right, rest)

/-- Reads an expression and the parenthesis that closes it. -/
def parenthesized (inner : Rule) (tokens : List Token) : Answer :=
  match (expressionOf inner).run tokens with
  | .error f => .error f
  | .ok (e, rest) =>
    match expect .rightParen missingParenthesis rest with
    | .error f => .error f
    | .ok rest => .ok (.grouping e, rest)

/-- Reads an operand that starts with the given token.  The rule for the operands one level deeper
is missing where the nesting has come to its limit, and then the token that would go deeper is at
fault. -/
def operandFrom (inner? : Option Rule) (t : Token) (rest : List Token) : Answer :=
  match literal? t, t.kind, inner? with
  | some value, _, _ => .ok (.literal value, rest)
  | none, .bang, some inner | none, .minus, some inner => negated t inner rest
  | none, .leftParen, some inner => parenthesized inner rest
  | none, .bang, none | none, .minus, none | none, .leftParen, none => .error ⟨.tooDeep, t :: rest⟩
  | none, _, _ => .error ⟨.noExpression, t :: rest⟩

/-- Reads an operand. -/
def readOperand (inner? : Option Rule) : List Token → Answer
  | [] => .error ⟨.noExpression, []⟩
  | t :: rest => operandFrom inner? t rest

/-- What a negation leaves is a suffix. -/
theorem negated_ok {operator : Token} {inner : Rule} {tokens rest : List Token} {e : Expr}
    (h : negated operator inner tokens = .ok (e, rest)) : rest <:+ tokens := by
  unfold negated at h
  split at h
  · cases h
  · rename_i run
    cases h
    exact (inner.rest_suffix run).suffix

/-- A negation fails inside its tokens. -/
theorem negated_error {operator : Token} {inner : Rule} {tokens : List Token} {f : Failure}
    (h : negated operator inner tokens = .error f) : f.found <:+ tokens := by
  unfold negated at h
  split at h
  · rename_i run
    cases h
    exact inner.found_suffix run
  · cases h

/-- What a closed parenthesis leaves is a suffix. -/
theorem parenthesized_ok {inner : Rule} {tokens rest : List Token} {e : Expr}
    (h : parenthesized inner tokens = .ok (e, rest)) : rest <:+ tokens := by
  unfold parenthesized at h
  split at h
  · cases h
  · rename_i run
    split at h
    · cases h
    · rename_i closing
      cases h
      exact (expect_ok closing).suffix.trans ((expressionOf inner).rest_suffix run).suffix

/-- A parenthesis fails inside its tokens. -/
theorem parenthesized_error {inner : Rule} {tokens : List Token} {f : Failure}
    (h : parenthesized inner tokens = .error f) : f.found <:+ tokens := by
  unfold parenthesized at h
  split at h
  · rename_i run
    cases h
    exact (expressionOf inner).found_suffix run
  · rename_i run
    split at h
    · rename_i closing
      cases h
      rw [expect_error closing]
      exact ((expressionOf inner).rest_suffix run).suffix
    · cases h

/-- What an operand leaves comes after its first token. -/
theorem operandFrom_ok {inner? : Option Rule} {t : Token} {rest after : List Token} {e : Expr}
    (h : operandFrom inner? t rest = .ok (e, after)) : after <:+ rest := by
  unfold operandFrom at h
  split at h
  · cases h
    exact List.suffix_rfl
  · exact negated_ok h
  · exact negated_ok h
  · exact parenthesized_ok h
  all_goals cases h

/-- An operand fails at its first token or behind it. -/
theorem operandFrom_error {inner? : Option Rule} {t : Token} {rest : List Token} {f : Failure}
    (h : operandFrom inner? t rest = .error f) : f.found <:+ t :: rest := by
  unfold operandFrom at h
  split at h
  · cases h
  · exact (negated_error h).trans (List.suffix_cons t rest)
  · exact (negated_error h).trans (List.suffix_cons t rest)
  · exact (parenthesized_error h).trans (List.suffix_cons t rest)
  all_goals
    cases h
    exact List.suffix_rfl

/-- The rule for operands, given the one for the operands one level deeper. -/
def operand (inner? : Option Rule) : Rule where
  run := readOperand inner?
  rest_suffix {tokens _ _} h := by
    cases tokens with
    | nil => cases h
    | cons t rest => exact ⟨t, rest, rfl, operandFrom_ok h⟩
  found_suffix {tokens _} h := by
    cases tokens with
    | nil =>
      cases h
      exact List.suffix_rfl
    | cons t rest => exact operandFrom_error h

/-! ## Nesting -/

/-- Operands that may still nest so many levels deep. -/
def unary : Nat → Rule
  | 0 => operand none
  | budget + 1 => operand (some (unary budget))

/-- The greatest number of parentheses and unary operators around a literal. -/
def maxNesting : Nat := 48

/-- Expressions within the nesting limit. -/
def expression : Rule := expressionOf (unary maxNesting)

end LoxSyntax.Parsing
