/-
# Prefix form

The prefix form of an expression is fully parenthesized, with the operator in front:
`1 + 2 * 3` becomes `(+ 1 (* 2 3))`.
-/
import LoxSyntax.Expr.Basic

namespace LoxSyntax.Expr

/-- The prefix form.  Operands are written from left to right, and the first one without a spelling
decides. -/
def prefixForm : Expr → Except Value.Unrenderable String
  | binary left operator right => do
    let first ← left.prefixForm
    let second ← right.prefixForm
    return "(" ++ operator.lexeme ++ " " ++ first ++ " " ++ second ++ ")"
  | grouping inner => do
    let body ← inner.prefixForm
    return "(group " ++ body ++ ")"
  | literal value => value.spelling
  | unary operator right => do
    let operand ← right.prefixForm
    return "(" ++ operator.lexeme ++ " " ++ operand ++ ")"
  | ternary condition thenBranch elseBranch => do
    let first ← condition.prefixForm
    let second ← thenBranch.prefixForm
    let third ← elseBranch.prefixForm
    return "(?: " ++ first ++ " " ++ second ++ " " ++ third ++ ")"

end LoxSyntax.Expr
