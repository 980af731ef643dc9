/-
# Postfix form

In the postfix form operands come before their operator and groupings vanish, since the order
already fixes the evaluation: `(1 + 2) * 3` becomes `1 2 + 3 *`.
-/
import LoxSyntax.Expr.Basic

namespace LoxSyntax.Expr

/-- The postfix form.  Operands are written from left to right, and the first one without a
spelling decides. -/
def postfixForm : Expr → Except Value.Unrenderable String
  | binary left operator right => do
    let first ← left.postfixForm
    let second ← right.postfixForm
    return first ++ " " ++ second ++ " " ++ operator.lexeme
  | grouping inner => inner.postfixForm
  | literal value => value.spelling
  | unary operator right => do
    let operand ← right.postfixForm
    return operand ++ " " ++ operator.lexeme
  | ternary condition thenBranch elseBranch => do
    let first ← condition.postfixForm
    let second ← thenBranch.postfixForm
    let third ← elseBranch.postfixForm
    return first ++ " " ++ second ++ " " ++ third ++ " ?:"

end LoxSyntax.Expr
