/-
# Expressions

The trees of the expression language.  Operators are kept as the tokens they were read from, and
parentheses are kept as nodes of their own.
-/
import LoxSyntax.Token.Basic

namespace LoxSyntax

/-- An expression tree. -/
inductive Expr where
  | binary (left : Expr) (operator : Token) (right : Expr)
  | grouping (inner : Expr)
  | literal (value : Value)
  | unary (operator : Token) (right : Expr)
  | ternary (condition thenBranch elseBranch : Expr)
  deriving DecidableEq, Repr

namespace Expr

/-- Trees agree if they have the same shape, and their operators and literals agree. -/
def agrees : Expr → Expr → Bool
  | binary a s b, binary c t d => a.agrees c && s.agrees t && b.agrees d
  | grouping a, grouping b => a.agrees b
  | literal v, literal w => v.agrees w
  | unary s a, unary t b => s.agrees t && a.agrees b
  | ternary a b c, ternary d e f => a.agrees d && b.agrees e && c.agrees f
  | _, _ => false

/-- The values at the leaves, from left to right. -/
def literals : Expr → List Value
  | binary left _ right => left.literals ++ right.literals
  | grouping inner => inner.literals
  | literal value => [value]
  | unary _ right => right.literals
  | ternary condition thenBranch elseBranch =>
    condition.literals ++ thenBranch.literals ++ elseBranch.literals

end Expr

end LoxSyntax
