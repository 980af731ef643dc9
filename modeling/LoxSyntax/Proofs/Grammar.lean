/-
# The grammar of expressions

The phrases of the expression language, given by derivations and without reference to how they are
read:

* `expression` is a `ternary`;
* `ternary` is an `equality`, or three of them around `?` and `:`;
* `equality`, `comparison`, `term` and `factor` are left-associative chains over the next level;
* `unary` is `!` or `-` before a `unary`, or a `primary`;
* `primary` is a number, a string, `true`, `false`, `nil` or an `expression` in parentheses.

A sentence is an expression within a bound on its nesting, with or without a semicolon behind it.
-/
import Mathlib.Data.List.Basic
import LoxSyntax.Parsing.Expression

namespace LoxSyntax

/-! ## Nesting and yield of a tree -/

/-- The greatest number of unary operators and groupings on a path from the root to a leaf. -/
def Expr.nesting : Expr → Nat
  | .binary left _ right => max left.nesting right.nesting
  | .grouping inner => inner.nesting + 1
  | .literal _ => 0
  | .unary _ right => right.nesting + 1
  | .ternary condition thenBranch elseBranch =>
    max condition.nesting (max thenBranch.nesting elseBranch.nesting)

/-- What a tree tells about one token of its phrase: operators are kept as they are, literals by
their value, and the other tokens by their role. -/
inductive Mark where
  | operator (t : Token)
  | literal (v : Value)
  | question
  | colon
  | opening
  | closing
  deriving DecidableEq, Repr

/-- The mark that a token leaves in the tree. -/
def Token.mark (t : Token) : Mark :=
  match t.kind with
  | .leftParen => .opening
  | .rightParen => .closing
  | .question => .question
  | .colon => .colon
  | .number | .string => .literal t.literal
  | .kwTrue => .literal (.bool true)
  | .kwFalse => .literal (.bool false)
  | .kwNil => .literal .nil
  | _ => .operator t

/-- The marks of a tree, read in order from left to right. -/
def Expr.yield : Expr → List Mark
  | .binary left operator right => left.yield ++ .operator operator :: right.yield
  | .grouping inner => .opening :: (inner.yield ++ [.closing])
  | .literal value => [.literal value]
  | .unary operator right => .operator operator :: right.yield
  | .ternary condition thenBranch elseBranch =>
    condition.yield ++ .question :: (thenBranch.yield ++ .colon :: elseBranch.yield)

namespace Grammar

/-! ## Derivations -/

/-- The levels of binary operators, from the loosest to the tightest. -/
inductive Level where
  | equality
  | comparison
  | term
  | factor
  deriving DecidableEq, Repr

/-- The operators of a level. -/
def Level.operators : Level → List Token.Kind
  | .equality => [.bangEqual, .equalEqual]
  | .comparison => [.greater, .greaterEqual, .less, .lessEqual]
  | .term => [.minus, .plus]
  | .factor => [.slash, .star]

/-- The nonterminals. -/
inductive Nonterminal where
  | expression
  | ternary
  | chain (level : Level)
  | unary
  | primary
  deriving DecidableEq, Repr

/-- The nonterminal whose phrases a chain links. -/
def Level.operand : Level → Nonterminal
  | .equality => .chain .comparison
  | .comparison => .chain .term
  | .term => .chain .factor
  | .factor => .unary

/-- The operands of a level are at least unary phrases. -/
theorem Level.operand_ne_primary (level : Level) : level.operand ≠ .primary := by
  cases level <;> decide

/-- Induction from the tightest nonterminal to the loosest: each one rests on the next tighter. -/
@[elab_as_elim]
theorem Nonterminal.byPrecedence {motive : Nonterminal → Prop} (primary : motive .primary)
    (unary : motive .primary → motive .unary)
    (chain : ∀ level : Level, motive level.operand → motive (.chain level))
    (ternary : motive (.chain .equality) → motive .ternary)
    (expression : motive .ternary → motive .expression) (nt : Nonterminal) : motive nt := by
  have operands : motive .unary := unary primary
  have factors : motive (.chain .factor) := chain .factor operands
  have terms : motive (.chain .term) := chain .term factors
  have comparisons : motive (.chain .comparison) := chain .comparison terms
  have equalities : motive (.chain .equality) := chain .equality comparisons
  cases nt with
  | expression => exact expression (ternary equalities)
  | ternary => exact ternary equalities
  | chain level =>
    cases level
    · exact equalities
    · exact comparisons
    · exact terms
    · exact factors
  | unary => exact operands
  | primary => exact primary

/-- A list of tokens is a phrase of a nonterminal, with the given tree. -/
inductive Derives : Nonterminal → List Token → Expr → Prop where
  | expression {ts : List Token} {e : Expr} :
      Derives .ternary ts e → Derives .expression ts e
  | plain {ts : List Token} {e : Expr} :
      Derives (.chain .equality) ts e → Derives .ternary ts e
  | conditional {cs ts es : List Token} {c t e : Expr} {question colon : Token} :
      Derives (.chain .equality) cs c → question.kind = .question →
      Derives (.chain .equality) ts t → colon.kind = .colon →
      Derives (.chain .equality) es e →
      Derives .ternary (cs ++ question :: (ts ++ colon :: es)) (.ternary c t e)
  | operand {level : Level} {ts : List Token} {e : Expr} :
      Derives level.operand ts e → Derives (.chain level) ts e
  | link {level : Level} {ls rs : List Token} {l r : Expr} {operator : Token} :
      Derives (.chain level) ls l → operator.kind ∈ level.operators →
      Derives level.operand rs r →
      Derives (.chain level) (ls ++ operator :: rs) (.binary l operator r)
  | negation {ts : List Token} {e : Expr} {operator : Token} :
      operator.kind = .bang ∨ operator.kind = .minus → Derives .unary ts e →
      Derives .unary (operator :: ts) (.unary operator e)
  | primary {ts : List Token} {e : Expr} :
      Derives .primary ts e → Derives .unary ts e
  | constant {t : Token} :
      t.kind = .number ∨ t.kind = .string → Derives .primary [t] (.literal t.literal)
  | trueWord {t : Token} : t.kind = .kwTrue → Derives .primary [t] (.literal (.bool true))
  | falseWord {t : Token} : t.kind = .kwFalse → Derives .primary [t] (.literal (.bool false))
  | nilWord {t : Token} : t.kind = .kwNil → Derives .primary [t] (.literal .nil)
  | grouping {ts : List Token} {e : Expr} {opening closing : Token} :
      opening.kind = .leftParen → Derives .expression ts e → closing.kind = .rightParen →
      Derives .primary (opening :: (ts ++ [closing])) (.grouping e)

/-- The second list is the first one less an optional semicolon at its end. -/
def IsBody (ts body : List Token) : Prop :=
  ts = body ∨ ∃ semicolon, semicolon.kind = .semicolon ∧ ts = body ++ [semicolon]

/-- A list of tokens is an expression with the given tree, nested no deeper than the limit, with or
without a semicolon behind it. -/
def Sentence (limit : Nat) (ts : List Token) (e : Expr) : Prop :=
  ∃ body, IsBody ts body ∧ Derives .expression body e ∧ e.nesting ≤ limit

/-- A list of tokens is a sentence. -/
def IsSentence (limit : Nat) (ts : List Token) : Prop := ∃ e, Sentence limit ts e

/-- A list of tokens starts a sentence. -/
def IsViable (limit : Nat) (ts : List Token) : Prop := ∃ more, IsSentence limit (ts ++ more)

/-! ## The tokens of a phrase -/

variable {nt : Nonterminal} {ts : List Token} {e : Expr}

/-- The kinds of tokens that no phrase holds. -/
def strangers : List Token.Kind :=
  [.leftBrace, .rightBrace, .comma, .dot, .semicolon, .equal, .identifier, .kwAnd, .kwClass,
    .kwElse, .kwFun, .kwFor, .kwIf, .kwOr, .kwPrint, .kwReturn, .kwSuper, .kwThis, .kwVar,
    .kwWhile, .endOfInput]

/-- An operator of a level is no stranger. -/
theorem Level.not_mem_strangers (level : Level) {k : Token.Kind} (hk : k ∈ level.operators) :
    k ∉ strangers := by
  revert k
  cases level <;> decide

/-- **A phrase holds no strangers**, so in particular no semicolon and no end of input. -/
theorem Derives.not_mem_strangers (h : Derives nt ts e) : ∀ t ∈ ts, t.kind ∉ strangers := by
  induction h with
  | expression _ ih => exact ih
  | plain _ ih => exact ih
  | conditional _ hq _ hc _ ihc iht ihe =>
    intro t ht
    simp only [List.mem_append, List.mem_cons] at ht
    rcases ht with ht | rfl | ht | rfl | ht
    · exact ihc t ht
    · rw [hq]; decide
    · exact iht t ht
    · rw [hc]; decide
    · exact ihe t ht
  | operand _ ih => exact ih
  | link _ ho _ ihl ihr =>
    intro t ht
    simp only [List.mem_append, List.mem_cons] at ht
    rcases ht with ht | rfl | ht
    · exact ihl t ht
    · exact Level.not_mem_strangers _ ho
    · exact ihr t ht
  | negation ho _ ih =>
    intro t ht
    rcases List.mem_cons.1 ht with rfl | ht
    · rcases ho with ho | ho <;> (rw [ho]; decide)
    · exact ih t ht
  | primary _ ih => exact ih
  | constant hk =>
    intro t ht
    rw [List.mem_singleton.1 ht]
    rcases hk with hk | hk <;> (rw [hk]; decide)
  | trueWord hk | falseWord hk | nilWord hk =>
    intro t ht
    rw [List.mem_singleton.1 ht, hk]
    decide
  | grouping ho _ hc ih =>
    intro t ht
    simp only [List.mem_append, List.mem_cons, List.not_mem_nil, or_false] at ht
    rcases ht with rfl | ht | rfl
    · rw [ho]; decide
    · exact ih t ht
    · rw [hc]; decide

/-- An operator token leaves itself in the tree. -/
theorem Level.mark_of_mem (level : Level) {t : Token} (ht : t.kind ∈ level.operators) :
    t.mark = .operator t := by
  unfold Token.mark
  simp only [Level.operators] at ht
  cases level with
  | comparison =>
    simp only [List.mem_cons, List.not_mem_nil, or_false] at ht
    rcases ht with h | h | h | h <;> rw [h]
  | equality | term | factor =>
    simp only [List.mem_cons, List.not_mem_nil, or_false] at ht
    rcases ht with h | h <;> rw [h]

/-- **The yield of a tree is its phrase**: nothing is lost, doubled or put in another place. -/
theorem Derives.map_mark (h : Derives nt ts e) : ts.map Token.mark = e.yield := by
  induction h with
  | expression _ ih => exact ih
  | plain _ ih => exact ih
  | conditional _ hq _ hc _ ihc iht ihe =>
    simp only [List.map_append, List.map_cons, ihc, iht, ihe, Expr.yield, Token.mark, hq, hc]
  | operand _ ih => exact ih
  | link _ ho _ ihl ihr =>
    simp only [List.map_append, List.map_cons, ihl, ihr, Expr.yield, Level.mark_of_mem _ ho]
  | negation ho _ ih =>
    rcases ho with ho | ho <;> simp only [List.map_cons, ih, Expr.yield, Token.mark, ho]
  | primary _ ih => exact ih
  | constant hk => rcases hk with hk | hk <;> simp [Expr.yield, Token.mark, hk]
  | trueWord hk | falseWord hk | nilWord hk => simp [Expr.yield, Token.mark, hk]
  | grouping ho _ hc ih =>
    simp only [List.map_append, List.map_cons, List.map_nil, ih, Expr.yield, Token.mark, ho, hc]

end Grammar

end LoxSyntax
