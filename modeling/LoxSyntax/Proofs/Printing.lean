/-
# Literals without a spelling

Both forms of an expression write its operands from left to right.  So a form is missing exactly if
some literal has no spelling, and the first such literal from the left is the one complained about,
whichever form is asked for: both forms fail together, with the same message.
-/
import LoxSyntax.Expr.Postfix
import LoxSyntax.Expr.Prefix

namespace LoxSyntax

/-! ## The error of a computation -/

section Failing

variable {ε α β : Type}

/-- The error with which a computation ends, if it fails. -/
def failure? : Except ε α → Option ε
  | .error e => some e
  | .ok _ => none

/-- A computation ends with the error that it fails with. -/
theorem eq_error_iff_failure? {x : Except ε α} {e : ε} : x = .error e ↔ failure? x = some e := by
  cases x with
  | error e' => rw [failure?, Except.error.injEq, Option.some.injEq]
  | ok a => exact iff_of_false (fun h => by cases h) (fun h => by cases h)

/-- A computation that goes on after another one fails with the first error of the two. -/
theorem failure?_bind {x : Except ε α} {f : α → Except ε β} {behind : Option ε}
    (h : ∀ a, failure? (f a) = behind) : failure? (x >>= f) = (failure? x).or behind := by
  cases x with
  | error e => rfl
  | ok a => exact h a

/-- Nothing fails behind the last computation. -/
theorem failure?_return (x : Except ε α) (g : α → β) :
    failure? (do let a ← x; return g a) = failure? x := by
  cases x with
  | error e => rfl
  | ok a => rfl

/-- A computation that does not fail has a result. -/
theorem exists_ok_of_failure? {x : Except ε α} (h : failure? x = none) : ∃ a, x = .ok a := by
  cases x with
  | error e => cases h
  | ok a => exact ⟨a, rfl⟩

end Failing

/-! ## Both forms fail together -/

/-- The complaint about the value, if it has no spelling. -/
def Value.unrenderable? : Value → Option Unrenderable
  | foreign typeName => some ⟨typeName⟩
  | _ => none

/-- A value has a spelling unless there is a complaint about it. -/
theorem Value.failure?_spelling (value : Value) :
    failure? value.spelling = value.unrenderable? := by
  cases value with
  | number x =>
    rw [spelling]
    split <;> rfl
  | _ => rfl

namespace Expr

variable (e left right condition thenBranch elseBranch : Expr) (operator : Token)

/-- The complaint about the first literal from the left that has no spelling. -/
def unrenderable? : Option Value.Unrenderable := e.literals.findSome? Value.unrenderable?

theorem unrenderable?_binary : (binary left operator right).unrenderable? =
    left.unrenderable?.or right.unrenderable? := List.findSome?_append

theorem unrenderable?_ternary : (ternary condition thenBranch elseBranch).unrenderable? =
    condition.unrenderable?.or (thenBranch.unrenderable?.or elseBranch.unrenderable?) := by
  simp only [unrenderable?, literals, List.findSome?_append, Option.or_assoc]

theorem unrenderable?_literal (value : Value) :
    (literal value).unrenderable? = value.unrenderable? := by
  rw [unrenderable?, literals, List.findSome?_singleton]

/-- **The prefix form fails at the first literal without a spelling.** -/
theorem failure?_prefixForm : failure? e.prefixForm = e.unrenderable? := by
  induction e with
  | binary left operator right ihLeft ihRight =>
    rw [unrenderable?_binary, ← ihLeft, ← ihRight]
    exact failure?_bind fun first => failure?_return right.prefixForm _
  | grouping inner ih => exact (failure?_return inner.prefixForm _).trans ih
  | literal value => exact value.failure?_spelling.trans (unrenderable?_literal value).symm
  | unary operator right ih => exact (failure?_return right.prefixForm _).trans ih
  | ternary condition thenBranch elseBranch ihCondition ihThen ihElse =>
    rw [unrenderable?_ternary, ← ihCondition, ← ihThen, ← ihElse]
    exact failure?_bind fun first => failure?_bind fun second =>
      failure?_return elseBranch.prefixForm _

/-- **The postfix form fails at the first literal without a spelling.** -/
theorem failure?_postfixForm : failure? e.postfixForm = e.unrenderable? := by
  induction e with
  | binary left operator right ihLeft ihRight =>
    rw [unrenderable?_binary, ← ihLeft, ← ihRight]
    exact failure?_bind fun first => failure?_return right.postfixForm _
  | grouping inner ih => exact ih
  | literal value => exact value.failure?_spelling.trans (unrenderable?_literal value).symm
  | unary operator right ih => exact (failure?_return right.postfixForm _).trans ih
  | ternary condition thenBranch elseBranch ihCondition ihThen ihElse =>
    rw [unrenderable?_ternary, ← ihCondition, ← ihThen, ← ihElse]
    exact failure?_bind fun first => failure?_bind fun second =>
      failure?_return elseBranch.postfixForm _

variable {e}

/-- An expression whose literals have spellings has both forms. -/
theorem exists_forms (h : ∀ value ∈ e.literals, value.unrenderable? = none) :
    (∃ text, e.prefixForm = .ok text) ∧ ∃ text, e.postfixForm = .ok text := by
  have hnone : e.unrenderable? = none := List.findSome?_eq_none_iff.2 h
  exact ⟨exists_ok_of_failure? (e.failure?_prefixForm.trans hnone),
    exists_ok_of_failure? (e.failure?_postfixForm.trans hnone)⟩

end Expr

/-! ## The literal that is complained about -/

/-- The value is one that a literal of the language may have: `nil`, a truth value, a number or a
text. -/
def Value.IsNative : Value → Prop
  | nil | bool _ | number _ | text _ => True
  | foreign _ => False

/-- Nothing is complained about a value that a literal may have. -/
theorem Value.unrenderable?_eq_none_iff {value : Value} :
    value.unrenderable? = none ↔ value.IsNative := by
  cases value with
  | foreign typeName => exact iff_of_false (Option.some_ne_none _) id
  | _ => exact iff_of_true rfl trivial

/-- A value is complained about by the name of its type. -/
theorem Value.unrenderable?_eq_some_iff {value : Value} {u : Value.Unrenderable} :
    value.unrenderable? = some u ↔ value = .foreign u.typeName := by
  cases value with
  | foreign typeName =>
    constructor
    · rintro ⟨⟩
      rfl
    · rintro ⟨⟩
      rfl
  | _ => exact iff_of_false (fun h => by cases h) (fun h => by cases h)

namespace Expr

/-- The message names the type of the first literal from the left that is no value of
the language. -/
def NamesFirstForeign (e : Expr) (message : String) : Prop :=
  ∃ before typeName after, e.literals = before ++ .foreign typeName :: after ∧
    (∀ value ∈ before, value.IsNative) ∧ message = "Cannot render literal of type " ++ typeName

variable {e : Expr}

/-- The complaint is about the first foreign literal from the left. -/
theorem namesFirstForeign_iff {message : String} :
    e.NamesFirstForeign message ↔ ∃ u, e.unrenderable? = some u ∧ u.message = message := by
  constructor
  · rintro ⟨before, typeName, after, hsplit, hbefore, rfl⟩
    refine ⟨⟨typeName⟩, List.findSome?_eq_some_iff.2 ⟨before, _, after, hsplit, rfl, ?_⟩, rfl⟩
    exact fun value hvalue => Value.unrenderable?_eq_none_iff.2 (hbefore value hvalue)
  · rintro ⟨u, hfirst, rfl⟩
    obtain ⟨before, value, after, hsplit, hvalue, hbefore⟩ := List.findSome?_eq_some_iff.1 hfirst
    rw [Value.unrenderable?_eq_some_iff.1 hvalue] at hsplit
    refine ⟨before, u.typeName, after, hsplit, ?_, rfl⟩
    exact fun value hvalue => Value.unrenderable?_eq_none_iff.1 (hbefore value hvalue)

/-- There is a complaint exactly if there is something to complain about. -/
theorem exists_unrenderable?_iff :
    (∃ u, e.unrenderable? = some u) ↔ ∃ value ∈ e.literals, ¬ value.IsNative := by
  rw [← Option.isSome_iff_exists, unrenderable?, List.findSome?_isSome_iff]
  refine exists_congr fun value => and_congr_right fun _ => ?_
  rw [Option.isSome_iff_ne_none, ne_eq, Value.unrenderable?_eq_none_iff]

/-- **Both forms fail together.**  An expression has no prefix form exactly if it has no postfix
form, and that is so exactly if some literal is neither `nil` nor a truth value, a number or a text.
Then both forms fail with one message, which names the type of the first such literal from
the left. -/
theorem forms_fail_together (e : Expr) :
    ((∃ u, e.prefixForm = .error u) ↔ ∃ u, e.postfixForm = .error u) ∧
      ((∃ u, e.postfixForm = .error u) ↔ ∃ value ∈ e.literals, ¬ value.IsNative) ∧
      ∀ message,
        ((∃ u, e.prefixForm = .error u ∧ u.message = message) ↔ e.NamesFirstForeign message) ∧
        ((∃ u, e.postfixForm = .error u ∧ u.message = message) ↔ e.NamesFirstForeign message) := by
  have hpre : ∀ u, e.prefixForm = .error u ↔ e.unrenderable? = some u := by
    intro u
    rw [eq_error_iff_failure?, failure?_prefixForm]
  have hpost : ∀ u, e.postfixForm = .error u ↔ e.unrenderable? = some u := by
    intro u
    rw [eq_error_iff_failure?, failure?_postfixForm]
  simp only [hpre, hpost, namesFirstForeign_iff, true_and, and_self, implies_true, and_true]
  exact exists_unrenderable?_iff

/-- Both forms of a tree complain about the left one of two foreign values. -/
example (operator : Token) :
    let e := binary (grouping (literal (.foreign "list"))) operator (literal (.foreign "dict"))
    e.prefixForm = .error ⟨"list"⟩ ∧ e.postfixForm = .error ⟨"list"⟩ := ⟨rfl, rfl⟩

end Expr

end LoxSyntax
