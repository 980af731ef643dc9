/-
# Statements

An expression is parsed either alone, where a semicolon may follow and then the input has to end, or
in a batch, where every expression ends with a semicolon.  A failure is followed by recovery, so
that a batch goes on with the next statement.
-/
import LoxSyntax.Parsing.Expression
import LoxSyntax.Parsing.Recovery

namespace LoxSyntax.Parsing

/-- What became of one statement. -/
abbrev Outcome := Except Failure Expr

/-! ## One expression -/

/-- The tokens without a semicolon in front. -/
def dropSemicolon : List Token → List Token
  | [] => []
  | t :: rest => if t.kind = .semicolon then rest else t :: rest

/-- Reads an expression that the input has to end with, and the tokens left after recovery. -/
def complete (tokens : List Token) : Outcome × List Token :=
  match expression.run tokens with
  | .error f => (.error f, synchronize f.rest)
  | .ok (e, rest) =>
    match dropSemicolon rest with
    | [] => (.ok e, [])
    | t :: after => (.error ⟨.trailing, t :: after⟩, synchronize (t :: after))

/-! ## Batches -/

/-- The complaint about a statement without an end. -/
def missingSemicolon : SyntaxFault := .missing "Expect ';' after expression."

/-- Reads an expression and its semicolon, and the tokens left after recovery. -/
def statement (tokens : List Token) : Outcome × List Token :=
  match expression.run tokens with
  | .error f => (.error f, synchronize f.rest)
  | .ok (e, rest) =>
    match expect .semicolon missingSemicolon rest with
    | .error f => (.error f, synchronize rest)
    | .ok after => (.ok e, after)

/-- Recovery leaves less than there was. -/
theorem synchronize_rest {tokens : List Token} {f : Failure} (nonempty : tokens ≠ [])
    (h : expression.run tokens = .error f) : ProperSuffix (synchronize f.rest) tokens := by
  have inside : f.rest <:+ tokens := f.rest_suffix.trans (expression.found_suffix h)
  cases rest : f.rest with
  | nil =>
    obtain ⟨t, others, rfl⟩ := List.exists_cons_of_ne_nil nonempty
    exact ⟨t, others, rfl, List.nil_suffix⟩
  | cons t others =>
    rw [rest] at inside
    obtain ⟨first, behind, split, remains⟩ := synchronize_cons t others
    rw [split] at inside
    obtain ⟨used, rfl⟩ := inside
    cases used with
    | nil => exact ⟨first, behind, rfl, remains⟩
    | cons head more =>
      exact ⟨head, more ++ first :: behind, rfl,
        (remains.trans (List.suffix_cons first behind)).trans (List.suffix_append more _)⟩

/-- A statement takes at least one token. -/
theorem statement_rest (t : Token) (rest : List Token) :
    ProperSuffix (statement (t :: rest)).2 (t :: rest) := by
  unfold statement
  split
  · rename_i run
    exact synchronize_rest (List.cons_ne_nil t rest) run
  · rename_i run
    split
    · exact .of_suffix (synchronize_suffix _) (expression.rest_suffix run)
    · rename_i semicolon
      exact (expect_ok semicolon).trans (expression.rest_suffix run)

/-- The outcomes of the statements up to the end of the input. -/
def batch : List Token → List Outcome
  | [] => []
  | t :: rest => (statement (t :: rest)).1 :: batch (statement (t :: rest)).2
termination_by tokens => tokens.length
decreasing_by exact (statement_rest t rest).length_lt

/-- The expressions among the outcomes. -/
def expressions (outcomes : List Outcome) : List Expr :=
  outcomes.filterMap Except.toOption

/-- The failures among the outcomes. -/
def failures (outcomes : List Outcome) : List Failure :=
  outcomes.filterMap fun
    | .error f => some f
    | .ok _ => none

/-- The expressions among changed outcomes, where no failure becomes an expression. -/
theorem expressions_map {change : Outcome → Outcome} {onTree : Expr → Expr}
    (hok : ∀ e, change (.ok e) = .ok (onTree e)) (herror : ∀ f, ∃ f', change (.error f) = .error f')
    (outcomes : List Outcome) :
    expressions (outcomes.map change) = (expressions outcomes).map onTree := by
  simp only [expressions, List.filterMap_map, List.map_filterMap]
  congr 1
  funext outcome
  cases outcome with
  | ok e => exact congrArg Except.toOption (hok e)
  | error f =>
    obtain ⟨f', hf'⟩ := herror f
    exact congrArg Except.toOption hf'

/-- The failures among changed outcomes, where no expression becomes a failure. -/
theorem failures_map {change : Outcome → Outcome} {onFailure : Failure → Failure}
    (hok : ∀ e, ∃ e', change (.ok e) = .ok e')
    (herror : ∀ f, change (.error f) = .error (onFailure f)) (outcomes : List Outcome) :
    failures (outcomes.map change) = (failures outcomes).map onFailure := by
  simp only [failures, List.filterMap_map, List.map_filterMap]
  congr 1
  funext outcome
  cases outcome with
  | ok e =>
    obtain ⟨e', he'⟩ := hok e
    simp only [Function.comp_apply, he', Option.map_none]
  | error f => simp only [Function.comp_apply, herror, Option.map_some]

end LoxSyntax.Parsing
