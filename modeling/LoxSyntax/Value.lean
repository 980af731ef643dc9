/-
# Literal values

The values that a literal may have, with two spellings: the one of source text and the one that a
token shows of itself.  A hand-made token may carry a value that no literal has; it is kept by the
name of its type, passes through the parser unchanged and has no spelling in source text.
-/
import LoxSyntax.Binary64.Notation

namespace LoxSyntax

/-- The value of a literal.  A token without a literal carries `nil`. -/
inductive Value where
  | nil
  | bool (b : Bool)
  | number (x : Binary64)
  | text (s : String)
  | foreign (typeName : String)
  deriving DecidableEq, Repr

namespace Value

/-! ## Equality -/

/-- The number that a value counts as: truth values count as one and zero. -/
def number? : Value → Option Binary64
  | bool true => some .one
  | bool false => some .zero
  | number x => some x
  | _ => none

/-- Equality of values, which compares truth values and numbers as numbers. -/
def agrees (a b : Value) : Bool :=
  match a.number?, b.number? with
  | some x, some y => x.agrees y
  | none, none => a == b
  | _, _ => false

theorem agrees_comm (a b : Value) : a.agrees b = b.agrees a := by
  have flip : (a == b) = (b == a) := by
    rw [Bool.eq_iff_iff, beq_iff_eq, beq_iff_eq, eq_comm]
  unfold agrees
  cases a.number? <;> cases b.number? <;> simp [flip, Binary64.agrees_comm]

/-! ## Spelling -/

/-- A value that no literal of the language has, known by the name of its type. -/
structure Unrenderable where
  typeName : String
  deriving DecidableEq, Repr

/-- The complaint about such a value. -/
def Unrenderable.message (u : Unrenderable) : String :=
  s!"Cannot render literal of type {u.typeName}"

/-- The value as source text spells it.  Whole numbers are written out without a point, and texts
stand without quotes. -/
def spelling : Value → Except Unrenderable String
  | nil => .ok "nil"
  | bool b => .ok (if b then "true" else "false")
  | number x =>
    match x.whole? with
    | some n => .ok (toString n)
    | none => .ok x.text
  | text s => .ok s
  | foreign typeName => .error ⟨typeName⟩

/-- The value as a token shows it: nothing for `nil`, and numbers always with a point or an
exponent. -/
def display : Value → String
  | nil => ""
  | bool b => if b then "True" else "False"
  | number x => x.text
  | text s => s
  | foreign typeName => typeName

/-- The two spellings of a whole number differ by the point. -/
example : (number .one).spelling.toOption = some "1" ∧ (number .one).display = "1.0" := by
  decide +kernel

end Value

end LoxSyntax
