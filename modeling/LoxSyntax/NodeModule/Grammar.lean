/-
# Node grammars

A node grammar lists the variants of a node type, one a line: the name of the variant, a colon, and
its fields, separated by commas and each written as a type and a name.  Blank lines and lines that
start with `#` are passed over.
-/
import LoxSyntax.Text.Blank
import LoxSyntax.Text.Identifier
import LoxSyntax.Text.Quoted

namespace LoxSyntax.NodeModule

/-- A field of a variant. -/
structure Field where
  typeName : String
  name : String
  deriving DecidableEq, Repr

/-- A variant of the node type. -/
structure Variant where
  name : String
  fields : List Field
  deriving DecidableEq, Repr

/-! ## Errors -/

/-- What can be wrong with a grammar; lines are counted from one. -/
inductive GrammarError where
  | noVariant (line : Nat) (text : List Char)
  | duplicateVariant (line : Nat) (name : List Char)
  | malformedField (line : Nat) (text : List Char)
  | duplicateField (line : Nat) (name : List Char) (variant : String)
  | empty
  deriving DecidableEq, Repr

/-- A quoted text. -/
def quote (text : List Char) : String := String.ofList (Text.quoted text)

/-- The error in words. -/
def GrammarError.message : GrammarError → String
  | noVariant line text => s!"line {line}: expected 'Name : Type field, ...', got {quote text}"
  | duplicateVariant line name => s!"line {line}: duplicate variant {quote name}"
  | malformedField line text => s!"line {line}: malformed field {quote text}"
  | duplicateField line name variant =>
    s!"line {line}: duplicate field {quote name} in {variant}"
  | empty => "grammar defines no variants"

/-! ## Reading a grammar -/

/-- A field with the names that come before it. -/
def readField (line : Nat) (variant : String) (seen : List String) (piece : List Char) :
    Except GrammarError Field :=
  match Text.words piece with
  | [typeName, name] =>
    if ! Text.isIdentifier name then .error (.malformedField line (Text.trim piece))
    else if seen.contains (String.ofList name) then .error (.duplicateField line name variant)
    else .ok ⟨String.ofList typeName, String.ofList name⟩
  | _ => .error (.malformedField line (Text.trim piece))

/-- The fields of a variant, after the ones whose names are given. -/
def readFields (line : Nat) (variant : String) (seen : List String) :
    List (List Char) → Except GrammarError (List Field)
  | [] => .ok []
  | piece :: pieces => do
    let field ← readField line variant seen piece
    let fields ← readFields line variant (field.name :: seen) pieces
    return field :: fields

/-- The variant on a line, after the ones whose names are given. -/
def readVariant (line : Nat) (seen : List String) (text : List Char) :
    Except GrammarError Variant :=
  match Text.splitFirst? ':' text with
  | none => .error (.noVariant line text)
  | some (before, after) =>
    let name := Text.trim before
    let variant := String.ofList name
    if ! Text.isIdentifier name then .error (.noVariant line text)
    else if seen.contains variant then .error (.duplicateVariant line name)
    else (readFields line variant [] (Text.pieces (· == ',') after)).map (⟨variant, ·⟩)

/-- A line that says something, its blanks trimmed already. -/
def isSignificant (text : List Char) : Bool := ! text.isEmpty && text.head? != some '#'

/-- The variants from a line on, after the ones whose names are given. -/
def readVariants (line : Nat) (seen : List String) :
    List String → Except GrammarError (List Variant)
  | [] => .ok []
  | first :: rest =>
    let text := Text.trim first.toList
    if isSignificant text then do
      let variant ← readVariant line seen text
      let variants ← readVariants (line + 1) (variant.name :: seen) rest
      return variant :: variants
    else readVariants (line + 1) seen rest

/-- The variants of a grammar, at least one. -/
def parseGrammar (lines : List String) : Except GrammarError (List Variant) :=
  match readVariants 1 [] lines with
  | .ok [] => .error .empty
  | result => result

/-- The grammar of the expression nodes. -/
def exprGrammar : List String := [
  "Binary   : Expr left, Token operator, Expr right",
  "Grouping : Expr expression",
  "Literal  : Any value",
  "Unary    : Token operator, Expr right",
  "Ternary  : Expr condition, Expr then_branch, Expr else_branch"]

/-- The variants of the expression nodes. -/
def exprVariants : List Variant := ((parseGrammar exprGrammar).toOption).getD []

/-- The grammar of the expression nodes is a correct one. -/
theorem parseGrammar_exprGrammar : parseGrammar exprGrammar = .ok exprVariants := by
  have correct : (parseGrammar exprGrammar).isOk = true := by decide +kernel
  unfold exprVariants
  cases h : parseGrammar exprGrammar with
  | error e => simp [h, Except.isOk, Except.toBool] at correct
  | ok variants => rfl

/-- A line without a field has a malformed one. -/
example :
    (match parseGrammar ["", "Nothing :"] with
      | .error e => e.message
      | .ok _ => "") = "line 2: malformed field ''" := by decide +kernel

end LoxSyntax.NodeModule
