/-
# Reports

A report lists what was found, errors and other things alike, one line each.  Two things of
different sorts are never the same, and a set of things counts those once that agree.
-/
import LoxSyntax.Expr.Basic
import LoxSyntax.Diagnostic.Lexical
import LoxSyntax.Diagnostic.Syntactic

namespace LoxSyntax

/-- A thing that may be listed. -/
inductive Item where
  | lexical (e : LexicalError)
  | syntactic (e : SyntaxError)
  | diagnostic (d : Diagnostic)
  | token (t : Token)
  | text (s : String)
  deriving DecidableEq, Repr

namespace Item

/-- The two are of one sort and agree. -/
def agrees : Item → Item → Bool
  | lexical d, lexical e => d.diagnostic == e.diagnostic
  | syntactic d, syntactic e => d.agrees e
  | diagnostic d, diagnostic e => d == e
  | token s, token t => s.agrees t
  | text s, text t => s == t
  | _, _ => false

/-- The item as it is listed. -/
def render : Item → String
  | lexical e => e.render
  | syntactic e => e.render
  | diagnostic d => d.render
  | token t => t.display
  | text s => s

end Item

/-- The items one below the other. -/
def report (items : List Item) : String := "\n".intercalate (items.map Item.render)

/-- Lexical errors come before syntax errors. -/
def Item.ofErrors (lexical : List LexicalError) (syntactic : List SyntaxError) : List Item :=
  lexical.map .lexical ++ syntactic.map .syntactic

/-- A thing that may be compared: also a tree, or a syntax error in its wrapping. -/
inductive Thing where
  | item (i : Item)
  | expr (e : Expr)
  | failure (e : SyntaxError)
  deriving DecidableEq, Repr

namespace Thing

/-- The two are of one sort and agree. -/
def agrees : Thing → Thing → Bool
  | item i, item j => i.agrees j
  | expr a, expr b => a.agrees b
  | failure d, failure e => d.agrees e
  | _, _ => false

/-- The number of different things, each of which is counted where it stands last. -/
def distinct : List Thing → Nat
  | [] => 0
  | thing :: rest => distinct rest + if rest.any thing.agrees then 0 else 1

end Thing

/-- Numbers and truth values agree as numbers, and what is not a number agrees with nothing. -/
example : Thing.distinct [.expr (.literal (.number .one)), .expr (.literal (.bool true)),
    .expr (.literal (.number (.ofBits 0x7FF8000000000000)))] = 2 := by decide +kernel

end LoxSyntax
