/-
# Tokens

A token is a kind, the text it was read from, the value of its literal and the line on which it
starts.  Tokens may also be made by hand, so none of the four determines another.
-/
import LoxSyntax.Token.Kind
import LoxSyntax.Value

namespace LoxSyntax

/-- A token of the language. -/
structure Token where
  kind : Token.Kind
  lexeme : String
  literal : Value
  line : Int
  deriving DecidableEq, Repr

namespace Token

/-- The token that ends the input. -/
def isEnd (t : Token) : Bool := t.kind == .endOfInput

/-- The end of the input, on the given line. -/
def endAt (line : Int) : Token := ⟨.endOfInput, "", .nil, line⟩

/-- Tokens agree if all four parts do. -/
def agrees (s t : Token) : Bool :=
  s.kind == t.kind && s.lexeme == t.lexeme && s.literal.agrees t.literal && s.line == t.line

/-- The token as a list of tokens shows it. -/
def display (t : Token) : String :=
  s!"{t.kind.name} {t.lexeme}\x7b{t.literal.display}\x7d"

/-- The place of a token as a diagnostic names it. -/
def place (t : Token) : String := if t.isEnd then "at end" else s!"at '{t.lexeme}'"

/-- A number token shows its kind, its text and its value. -/
example : (⟨.number, "1", .number .one, 1⟩ : Token).display = "NUMBER 1\x7b1.0\x7d" := by
  decide +kernel

end Token

end LoxSyntax
