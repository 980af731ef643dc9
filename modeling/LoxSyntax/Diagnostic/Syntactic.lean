/-
# Syntax errors

What can be wrong with a sequence of tokens, in words and with a code.  A syntax error is a
diagnostic of severity "error" on the line and at the place of a token.
-/
import LoxSyntax.Diagnostic.Basic
import LoxSyntax.Text.Quoted
import LoxSyntax.Token.Basic

namespace LoxSyntax

/-- What can be wrong with a sequence of tokens. -/
inductive SyntaxFault where
  | missing (message : String)
  | noExpression
  | trailing
  | tooDeep
  deriving DecidableEq, Repr

namespace SyntaxFault

/-- The code of a syntax fault. -/
def code : SyntaxFault → String
  | missing _ => "P001"
  | noExpression => "P002"
  | trailing => "P003"
  | tooDeep => "P004"

/-- The codes with their titles. -/
def titles : List (String × String) := [
    ("P001", "Expected token not found"), ("P002", "Expected expression"),
    ("P003", "Unexpected input after expression"), ("P004", "Expression nested too deeply")]

/-- The fault in words. -/
def message : SyntaxFault → String
  | missing message => message
  | noExpression => "Expect expression."
  | trailing => "Expect end of expression."
  | tooDeep => "Expression nested too deeply."

end SyntaxFault

/-- An error found at a token. -/
structure SyntaxError where
  message : String
  token : Token
  code? : Option String := none
  deriving DecidableEq, Repr

/-- The error that a fault makes at a token. -/
def SyntaxFault.at (fault : SyntaxFault) (token : Token) : SyntaxError :=
  ⟨fault.message, token, some fault.code⟩

namespace SyntaxError

/-- The error as a diagnostic on the line and at the place of its token. -/
def diagnostic (e : SyntaxError) : Diagnostic :=
  { message := e.message, line := e.token.line, code? := e.code?, place := e.token.place }

/-- The error in one line. -/
def render (e : SyntaxError) : String := e.diagnostic.render

/-- Errors agree if their diagnostics are equal and their tokens agree. -/
def agrees (d e : SyntaxError) : Bool := d.diagnostic == e.diagnostic && d.token.agrees e.token

/-- The error as a constructed value. -/
def display (e : SyntaxError) : String :=
  let message := String.ofList (Text.quoted e.message.toList)
  let place := String.ofList (Text.quoted e.token.place.toList)
  s!"ParseError({message}, line={e.token.line}, where={place})"

end SyntaxError

/-- A syntax error names the line, the place and the fault. -/
example : (SyntaxFault.trailing.at ⟨.plus, "+", .nil, 3⟩).render =
    "[line 3] Error at '+': Expect end of expression." := by decide +kernel

end LoxSyntax
