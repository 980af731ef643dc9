/-
# Lexical errors

What can be wrong with source text, in words and with a code.  A lexical error is a diagnostic of
severity "error" without a place.
-/
import LoxSyntax.Diagnostic.Basic
import LoxSyntax.Text.Quoted

namespace LoxSyntax

/-- What can be wrong with a stretch of source text. -/
inductive LexicalFault where
  | unexpected (text : List Char)
  | unterminatedString
  | unterminatedComment
  | numberTooLarge (lexeme : List Char)
  deriving DecidableEq, Repr

namespace LexicalFault

/-- The code of a lexical fault. -/
def code : LexicalFault → String
  | unexpected _ => "L001"
  | unterminatedString => "L002"
  | unterminatedComment => "L003"
  | numberTooLarge _ => "L004"

/-- The codes with their titles. -/
def titles : List (String × String) := [
    ("L001", "Unexpected character"), ("L002", "Unterminated string literal"),
    ("L003", "Unterminated block comment"), ("L004", "Number literal out of range")]

/-- A numeral of more than twenty characters is shown by its first seventeen. -/
def abridged (lexeme : List Char) : List Char :=
  if 20 < lexeme.length then lexeme.take 17 ++ ['.', '.', '.'] else lexeme

/-- A text with a character that cannot be shown is named by the code point of its first one. -/
def unexpectedMessage (text : List Char) : String :=
  if text.all Text.isPrintable then s!"Unexpected character '{String.ofList text}'."
  else
    let code := (text.head?.getD ' ').toNat
    s!"Unexpected character U+{String.ofList (Text.hexadecimalCapital 4 code)}."

/-- The fault in words. -/
def message : LexicalFault → String
  | unexpected text => unexpectedMessage text
  | unterminatedString => "Unterminated string."
  | unterminatedComment => "Unterminated block comment."
  | numberTooLarge lexeme => s!"Number literal '{String.ofList (abridged lexeme)}' is too large."

end LexicalFault

/-- An error found in source text. -/
structure LexicalError where
  message : String
  line : Int
  code? : Option String := none
  deriving DecidableEq, Repr

/-- The error that a fault makes on a line. -/
def LexicalFault.at (fault : LexicalFault) (line : Int) : LexicalError :=
  ⟨fault.message, line, some fault.code⟩

namespace LexicalError

/-- The error as a diagnostic. -/
def diagnostic (e : LexicalError) : Diagnostic :=
  { message := e.message, line := e.line, code? := e.code? }

/-- The error in one line. -/
def render (e : LexicalError) : String := e.diagnostic.render

/-- The error as a constructed value. -/
def display (e : LexicalError) : String :=
  s!"LexerError({String.ofList (Text.quoted e.message.toList)}, line={e.line})"

end LexicalError

end LoxSyntax
