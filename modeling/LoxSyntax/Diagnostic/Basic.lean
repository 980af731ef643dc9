/-
# Diagnostics

A diagnostic is a message about a line, with a severity, an optional code and an optional place on
the line.
-/
import LoxSyntax.Text.LetterCase

namespace LoxSyntax

/-- A message about a line of the source. -/
structure Diagnostic where
  message : String
  line : Int
  severity : String := "error"
  code? : Option String := none
  place : String := ""
  deriving DecidableEq, Repr

/-- The diagnostic in one line: its line number, its severity with a capital, its place and its
message. -/
def Diagnostic.render (d : Diagnostic) : String :=
  let severity := String.ofList (Text.capitalize d.severity.toList)
  let place := if d.place.isEmpty then "" else s!" {d.place}"
  s!"[line {d.line}] {severity}{place}: {d.message}"

end LoxSyntax
