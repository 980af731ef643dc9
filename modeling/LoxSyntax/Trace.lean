/-
# Trace

Scanning and parsing leave a trace of what they found, one record for each finding, on a channel of
their own.
-/

namespace LoxSyntax

/-- One record of a trace. -/
structure TraceRecord where
  level : String
  channel : String
  message : String
  deriving DecidableEq, Repr

/-- A record of the scanner. -/
def TraceRecord.ofScanner (message : String) : TraceRecord :=
  ⟨"DEBUG", "lox.lexer.lexer", message⟩

/-- A record of the parser. -/
def TraceRecord.ofParser (message : String) : TraceRecord :=
  ⟨"DEBUG", "lox.parser.parser", message⟩

end LoxSyntax
