/-
# Parsing source text

Source text is scanned, and the tokens are parsed as one expression or as a batch.  Lexical errors
do not keep the tokens from being parsed.
-/
import LoxSyntax.Parsing.Session
import LoxSyntax.Source.File

namespace LoxSyntax

open Parsing

/-- An expression, if there is one, and the errors found on the way to it. -/
structure Parsed where
  tree? : Option Expr
  lexical : List LexicalError := []
  syntactic : List SyntaxError := []
  deriving DecidableEq, Repr

/-- Parses a list of tokens as one expression. -/
def parse (tokens : List Token) : Parsed :=
  let input := Input.ofTokens tokens
  match (complete input.tokens).1 with
  | .ok e => { tree? := some e }
  | .error f => { tree? := none, syntactic := [f.error input] }

/-- Parses source text as one expression. -/
def parseSource (source : String) : Parsed :=
  let found := scan source
  { parse found.tokens with lexical := found.errors }

/-- Parses a file as one expression. -/
def parseFile (bytes? : Option (List UInt8)) : Except ReadError Parsed :=
  (readSource bytes? defaultEncoding).map parseSource

/-- The trace of parsing: one record for each syntax error. -/
def Parsed.trace (p : Parsed) : List TraceRecord :=
  p.syntactic.map fun e => .ofParser s!"syntax error: {e.render}"

/-- The name under which source text is traced that comes from no file. -/
def defaultFilename : String := "<string>"

/-- The trace of scanning and parsing the source text of a file. -/
def traceSource (filename source : String) : List TraceRecord :=
  (scan source).trace filename ++ (parseSource source).trace

/-- Two plus signs in a row are an error at the second one. -/
example : (parseSource "1 + + 2").syntactic.map SyntaxError.render =
    ["[line 1] Error at '+': Expect expression."] := by decide +kernel

end LoxSyntax
