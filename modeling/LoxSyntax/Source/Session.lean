/-
# Scanning sessions

A session keeps a source text and what its last scan found, together with the place of the last
segment that was read.  The source may be replaced and scanned again.  Every scan starts afresh;
only the line of the last segment outlives a scan of an empty text.
-/
import LoxSyntax.Source.Scan

namespace LoxSyntax

/-- A source text and the outcome of its last scan.  Positions count characters. -/
structure ScanSession where
  source : String
  start : Nat := 0
  current : Nat := 0
  line : Nat := 1
  tokenLine : Nat := 1
  tokens : List Token := []
  errors : List LexicalError := []
  deriving DecidableEq, Repr

namespace ScanSession

/-- Another text takes the place of the source, and all else stays. -/
def replaceSource (s : ScanSession) (source : String) : ScanSession := { s with source }

/-- The start of the last segment of a text and its line, if the text has one. -/
def lastSegment? (source : List Char) : Option (Nat × Nat) :=
  (Segment.withLines 1 (Segment.segments source)).getLast?.map fun (line, last) =>
    (source.length - last.text.length, line)

/-- Scans the source. -/
def tokenize (s : ScanSession) : ScanSession :=
  let source := s.source.toList
  let found := Scan.ofChars source
  let (start, tokenLine) := (lastSegment? source).getD (0, s.tokenLine)
  { source := s.source, start, tokenLine
    current := source.length
    line := lastLine source
    tokens := found.tokens
    errors := found.errors }

/-- What a step does to a session. -/
inductive Step where
  | tokenize
  | replaceSource (source : String)
  | idle
  deriving DecidableEq, Repr

/-- The session after a step. -/
def after (s : ScanSession) : Step → ScanSession
  | .tokenize => s.tokenize
  | .replaceSource source => s.replaceSource source
  | .idle => s

/-- The sessions after each of several steps. -/
def run (s : ScanSession) : List Step → List ScanSession
  | [] => []
  | step :: steps => s.after step :: (s.after step).run steps

end ScanSession

end LoxSyntax
