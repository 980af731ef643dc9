/-
# Scanning

A scan turns source text into its tokens, with the end of the input behind them, and into the errors
of the segments that are at fault.  Lines are counted by line feeds from one.  Errors never stop a
scan.
-/
import LoxSyntax.Source.Segmentation
import LoxSyntax.Trace

namespace LoxSyntax

/-- Segments with the lines on which they start, the first one on the given line. -/
def Segment.withLines (line : Nat) : List Segment → List (Nat × Segment)
  | [] => []
  | s :: rest => (line, s) :: withLines (line + s.lineFeeds) rest

/-- The line on which a text ends that starts on line one. -/
def lastLine (source : List Char) : Nat := 1 + source.count '\n'

/-- What a scan of source text finds. -/
structure Scan where
  tokens : List Token
  errors : List LexicalError
  deriving DecidableEq, Repr

/-- Scans a text given as its characters. -/
def Scan.ofChars (source : List Char) : Scan :=
  let lined := Segment.withLines 1 (Segment.segments source)
  { tokens := lined.filterMap (fun (line, s) => s.token? line) ++ [Token.endAt (lastLine source)]
    errors := lined.filterMap (fun (line, s) => s.error? line) }

/-- Scans source text. -/
def scan (source : String) : Scan := Scan.ofChars source.toList

theorem exists_isEnd_scan (source : String) : ∃ t ∈ (scan source).tokens, t.isEnd = true :=
  ⟨_, List.mem_append_right _ (List.mem_singleton_self _), rfl⟩

/-- The trace of a scan of a file: its errors, then the two counts. -/
def Scan.trace (filename : String) (s : Scan) : List TraceRecord :=
  s.errors.map (fun e => .ofScanner s!"{filename}: {e.render}") ++
    [.ofScanner s!"{filename}: scanned {s.tokens.length} tokens with {s.errors.length} errors"]

/-! ## Lines -/

/-- The segments keep their order and number when lines are added. -/
theorem map_snd_withLines (line : Nat) (segments : List Segment) :
    (Segment.withLines line segments).map Prod.snd = segments := by
  induction segments generalizing line with
  | nil => rfl
  | cons s rest ih => rw [Segment.withLines, List.map_cons, ih]

/-- A scan counts on after a line feed, and a stray character does not stop it. -/
example : scan "a\n@ b" =
    ⟨[⟨.identifier, "a", .nil, 1⟩, ⟨.identifier, "b", .nil, 2⟩, Token.endAt 2],
      [⟨"Unexpected character '@'.", 2, some "L001"⟩]⟩ := by decide +kernel

end LoxSyntax
