/-
# Segments of source text

Source text falls into segments: tokens, blanks, comments and characters that belong to nothing.  A
segment knows its text, the token it makes, if any, and what is wrong with it, if anything.
-/
import LoxSyntax.Binary64.Rounding
import LoxSyntax.Diagnostic.Lexical
import LoxSyntax.Token.Basic

namespace LoxSyntax

/-- A stretch of source text that is read as a whole. -/
inductive Segment where
  /-- Punctuation or an operator. -/
  | symbol (kind : Token.Kind) (text : List Char)
  /-- A name or a reserved word. -/
  | word (text : List Char)
  /-- A numeral.  Without digits after the point there is no point either. -/
  | number (whole fraction : List Char)
  /-- A string, which the end of the source may leave open. -/
  | string (body : List Char) (closed : Bool)
  /-- A space, tab, carriage return or line feed. -/
  | blank (c : Char)
  /-- A comment to the end of the line. -/
  | lineComment (body : List Char)
  /-- A comment with a closing mark, which the end of the source may leave open. -/
  | blockComment (body : List Char) (closed : Bool)
  /-- A character that starts nothing. -/
  | stray (c : Char)
  deriving DecidableEq, Repr

namespace Segment

/-- The source text of the segment. -/
def text : Segment → List Char
  | symbol _ text => text
  | word text => text
  | number whole [] => whole
  | number whole fraction => whole ++ '.' :: fraction
  | string body closed => '"' :: body ++ (if closed then ['"'] else [])
  | blank c => [c]
  | lineComment body => '/' :: '/' :: body
  | blockComment body closed => '/' :: '*' :: body ++ (if closed then ['*', '/'] else [])
  | stray c => [c]

/-- The number of line feeds in the segment. -/
def lineFeeds (s : Segment) : Nat := s.text.count '\n'

/-! ## Tokens -/

/-- The kind of token that the segment makes. -/
def kind? : Segment → Option Token.Kind
  | symbol kind _ => some kind
  | word text => some (Token.wordKind text)
  | number _ _ => some .number
  | string _ _ => some .string
  | _ => none

/-- The value of the literal that the segment spells: the nearest number to a numeral, the body of
a string, and nothing otherwise. -/
def literal : Segment → Value
  | number whole fraction => .number (.ofDecimal whole fraction)
  | string body _ => .text (String.ofList body)
  | _ => .nil

/-- The token that the segment makes on a line. -/
def token? (s : Segment) (line : Int) : Option Token :=
  s.kind?.map fun kind => ⟨kind, String.ofList s.text, s.literal, line⟩

/-! ## Faults -/

/-- What is wrong with the segment. -/
def fault? : Segment → Option LexicalFault
  | number whole fraction =>
    if (Binary64.ofDecimal whole fraction).isInfinite then
      some (.numberTooLarge (number whole fraction).text)
    else none
  | string _ false => some .unterminatedString
  | blockComment _ false => some .unterminatedComment
  | stray c => some (.unexpected [c])
  | _ => none

/-- The error of a segment that starts on the given line.  It counts for the line on which the
segment ends. -/
def error? (s : Segment) (line : Int) : Option LexicalError :=
  s.fault?.map fun fault => fault.at (line + s.lineFeeds)

/-- An open string makes a token and is at fault as well. -/
example : (string ['a'] false).token? 1 = some ⟨.string, "\"a", .text "a", 1⟩ ∧
    (string ['a'] false).fault? = some .unterminatedString := by decide +kernel

end Segment

end LoxSyntax
