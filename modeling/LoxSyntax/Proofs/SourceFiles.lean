/-
# Source files

A file is read as the text that it encodes, with line feeds for its line ends.  If every carriage
return of a text has a line feed behind it, then the file of the text is scanned and parsed like the
text itself, but for the carriage returns that are in strings.
-/
import LoxSyntax.Proofs.EncodedText
import LoxSyntax.Proofs.LineEnds
import LoxSyntax.Proofs.Translation

namespace LoxSyntax

open Parsing Text

variable {source : String} {t : Token} {e : Expr}

/-! ## Trees without carriage returns -/

/-- The tree with its literals exchanged. -/
def Expr.mapLiterals (g : Value → Value) : Expr → Expr
  | binary left operator right => .binary (left.mapLiterals g) operator (right.mapLiterals g)
  | grouping inner => .grouping (inner.mapLiterals g)
  | literal value => .literal (g value)
  | unary operator right => .unary operator (right.mapLiterals g)
  | ternary condition thenBranch elseBranch =>
    .ternary (condition.mapLiterals g) (thenBranch.mapLiterals g) (elseBranch.mapLiterals g)

theorem translates_withoutReturns : Translates Token.withoutReturns Value.withoutReturns :=
  ⟨fun _ => rfl, fun _ => rfl, rfl, fun _ => rfl⟩

/-- A token of the source that is no number and no string has no carriage returns. -/
theorem withoutReturns_eq_self (h : t ∈ (scan source).tokens)
    (hkind : t.kind ≠ .number ∧ t.kind ≠ .string) : t.withoutReturns = t := by
  have hnil := literal_eq_nil_of_mem_tokens h hkind.1 hkind.2
  obtain ⟨kind, lexeme, literal, line⟩ := t
  obtain rfl : literal = .nil := hnil
  rw [Token.withoutReturns, if_neg hkind.2]
  rfl

/-- **A tree of the source** has carriage returns in its literals only. -/
theorem Expr.TakenFrom.translate_withoutReturns (h : e.TakenFrom (scan source).tokens) :
    e.translate Token.withoutReturns Value.withoutReturns = e.mapLiterals Value.withoutReturns := by
  induction e with
  | binary left operator right ihLeft ihRight =>
    obtain ⟨⟨hmem, level, hlevel⟩, hleft, hright⟩ := h
    rw [translate, mapLiterals, ihLeft hleft, ihRight hright,
      withoutReturns_eq_self hmem (level.ne_of_mem_operators hlevel)]
  | grouping inner ih => rw [translate, mapLiterals, ih h]
  | literal value => rfl
  | unary operator right ih =>
    rw [translate, mapLiterals, ih h.2, withoutReturns_eq_self h.1.1 (Grammar.ne_of_unary h.1.2)]
  | ternary condition thenBranch elseBranch ihCondition ihThen ihElse =>
    rw [translate, mapLiterals, ihCondition h.1, ihThen h.2.1, ihElse h.2.2]

/-- What is parsed, without carriage returns in strings. -/
def Parsed.withoutReturns (p : Parsed) : Parsed where
  tree? := p.tree?.map (·.mapLiterals Value.withoutReturns)
  lexical := p.lexical
  syntactic := p.syntactic.map (·.mapToken Token.withoutReturns)

/-- **Parsing after joining line ends** finds the same, without carriage returns in strings. -/
theorem parseSource_joinLineEnds (h : ReturnsPaired source.toList) :
    parseSource (String.ofList (joinLineEnds source.toList)) =
      (parseSource source).withoutReturns := by
  have htree : (parse (scan source).tokens).tree?.map
      (·.translate Token.withoutReturns Value.withoutReturns) =
        (parse (scan source).tokens).tree?.map (·.mapLiterals Value.withoutReturns) := by
    refine Option.map_congr fun e he => ?_
    exact (takenFrom_of_parse he).translate_withoutReturns
  simp only [parseSource, scan_joinLineEnds h, Scan.withoutReturns,
    parse_map translates_withoutReturns (exists_isEnd_scan source), htree]
  rfl

/-! ## Files -/

/-- **The file of a text** is read as the text with its line ends joined. -/
theorem readSource_toUTF8 (h : ReturnsPaired source.toList) :
    readSource (some source.toUTF8.data.toList) defaultEncoding =
      .ok (String.ofList (joinLineEnds source.toList)) := by
  have hencoding : Encoding.ofName? defaultEncoding = some .utf8 := rfl
  have hdecode : Encoding.utf8.decode source.toUTF8.data.toList = .ok source.toList :=
    decodeUtf8_toUTF8 source
  simp only [readSource, hencoding, hdecode, unifyLineEnds_eq_dropReturns h,
    joinLineEnds_eq_dropReturns h]

/-- **Line ends are no matter.**  Take a source in which every carriage return has a line feed
behind it.  With a line feed for each of these pairs it is scanned to the same tokens, but for the
carriage returns in strings, and to the same errors.  So the file that holds the source in UTF-8 is
scanned and parsed like the source, but for the carriage returns in strings. -/
theorem scan_parse_without_returns (source : String) (h : ReturnsPaired source.toList) :
    scan (String.ofList (joinLineEnds source.toList)) = (scan source).withoutReturns ∧
      scanFile (some source.toUTF8.data.toList) defaultEncoding =
        .ok (scan source).withoutReturns ∧
      parseFile (some source.toUTF8.data.toList) = .ok (parseSource source).withoutReturns := by
  refine ⟨scan_joinLineEnds h, ?_, ?_⟩
  · rw [scanFile, readSource_toUTF8 h, ← scan_joinLineEnds h]
    rfl
  · rw [parseFile, readSource_toUTF8 h, ← parseSource_joinLineEnds h]
    rfl

/-- Line ends of two characters behind a token, in comments of both kinds, in a string and at the
end of the source, where an error is. -/
theorem scan_parse_without_returns_mixed :
    let source := "1 +\r\n\"a\r\nb\" // c\r\n* /* d\r\n\r\n */ 2 \r\n@\r\n"
    ReturnsPaired source.toList ∧
      scan (String.ofList (joinLineEnds source.toList)) = (scan source).withoutReturns ∧
      scanFile (some source.toUTF8.data.toList) defaultEncoding =
        .ok (scan source).withoutReturns ∧
      parseFile (some source.toUTF8.data.toList) = .ok (parseSource source).withoutReturns := by
  intro source
  have h : ReturnsPaired source.toList := by decide +kernel
  exact ⟨h, scan_parse_without_returns source h⟩

end LoxSyntax
