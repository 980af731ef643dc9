/-
# Kinds of tokens

Every token has one of 41 kinds: punctuation, operators, names, literals, reserved words and the
end of input.  The tables say which text makes a token of which kind.
-/

namespace LoxSyntax.Token

/-- The kind of a token. -/
inductive Kind where
  | leftParen | rightParen | leftBrace | rightBrace | comma | dot | minus | plus | semicolon
  | slash | star | question | colon | bang | bangEqual | equal | equalEqual | greater
  | greaterEqual | less | lessEqual | identifier | string | number | kwAnd | kwClass | kwElse
  | kwFalse | kwFun | kwFor | kwIf | kwNil | kwOr | kwPrint | kwReturn | kwSuper | kwThis
  | kwTrue | kwVar | kwWhile | endOfInput
  deriving DecidableEq, Repr

namespace Kind

/-- The kinds in order. -/
def all : List Kind := [
    .leftParen, .rightParen, .leftBrace, .rightBrace, .comma, .dot, .minus, .plus, .semicolon,
    .slash, .star, .question, .colon, .bang, .bangEqual, .equal, .equalEqual, .greater,
    .greaterEqual, .less, .lessEqual, .identifier, .string, .number, .kwAnd, .kwClass, .kwElse,
    .kwFalse, .kwFun, .kwFor, .kwIf, .kwNil, .kwOr, .kwPrint, .kwReturn, .kwSuper, .kwThis,
    .kwTrue, .kwVar, .kwWhile, .endOfInput]

theorem mem_all (k : Kind) : k ∈ all := by cases k <;> decide

/-- The name of a kind. -/
def name : Kind → String
  | .leftParen => "LEFT_PAREN"
  | .rightParen => "RIGHT_PAREN"
  | .leftBrace => "LEFT_BRACE"
  | .rightBrace => "RIGHT_BRACE"
  | .comma => "COMMA"
  | .dot => "DOT"
  | .minus => "MINUS"
  | .plus => "PLUS"
  | .semicolon => "SEMICOLON"
  | .slash => "SLASH"
  | .star => "STAR"
  | .question => "QUESTION"
  | .colon => "COLON"
  | .bang => "BANG"
  | .bangEqual => "BANG_EQUAL"
  | .equal => "EQUAL"
  | .equalEqual => "EQUAL_EQUAL"
  | .greater => "GREATER"
  | .greaterEqual => "GREATER_EQUAL"
  | .less => "LESS"
  | .lessEqual => "LESS_EQUAL"
  | .identifier => "IDENTIFIER"
  | .string => "STRING"
  | .number => "NUMBER"
  | .kwAnd => "AND"
  | .kwClass => "CLASS"
  | .kwElse => "ELSE"
  | .kwFalse => "FALSE"
  | .kwFun => "FUN"
  | .kwFor => "FOR"
  | .kwIf => "IF"
  | .kwNil => "NIL"
  | .kwOr => "OR"
  | .kwPrint => "PRINT"
  | .kwReturn => "RETURN"
  | .kwSuper => "SUPER"
  | .kwThis => "THIS"
  | .kwTrue => "TRUE"
  | .kwVar => "VAR"
  | .kwWhile => "WHILE"
  | .endOfInput => "EOF"

/-- The kind of a name. -/
def ofName? (name : String) : Option Kind := all.find? (·.name == name)

theorem ofName?_name (k : Kind) : ofName? k.name = some k := by cases k <;> decide +kernel

/-- The place of a kind in the order, counted from one. -/
def ordinal (k : Kind) : Nat := all.idxOf k + 1

end Kind

/-! ## Spellings -/

/-- The characters that are a token by themselves. -/
def singles : List (Char × Kind) := [
    ('(', .leftParen), (')', .rightParen), ('{', .leftBrace), ('}', .rightBrace), (',', .comma),
    ('.', .dot), ('-', .minus), ('+', .plus), (';', .semicolon), ('*', .star), ('?', .question),
    (':', .colon)]

/-- The characters that an equals sign may follow: the kind without it and the kind with it. -/
def equalsPairs : List (Char × Kind × Kind) := [
    ('!', .bang, .bangEqual), ('=', .equal, .equalEqual), ('<', .less, .lessEqual),
    ('>', .greater, .greaterEqual)]

/-- The reserved words. -/
def keywords : List (String × Kind) := [
    ("and", .kwAnd), ("class", .kwClass), ("else", .kwElse), ("false", .kwFalse), ("for", .kwFor),
    ("fun", .kwFun), ("if", .kwIf), ("nil", .kwNil), ("or", .kwOr), ("print", .kwPrint),
    ("return", .kwReturn), ("super", .kwSuper), ("this", .kwThis), ("true", .kwTrue),
    ("var", .kwVar), ("while", .kwWhile)]

/-- The kind of a word. -/
def wordKind (word : List Char) : Kind := (keywords.lookup (String.ofList word)).getD .identifier

end LoxSyntax.Token
