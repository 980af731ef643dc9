/-
# Node modules

A node module holds, for the variants of a grammar, the visitor class with one method for each
variant, the base class, and one class for each variant with its fields and the call of its visitor
method.
-/
import LoxSyntax.NodeModule.Grammar
import LoxSyntax.Text.LetterCase
import LoxSyntax.Text.Raw

namespace LoxSyntax.NodeModule

open Text (Raw)

/-- A name in lower case. -/
def lowerName (name : String) : String := String.ofList (Text.toLower name.toList)

/-- An ASCII capital letter. -/
def isCapital (c : Char) : Bool := 'A' ≤ c && c ≤ 'Z'

/-- A name in lower case, with an underscore before every capital but a leading one. -/
def snakeCase (name : String) : String :=
  match name.toList with
  | [] => ""
  | first :: rest =>
    let spaced := rest.flatMap fun c => if isCapital c then ['_', c] else [c]
    String.ofList (Text.toLower (first :: spaced))

/-- The visitor method for a variant. -/
def visitMethod (base variant : String) : String :=
  s!"visit_{snakeCase variant}_{lowerName base}"

/-- The visitor class. -/
def visitorName (base : String) : String := s!"{base}Visitor"

/-! ## The lines that hold names -/

/-- What stands before the name of the token module in the line that takes the tokens from it. -/
def importFront : String := "from "

/-- What stands behind that name. -/
def importBack : String := " import Token"

/-- The line that takes the tokens from their module. -/
def importLine (tokenModule : String) : String := importFront ++ tokenModule ++ importBack

/-- The line that starts the visitor class. -/
def visitorLine (base : String) : String := s!"class {visitorName base}(ABC, Generic[R]):"

/-- The line that declares the visitor method for a variant. -/
def declarationLine (base variant : String) : String :=
  s!"    def {visitMethod base variant}(self, {lowerName base}: \"{variant}\") -> R:"

/-- The line that starts the base class. -/
def baseLine (base : String) : String := s!"class {base}(ABC):"

/-- The first line of the method that receives a visitor. -/
def acceptLine (base : String) : String :=
  s!"    def accept(self, visitor: {visitorName base}[R]) -> R:"

/-- The line that starts the class of a variant. -/
def classLine (base variant : String) : String := s!"class {variant}({base}):"

/-- The line of a field. -/
def fieldLine (f : Field) : String := s!"    {f.name}: {f.typeName}"

/-- The line that calls the visitor method for a variant. -/
def callLine (base variant : String) : String :=
  s!"        return visitor.{visitMethod base variant}(self)"

/-! ## The parts of a module -/

/-- The lines before the one that takes the tokens from their module. -/
def openingLines : List String := [
  "\"\"\"Generated by lox.tools.generate_ast. Do not edit by hand.\"\"\"",
  "",
  "from abc import ABC, abstractmethod",
  "from dataclasses import dataclass",
  "from typing import Any, Generic, TypeVar",
  ""]

/-- The lines between that one and the classes. -/
def definitionLines : List String := ["", "R = TypeVar(\"R\")", ""]

/-- The lines before the classes. -/
def preamble (tokenModule : String) : List String :=
  openingLines ++ importLine tokenModule :: definitionLines

/-- The declaration of a visitor method. -/
def visitorMethod (base : String) (v : Variant) : List String := [
  "",
  "    @abstractmethod",
  declarationLine base v.name,
  "        pass"]

/-- The visitor class with all its methods. -/
def visitorClass (base : String) (variants : List Variant) : List String :=
  ["", visitorLine base] ++ variants.flatMap (visitorMethod base)

/-- The base class. -/
def baseClass (base : String) : List String := [
  "",
  "",
  baseLine base,
  "",
  "    @abstractmethod",
  acceptLine base,
  "        pass"]

/-- The class of a variant. -/
def variantClass (base : String) (v : Variant) : List String :=
  ["", "", "@dataclass(frozen=True)", classLine base v.name] ++ v.fields.map fieldLine ++
    ["", acceptLine base, callLine base v.name]

/-- The lines of a module. -/
def moduleLines (base : String) (variants : List Variant) (tokenModule : String) : List String :=
  preamble tokenModule ++ visitorClass base variants ++ baseClass base ++
    variants.flatMap (variantClass base)

/-- Every line ends with a line feed. -/
def moduleText (base : String) (variants : List Variant) (tokenModule : String) : String :=
  String.join ((moduleLines base variants tokenModule).map (· ++ "\n"))

/-- The module that tokens are taken from, if none is named. -/
def defaultTokenModule : String := "lox.lexer.tokens"

/-- The module text for a grammar. -/
def generate (base : String) (grammar : List String) (tokenModule : String) :
    Except GrammarError String :=
  (parseGrammar grammar).map fun variants => moduleText base variants tokenModule

/-! ## Token modules that are no texts -/

/-- The line that takes the tokens from a module whose name need not be a text. -/
def rawImportLine (tokenModule : Raw) : Raw :=
  .ofString importFront ++ tokenModule ++ .ofString importBack

/-- The lines of a module.  All but the one that names the token module are texts. -/
def rawLines (base : String) (variants : List Variant) (tokenModule : Raw) : List Raw :=
  openingLines.map .ofString ++ rawImportLine tokenModule :: (definitionLines ++
    visitorClass base variants ++ baseClass base ++
      variants.flatMap (variantClass base)).map .ofString

/-- The raw text of a module. -/
def rawModule (base : String) (variants : List Variant) (tokenModule : Raw) : Raw :=
  (rawLines base variants tokenModule).flatMap (· ++ [.char '\n'])

/-- Capitals inside a name are set apart. -/
example : visitMethod "Stmt" "IfElse" = "visit_if_else_stmt" := by decide +kernel

end LoxSyntax.NodeModule
