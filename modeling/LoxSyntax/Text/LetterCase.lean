/-
# Letter case

A whole text is put into lower case letter by letter, with one rule that looks at the neighbours:
a capital sigma that ends a word becomes the final form of the small letter.
-/
import LoxSyntax.Text.LetterCase.Table

namespace LoxSyntax.Text

open LetterCase

/-- The nearest character of the context that is not passed over is a cased letter. -/
def meetsCased (context : List Char) : Bool :=
  (context.dropWhile ignorable.has).head?.any cased.has

/-- The lower-case form of a letter, given the text before it, nearest first, and after it. -/
def lowerAt (before : List Char) (c : Char) (after : List Char) : List Char :=
  if c = 'Σ' then [if meetsCased before && ! meetsCased after then 'ς' else 'σ']
  else lower.apply c

/-- The lower-case form of the text that follows `before`, whose characters stand nearest first. -/
def lowerFrom (before : List Char) : List Char → List Char
  | [] => []
  | c :: after => lowerAt before c after ++ lowerFrom (c :: before) after

/-- The text in lower case. -/
def toLower (text : List Char) : List Char := lowerFrom [] text

/-- The text with its first letter in title case and the others in lower case. -/
def capitalize : List Char → List Char
  | [] => []
  | c :: rest => title.apply c ++ lowerFrom [c] rest

/-- The last letter of a word and a letter inside it differ for sigma only. -/
example : toLower "ΣΑΣ Σ".toList = "σας σ".toList := by decide +kernel

end LoxSyntax.Text
