/-
# Quoted text

A message quotes a text in single quotes, or in double quotes where the text holds single ones
only.  Inside, the quote in use and the backslash are escaped, and so is every character that
cannot be shown.
-/
import LoxSyntax.Text.Hexadecimal
import LoxSyntax.Text.Printable

namespace LoxSyntax.Text

/-- The quote that needs the fewest escapes, single if both do alike. -/
def quoteFor (text : List Char) : Char :=
  if text.contains '\'' && ! text.contains '"' then '"' else '\''

/-- A numbered escape with two, four or eight digits, as the code point needs. -/
def numberedEscape (c : Char) : List Char :=
  if c.toNat < 0x100 then '\\' :: 'x' :: hexadecimal 2 c.toNat
  else if c.toNat < 0x10000 then '\\' :: 'u' :: hexadecimal 4 c.toNat
  else '\\' :: 'U' :: hexadecimal 8 c.toNat

/-- One character inside the given quotes. -/
def escape (quote c : Char) : List Char :=
  if c = quote || c = '\\' then ['\\', c]
  else if c = '\n' then ['\\', 'n']
  else if c = '\r' then ['\\', 'r']
  else if c = '\t' then ['\\', 't']
  else if isPrintable c then [c]
  else numberedEscape c

/-- The text between quotes. -/
def quoted (text : List Char) : List Char :=
  let quote := quoteFor text
  quote :: text.flatMap (escape quote) ++ [quote]

/-- Single quotes alone are spared by double ones. -/
example : quoted "it's".toList = "\"it's\"".toList := by decide +kernel

/-- With both kinds inside, the single quotes are escaped. -/
example : quoted "'\"\u200b".toList = "'\\'\"\\u200b'".toList := by decide +kernel

end LoxSyntax.Text
