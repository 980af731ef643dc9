/-
# Raw texts

The words that a program is called with need not be texts.  A byte of them that belongs to no
character arrives as a surrogate on its own, which is a code point that no character has and no
file in UTF-8 can hold.  A raw text is a row of characters and of such surrogates.
-/
import LoxSyntax.Text.DecimalDigit
import LoxSyntax.Text.Quoted

namespace LoxSyntax.Text

/-- A code point of a raw text: a character, or a surrogate, counted from U+D800. -/
inductive Point where
  | char (c : Char)
  | lone (surrogate : Fin 0x800)
  deriving DecidableEq, Repr

/-- A text that may hold lone surrogates. -/
abbrev Raw := List Point

/-- A text as a raw one. -/
def Raw.ofString (text : String) : Raw := text.toList.map .char

/-- A decimal digit of any script. -/
def Point.isDecimalDigit : Point → Bool
  | char c => Text.isDecimalDigit c
  | lone _ => false

/-! ## Raw texts in messages -/

/-- The escape of a surrogate. -/
def surrogateEscape (surrogate : Fin 0x800) : List Char :=
  '\\' :: 'u' :: hexadecimal 4 (0xD800 + surrogate)

/-- One code point inside the given quotes. -/
def Point.escape (quote : Char) : Point → List Char
  | char c => Text.escape quote c
  | lone surrogate => surrogateEscape surrogate

/-- The characters of a raw text without its surrogates. -/
def Raw.chars (text : Raw) : List Char :=
  text.filterMap fun
    | .char c => some c
    | .lone _ => none

/-- The raw text between quotes. -/
def Raw.quoted (text : Raw) : String :=
  let quote := quoteFor text.chars
  String.ofList (quote :: text.flatMap (Point.escape quote) ++ [quote])

/-- The raw text with its surrogates escaped, as a stream for messages shows it. -/
def Raw.shown (text : Raw) : String :=
  String.ofList (text.flatMap fun
    | .char c => [c]
    | .lone surrogate => surrogateEscape surrogate)

/-! ## Encoding -/

/-- The first surrogates of a text that cannot be encoded: where they stand, and which they are. -/
structure Unencodable where
  place : Nat
  first : Fin 0x800
  more : List (Fin 0x800)
  deriving DecidableEq, Repr

/-- The surrogates at fault and where they stand: a single one is shown, several are counted. -/
def Unencodable.extent (e : Unencodable) : String :=
  match e.more with
  | [] => s!"character '{String.ofList (surrogateEscape e.first)}' in position {e.place}"
  | more => s!"characters in position {e.place}-{e.place + more.length}"

/-- The error in words. -/
def Unencodable.message (e : Unencodable) : String :=
  s!"'utf-8' codec can't encode {e.extent}: surrogates not allowed"

/-- The surrogates that a raw text starts with. -/
def Raw.leading : Raw → List (Fin 0x800)
  | .lone surrogate :: rest => surrogate :: leading rest
  | _ => []

/-- The characters of a raw text, whose first code point stands at the given place, as long as there
is no surrogate. -/
def Raw.encodeFrom (place : Nat) : Raw → Except Unencodable (List Char)
  | [] => .ok []
  | .char c :: rest => (encodeFrom (place + 1) rest).map (c :: ·)
  | .lone surrogate :: rest => .error ⟨place, surrogate, leading rest⟩

/-- The text that a file in UTF-8 holds for a raw text. -/
def Raw.encode (text : Raw) : Except Unencodable String := (text.encodeFrom 0).map String.ofList

/-! ## Bytes -/

/-- The bytes of a text in UTF-8. -/
def utf8 (text : String) : List UInt8 := text.toList.flatMap String.utf8EncodeChar

/-- The bytes that a code point stands for in the name of a file.  The surrogates from U+DC80 to
U+DCFF stand for the bytes from 0x80 to 0xFF, and the others for nothing. -/
def Point.bytes? : Point → Option (List UInt8)
  | char c => some (String.utf8EncodeChar c)
  | lone surrogate =>
    if 0x480 ≤ surrogate.val ∧ surrogate.val < 0x500 then
      some [UInt8.ofNat (surrogate.val - 0x400)]
    else none

/-- The bytes that a raw text stands for in the name of a file. -/
def Raw.bytes? (text : Raw) : Option (List UInt8) := (text.mapM Point.bytes?).map List.flatten

/-- Several surrogates are reported together, up to the next character. -/
example : Raw.encode [.char 'a', .lone 0x4FF, .lone 0x4FE, .char 'b', .lone 0] =
    .error ⟨1, 0x4FF, [0x4FE]⟩ := rfl

end LoxSyntax.Text
