/-
# Encodings

The bytes of a file become characters under one of four encodings.  Bytes that an encoding cannot
read are reported with their offset and with the reason.  Line ends are made uniform afterwards.
-/
import LoxSyntax.Text.Hexadecimal

namespace LoxSyntax.Text

/-- The encodings that a file may be read under. -/
inductive Encoding where
  | utf8
  | utf8Marked
  | ascii
  | latin1
  deriving DecidableEq, Repr

/-- The encoding of a name. -/
def Encoding.ofName? : String → Option Encoding
  | "utf-8" => some .utf8
  | "utf-8-sig" => some .utf8Marked
  | "ascii" => some .ascii
  | "latin-1" => some .latin1
  | _ => none

/-- Why bytes cannot be read. -/
inductive Malformation where
  | badStart
  | badContinuation
  | truncated
  | notAscii
  deriving DecidableEq, Repr

/-- The bytes that cannot be read, with the offset of the first one. -/
structure DecodeError where
  malformation : Malformation
  offset : Nat
  bytes : List UInt8
  deriving DecidableEq, Repr

/-- The family of encodings that a malformation belongs to. -/
def Malformation.family : Malformation → String
  | .notAscii => "ascii"
  | _ => "utf-8"

/-- The malformation in words. -/
def Malformation.reason : Malformation → String
  | .badStart => "invalid start byte"
  | .badContinuation => "invalid continuation byte"
  | .truncated => "unexpected end of data"
  | .notAscii => "ordinal not in range(128)"

/-- The bytes at fault and where they stand: a single byte is shown, several are counted. -/
def DecodeError.extent (e : DecodeError) : String :=
  match e.bytes with
  | [byte] => s!"byte 0x{String.ofList (hexadecimal 2 byte.toNat)} in position {e.offset}"
  | bytes => s!"bytes in position {e.offset}-{e.offset + bytes.length - 1}"

/-- The error in words. -/
def DecodeError.message (e : DecodeError) : String :=
  s!"'{e.malformation.family}' codec can't decode {e.extent}: {e.malformation.reason}"

/-! ## Characters of several bytes -/

/-- The ranges that the bytes after a lead byte must lie in, or nothing for a byte that leads no
character. -/
def continuations (lead : UInt8) : Option (List (UInt8 × UInt8)) :=
  let any : UInt8 × UInt8 := (0x80, 0xBF)
  if lead < 0x80 then some []
  else if lead < 0xC2 then none
  else if lead < 0xE0 then some [any]
  else if lead = 0xE0 then some [(0xA0, 0xBF), any]
  else if lead = 0xED then some [(0x80, 0x9F), any]
  else if lead < 0xF0 then some [any, any]
  else if lead = 0xF0 then some [(0x90, 0xBF), any, any]
  else if lead < 0xF4 then some [any, any, any]
  else if lead = 0xF4 then some [(0x80, 0x8F), any, any]
  else none

/-- Takes one byte for each range.  On failure the answer holds the bytes that did fit. -/
def takeContinuations : List (UInt8 × UInt8) → List UInt8 →
    Except (Malformation × List UInt8) (List UInt8 × List UInt8)
  | [], rest => .ok ([], rest)
  | _ :: _, [] => .error (.truncated, [])
  | (low, high) :: ranges, byte :: rest =>
    if low ≤ byte && byte ≤ high then
      match takeContinuations ranges rest with
      | .ok (taken, after) => .ok (byte :: taken, after)
      | .error (malformation, taken) => .error (malformation, byte :: taken)
    else .error (.badContinuation, [])

/-- What is left is no longer than what there was. -/
theorem length_takeContinuations {ranges : List (UInt8 × UInt8)} {bytes taken rest : List UInt8}
    (h : takeContinuations ranges bytes = .ok (taken, rest)) : rest.length ≤ bytes.length := by
  induction ranges generalizing bytes taken with
  | nil =>
    simp only [takeContinuations, Except.ok.injEq, Prod.mk.injEq] at h
    simp [h.2]
  | cons range ranges ih =>
    obtain ⟨low, high⟩ := range
    cases bytes with
    | nil => simp [takeContinuations] at h
    | cons byte bytes =>
      simp only [takeContinuations] at h
      split at h
      · split at h
        · rename_i after e
          simp only [Except.ok.injEq, Prod.mk.injEq] at h
          have shorter := ih (h.2 ▸ e)
          simp only [List.length_cons]
          omega
        · simp at h
      · simp at h

/-- The bits that a lead byte gives to its character when `n` bytes follow. -/
def leadBits (lead : UInt8) (n : Nat) : Nat :=
  if n = 0 then lead.toNat else lead.toNat % (64 >>> n)

/-- The character of a lead byte and the bytes after it. -/
def assemble (lead : UInt8) (following : List UInt8) : Char :=
  Char.ofNat (following.foldl (fun code byte => code * 64 + byte.toNat % 64)
    (leadBits lead following.length))

/-- Reads characters of one to four bytes, the first byte standing at the given offset. -/
def decodeUtf8 (offset : Nat) : List UInt8 → Except DecodeError (List Char)
  | [] => .ok []
  | lead :: rest =>
    match continuations lead with
    | none => .error ⟨.badStart, offset, [lead]⟩
    | some ranges =>
      match h : takeContinuations ranges rest with
      | .error (malformation, taken) => .error ⟨malformation, offset, lead :: taken⟩
      | .ok (taken, after) =>
        (decodeUtf8 (offset + 1 + taken.length) after).map (assemble lead taken :: ·)
termination_by bytes => bytes.length
decreasing_by
  have shorter := length_takeContinuations h
  simp only [List.length_cons]
  omega

/-- Reads characters of one byte, below 128 each. -/
def decodeAscii (offset : Nat) : List UInt8 → Except DecodeError (List Char)
  | [] => .ok []
  | byte :: rest =>
    if byte < 0x80 then (decodeAscii (offset + 1) rest).map (Char.ofNat byte.toNat :: ·)
    else .error ⟨.notAscii, offset, [byte]⟩

/-- The bytes after a byte order mark.  A file that ends within the mark counts as empty. -/
def dropMark : List UInt8 → List UInt8
  | [] | [0xEF] | [0xEF, 0xBB] => []
  | 0xEF :: 0xBB :: 0xBF :: rest => rest
  | bytes => bytes

/-- The characters of the bytes. -/
def Encoding.decode : Encoding → List UInt8 → Except DecodeError (List Char)
  | .utf8, bytes => decodeUtf8 0 bytes
  | .utf8Marked, bytes => decodeUtf8 0 (dropMark bytes)
  | .ascii, bytes => decodeAscii 0 bytes
  | .latin1, bytes => .ok (bytes.map fun byte => Char.ofNat byte.toNat)

/-! ## Line ends -/

/-- Makes every carriage return, with or without a line feed behind it, one line feed. -/
def unifyLineEnds : List Char → List Char
  | [] => []
  | '\r' :: '\n' :: rest => '\n' :: unifyLineEnds rest
  | '\r' :: rest => '\n' :: unifyLineEnds rest
  | c :: rest => c :: unifyLineEnds rest

/-- No carriage return is left. -/
theorem not_mem_unifyLineEnds (text : List Char) : '\r' ∉ unifyLineEnds text := by
  fun_induction unifyLineEnds text with
  | case1 => simp
  | case2 rest ih => simpa using ih
  | case3 rest _ ih => simpa using ih
  | case4 c rest _ other ih =>
    simp only [List.mem_cons, not_or]
    exact ⟨fun e => other e.symm, ih⟩

end LoxSyntax.Text
