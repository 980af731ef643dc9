/-
# Encoded text

The bytes of a text in UTF-8 are read back as its characters: the lead byte of a character tells how
many bytes follow and in which ranges they lie, and the bits of all of them are its code point.
-/
import Mathlib.Data.List.Forall2
import LoxSyntax.Text.Encoding

namespace LoxSyntax.Text

variable {lead : UInt8} {ranges : List (UInt8 × UInt8)} {taken rest : List UInt8} {c : Char}

/-! ## Bytes in their ranges -/

/-- The byte lies in the range. -/
def InRange (range : UInt8 × UInt8) (byte : UInt8) : Prop :=
  range.1.toNat ≤ byte.toNat ∧ byte.toNat ≤ range.2.toNat

/-- Bytes in their ranges are taken. -/
theorem takeContinuations_append (h : List.Forall₂ InRange ranges taken) (rest : List UInt8) :
    takeContinuations ranges (taken ++ rest) = .ok (taken, rest) := by
  induction h with
  | nil => rfl
  | @cons range byte ranges taken hbyte _ ih =>
    obtain ⟨low, high⟩ := range
    have hin : (decide (low ≤ byte) && decide (byte ≤ high)) = true := by
      rw [Bool.and_eq_true, decide_eq_true_eq, decide_eq_true_eq]
      exact hbyte
    rw [List.cons_append, takeContinuations, if_pos hin, ih]

/-- **The ranges behind a lead byte**: four lead bytes have a narrower first range, so that no
character is spelled in two ways, none is a surrogate and none is too large. -/
theorem continuations_eq (lead : UInt8) : continuations lead =
    if lead.toNat < 0x80 then some []
    else if lead.toNat < 0xC2 then none
    else if lead.toNat < 0xE0 then some [(0x80, 0xBF)]
    else if lead.toNat < 0xF0 then
      some [(if lead.toNat = 0xE0 then 0xA0 else 0x80, if lead.toNat = 0xED then 0x9F else 0xBF),
        (0x80, 0xBF)]
    else if lead.toNat < 0xF5 then
      some [(if lead.toNat = 0xF0 then 0x90 else 0x80, if lead.toNat = 0xF4 then 0x8F else 0xBF),
        (0x80, 0xBF), (0x80, 0xBF)]
    else none := by
  have hall : ∀ n : Fin 256, continuations (UInt8.ofNat n) =
      if n.val < 0x80 then some []
      else if n.val < 0xC2 then none
      else if n.val < 0xE0 then some [(0x80, 0xBF)]
      else if n.val < 0xF0 then
        some [(if n.val = 0xE0 then 0xA0 else 0x80, if n.val = 0xED then 0x9F else 0xBF),
          (0x80, 0xBF)]
      else if n.val < 0xF5 then
        some [(if n.val = 0xF0 then 0x90 else 0x80, if n.val = 0xF4 then 0x8F else 0xBF),
          (0x80, 0xBF), (0x80, 0xBF)]
      else none := by decide +kernel
  have hlead := hall ⟨lead.toNat, lead.toNat_lt⟩
  rwa [UInt8.ofNat_toNat] at hlead

/-! ## Characters and their bytes -/

/-- The bytes are read as the character: the first one leads, and the others lie in the ranges
behind it. -/
def Encodes (bytes : List UInt8) (c : Char) : Prop :=
  ∃ lead taken ranges, bytes = lead :: taken ∧ continuations lead = some ranges ∧
    List.Forall₂ InRange ranges taken ∧ assemble lead taken = c

/-- The bytes of a character are read as it. -/
theorem Encodes.decodeUtf8 {bytes : List UInt8} (h : Encodes bytes c) (offset : Nat)
    (rest : List UInt8) : decodeUtf8 offset (bytes ++ rest) =
      (decodeUtf8 (offset + bytes.length) rest).map (c :: ·) := by
  obtain ⟨lead, taken, ranges, rfl, hlead, hranges, rfl⟩ := h
  have htake := takeContinuations_append hranges rest
  rw [List.cons_append, Text.decodeUtf8, hlead]
  simp only
  split
  · rename_i hbad
    rw [htake] at hbad
    cases hbad
  · rename_i hgood
    rw [htake] at hgood
    cases hgood
    rw [List.length_cons, Nat.add_assoc, Nat.add_comm 1]

theorem toNat_ofNat {n : Nat} (h : n < 256) : (UInt8.ofNat n).toNat = n :=
  UInt8.toNat_ofNat_of_lt h

/-- Six bits of a character as a byte behind the lead byte. -/
def trailing (n : Nat) : UInt8 := UInt8.ofNat (n + 0x80)

theorem toNat_trailing {n : Nat} (h : n < 64) : (trailing n).toNat = n + 0x80 :=
  toNat_ofNat (by omega)

/-- A byte behind the first one lies in a range that holds its bits. -/
theorem inRange_trailing {range : UInt8 × UInt8} {n : Nat} (hn : n < 64)
    (hlow : range.1.toNat ≤ n + 0x80) (hhigh : n + 0x80 ≤ range.2.toNat) :
    InRange range (trailing n) := by
  unfold InRange
  rw [toNat_trailing hn]
  exact ⟨hlow, hhigh⟩

/-- Most ranges hold all bits. -/
theorem inRange_any {n : Nat} (hn : n < 64) : InRange (0x80, 0xBF) (trailing n) :=
  inRange_trailing hn (Nat.le_add_left 0x80 n) (Nat.add_le_add_right (Nat.le_of_lt_succ hn) 0x80)

/-- A range that is narrower for some lead bytes. -/
theorem inRange_narrow {P Q : Prop} [Decidable P] [Decidable Q] {low high : UInt8} {n : Nat}
    (hn : n < 64) (hlow : P → low.toNat ≤ n + 0x80) (hhigh : Q → n + 0x80 ≤ high.toNat) :
    InRange (if P then low else 0x80, if Q then high else 0xBF) (trailing n) := by
  obtain ⟨hany, hany'⟩ := inRange_any hn
  rw [toNat_trailing hn] at hany hany'
  apply inRange_trailing hn
  · dsimp only
    split
    · exact hlow ‹_›
    · exact hany
  · dsimp only
    split
    · exact hhigh ‹_›
    · exact hany'

/-- The bits of a lead byte and of the bytes behind it are put together. -/
theorem assemble_trailing (values : List Nat) (hvalues : ∀ n ∈ values, n < 64) {first : Nat}
    (hfirst : leadBits lead values.length = first) :
    assemble lead (values.map trailing) =
      Char.ofNat (values.foldl (fun code n => code * 64 + n) first) := by
  rw [assemble, List.length_map, hfirst, List.foldl_map]
  refine congrArg Char.ofNat ?_
  clear hfirst
  induction values generalizing first with
  | nil => rfl
  | cons n values ih =>
    rw [List.forall_mem_cons] at hvalues
    have hbits : (trailing n).toNat % 64 = n := by
      rw [toNat_trailing hvalues.1]
      omega
    rw [List.foldl_cons, List.foldl_cons, hbits, ih hvalues.2]

theorem encodes_one {a : Nat} (ha : a < 0x80) : Encodes [UInt8.ofNat a] (Char.ofNat a) := by
  have hlead := toNat_ofNat (n := a) (by omega)
  refine ⟨_, [], [], rfl, ?_, List.Forall₂.nil, ?_⟩
  · rw [continuations_eq, hlead, if_pos ha]
  · rw [assemble, List.foldl_nil, List.length_nil, leadBits, if_pos rfl, hlead]

/-- Two bytes, of which the first one is not too small. -/
theorem encodes_two {a b : Nat} (ha : 2 ≤ a) (ha' : a < 32) (hb : b < 64) :
    Encodes [UInt8.ofNat (a + 0xC0), trailing b] (Char.ofNat (a * 64 + b)) := by
  have hlead := toNat_ofNat (n := a + 0xC0) (by omega)
  have hbits : leadBits (UInt8.ofNat (a + 0xC0)) 1 = a := by
    rw [leadBits, if_neg (by decide), hlead]
    show (a + 0xC0) % 32 = a
    omega
  refine ⟨_, [_], [(0x80, 0xBF)], rfl, ?_, ?_, ?_⟩
  · rw [continuations_eq, hlead, if_neg (by omega), if_neg (by omega), if_pos (by omega)]
  · exact List.Forall₂.cons (inRange_any hb) List.Forall₂.nil
  · exact assemble_trailing [b] (by simpa using hb) hbits

/-- Three bytes, which spell no smaller character and no surrogate. -/
theorem encodes_three {a b d : Nat} (ha : a < 16) (hb : b < 64) (hd : d < 64)
    (hlow : a = 0 → 32 ≤ b) (hhigh : a = 13 → b < 32) :
    Encodes [UInt8.ofNat (a + 0xE0), trailing b, trailing d]
      (Char.ofNat ((a * 64 + b) * 64 + d)) := by
  have hlead := toNat_ofNat (n := a + 0xE0) (by omega)
  have hbits : leadBits (UInt8.ofNat (a + 0xE0)) 2 = a := by
    rw [leadBits, if_neg (by decide), hlead]
    show (a + 0xE0) % 16 = a
    omega
  have hfirst : InRange
      (if a + 0xE0 = 0xE0 then 0xA0 else 0x80, if a + 0xE0 = 0xED then 0x9F else 0xBF)
      (trailing b) :=
    inRange_narrow hb (fun h => Nat.add_le_add_right (hlow (by omega)) 0x80)
      (fun h => Nat.add_le_add_right (Nat.le_of_lt_succ (hhigh (by omega))) 0x80)
  refine ⟨_, [_, _], _, rfl, ?_, List.Forall₂.cons hfirst
    (List.Forall₂.cons (inRange_any hd) List.Forall₂.nil), ?_⟩
  · rw [continuations_eq, hlead, if_neg (by omega), if_neg (by omega), if_neg (by omega),
      if_pos (by omega)]
  · exact assemble_trailing [b, d] (by simpa using ⟨hb, hd⟩) hbits

/-- Four bytes, which spell no smaller character and none that is too large. -/
theorem encodes_four {a b d e : Nat} (ha : a < 5) (hb : b < 64) (hd : d < 64) (he : e < 64)
    (hlow : a = 0 → 16 ≤ b) (hhigh : a = 4 → b < 16) :
    Encodes [UInt8.ofNat (a + 0xF0), trailing b, trailing d, trailing e]
      (Char.ofNat (((a * 64 + b) * 64 + d) * 64 + e)) := by
  have hlead := toNat_ofNat (n := a + 0xF0) (by omega)
  have hbits : leadBits (UInt8.ofNat (a + 0xF0)) 3 = a := by
    rw [leadBits, if_neg (by decide), hlead]
    show (a + 0xF0) % 8 = a
    omega
  have hfirst : InRange
      (if a + 0xF0 = 0xF0 then 0x90 else 0x80, if a + 0xF0 = 0xF4 then 0x8F else 0xBF)
      (trailing b) :=
    inRange_narrow hb (fun h => Nat.add_le_add_right (hlow (by omega)) 0x80)
      (fun h => Nat.add_le_add_right (Nat.le_of_lt_succ (hhigh (by omega))) 0x80)
  refine ⟨_, [_, _, _], _, rfl, ?_, List.Forall₂.cons hfirst (List.Forall₂.cons (inRange_any hd)
    (List.Forall₂.cons (inRange_any he) List.Forall₂.nil)), ?_⟩
  · rw [continuations_eq, hlead, if_neg (by omega), if_neg (by omega), if_neg (by omega),
      if_neg (by omega), if_pos (by omega)]
  · exact assemble_trailing [b, d, e] (by simpa using ⟨hb, hd, he⟩) hbits

/-- **The bytes of a character in UTF-8 are read as it.** -/
theorem encodes_utf8EncodeChar (c : Char) : Encodes (String.utf8EncodeChar c) c := by
  have hvalid : c.val.toNat < 0xD800 ∨ 0xDFFF < c.val.toNat ∧ c.val.toNat < 0x110000 := c.valid
  have hchar {n : Nat} (hn : n = c.val.toNat) : Char.ofNat n = c := by
    rw [hn]
    exact Char.ofNat_toNat c
  unfold String.utf8EncodeChar
  generalize c.val.toNat = v at *
  simp only
  split
  · rw [← hchar rfl]
    exact encodes_one (by omega)
  split
  · have hbytes := encodes_two (a := v / 64 % 32) (b := v % 64) (by omega) (by omega) (by omega)
    rwa [hchar (by omega)] at hbytes
  split
  · have hbytes := encodes_three (a := v / 4096 % 16) (b := v / 64 % 64) (d := v % 64) (by omega)
      (by omega) (by omega) (by omega) (by omega)
    rwa [hchar (by omega)] at hbytes
  · have hbytes := encodes_four (a := v / 262144 % 8) (b := v / 4096 % 64) (d := v / 64 % 64)
      (e := v % 64) (by omega) (by omega) (by omega) (by omega) (by omega) (by omega)
    rwa [hchar (by omega)] at hbytes

/-- **Text in UTF-8 is read back.** -/
theorem decodeUtf8_flatMap (text : List Char) (offset : Nat) :
    Text.decodeUtf8 offset (text.flatMap String.utf8EncodeChar) = .ok text := by
  induction text generalizing offset with
  | nil => rw [List.flatMap_nil, Text.decodeUtf8]
  | cons c text ih =>
    rw [List.flatMap_cons, (encodes_utf8EncodeChar c).decodeUtf8, ih]
    rfl

/-- The bytes of a source text. -/
theorem decodeUtf8_toUTF8 (source : String) :
    Text.decodeUtf8 0 source.toUTF8.data.toList = .ok source.toList := by
  have hbytes : source.toUTF8.data.toList = source.toList.flatMap String.utf8EncodeChar := by
    have hencoded : source.toUTF8 = source.toList.utf8Encode := by
      rw [← String.toByteArray_ofList, String.ofList_toList]
      rfl
    rw [hencoded, List.utf8Encode]
    simp
  rw [hbytes, decodeUtf8_flatMap]

end LoxSyntax.Text
