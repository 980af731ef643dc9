/-
# The lines of a node module

The text of a node module breaks into the lines that it was made from, and one empty line behind the
last line feed.  Names are identifiers and types are words, so that the only line feeds are the ones
that end lines.  This does not depend on what else counts as a break, as long as it is a blank and
not the space.
-/
import Mathlib.Data.List.Basic
import LoxSyntax.Proofs.AcceptedGrammars
import LoxSyntax.Proofs.NameCharacters
import LoxSyntax.Proofs.TextLines

namespace LoxSyntax

namespace Text

/-- The characters at which a text is broken into lines: the line feed, and maybe other blanks, but
not the space. -/
structure LineBreaks where
  isBreak : Char → Bool
  lineFeed : isBreak '\n' = true
  space : isBreak ' ' = false
  isBlank_of_isBreak : ∀ c, isBreak c = true → isBlank c = true

namespace LineBreaks

/-- Line feeds alone. -/
def lineFeeds : LineBreaks where
  isBreak := (· == '\n')
  lineFeed := rfl
  space := rfl
  isBlank_of_isBreak c hc := by
    rw [beq_iff_eq.1 hc]
    decide

/-- Every blank but the space. -/
def allBlanks : LineBreaks where
  isBreak c := isBlank c && c != ' '
  lineFeed := by decide
  space := by decide
  isBlank_of_isBreak _ hc := (Bool.and_eq_true_iff.1 hc).1

variable (breaks : LineBreaks) {c : Char} {text before after : List Char}

/-- The lines of a text. -/
def lines (text : String) : List String := (pieces breaks.isBreak text.toList).map String.ofList

/-- A text without breaks. -/
def IsWhole (text : List Char) : Prop := ∀ c ∈ text, breaks.isBreak c = false

theorem isWhole_append :
    breaks.IsWhole (before ++ after) ↔ breaks.IsWhole before ∧ breaks.IsWhole after :=
  List.forall_mem_append

theorem isWhole_cons :
    breaks.IsWhole (c :: text) ↔ breaks.isBreak c = false ∧ breaks.IsWhole text :=
  List.forall_mem_cons

theorem isBreak_of_not_isBlank (h : isBlank c = false) : breaks.isBreak c = false := by
  rw [Bool.eq_false_iff]
  intro hbreak
  rw [breaks.isBlank_of_isBreak c hbreak] at h
  cases h

theorem isWhole_of_isUnbroken (h : IsUnbroken text) : breaks.IsWhole text :=
  fun c hc => breaks.isBreak_of_not_isBlank (h.isBlank c hc)

theorem isWhole_of_isWord (h : IsWord text) : breaks.IsWhole text :=
  fun c hc => breaks.isBreak_of_not_isBlank (h.2 c hc)

/-- A text of printable ASCII characters has no breaks. -/
theorem isWhole_of_ascii (h : text.all (fun c => 0x20 ≤ c.toNat && c.toNat < 0x7F) = true) :
    breaks.IsWhole text := by
  have hblanks : ∀ r ∈ blanks.ranges, r.2 ≤ 0x20 ∨ 0x7F ≤ r.1 := by decide
  intro c hc
  have hcode := List.all_eq_true.1 h c hc
  rw [Bool.and_eq_true, decide_eq_true_eq, decide_eq_true_eq] at hcode
  by_cases hspace : c = ' '
  · rw [hspace]
    exact breaks.space
  · refine breaks.isBreak_of_not_isBlank (Bool.eq_false_iff.2 fun hblank => hspace ?_)
    obtain ⟨r, hr, hlow, hhigh⟩ := (blanks.has_iff c).1 hblank
    have hrange := hblanks r hr
    have hequal : c.toNat = ' '.toNat := by
      have hcodeOfSpace : ' '.toNat = 0x20 := rfl
      omega
    exact Char.toNat_inj.1 hequal

/-- **Texts without breaks that each end with a line feed** are the lines of the whole, and an empty
line is the last one. -/
theorem lines_join {texts : List String} (h : ∀ text ∈ texts, breaks.IsWhole text.toList) :
    breaks.lines (String.join (texts.map (· ++ "\n"))) = texts ++ [""] := by
  induction texts with
  | nil => rfl
  | cons text texts ih =>
    obtain ⟨htext, htexts⟩ := List.forall_mem_cons.1 h
    rw [List.map_cons, String.join_cons, lines, toList_append_lineFeed,
      pieces_append_cons breaks.lineFeed, pieces_eq_singleton htext, List.map_append,
      List.map_singleton, String.ofList_toList, ← lines, ih htexts]
    rfl

end LineBreaks

end Text

namespace NodeModule

open Text

variable (breaks : LineBreaks) {base tokenModule : String} {f : Field} {v : Variant}
  {variants : List Variant}

/-! ## The lines that hold names -/

theorem toList_importLine : (importLine tokenModule).toList =
    "from ".toList ++ (tokenModule.toList ++ " import Token".toList) := by
  unfold importLine importFront importBack
  simp only [String.toList_append, List.append_assoc]

theorem toList_visitorLine : (visitorLine base).toList =
    "class ".toList ++ ((visitorName base).toList ++ '(' :: "ABC, Generic[R]):".toList) := by
  unfold visitorLine
  simp only [toString, String.toList_append, List.append_assoc]
  rfl

theorem toList_declarationLine {variant : String} : (declarationLine base variant).toList =
    "    def ".toList ++ ((visitMethod base variant).toList ++ '(' :: ("self, ".toList ++
      ((lowerName base).toList ++ (": ".toList ++ '"' :: (variant.toList ++
        '"' :: ") -> R:".toList))))) := by
  unfold declarationLine
  simp only [toString, String.toList_append, List.append_assoc]
  rfl

theorem toList_baseLine : (baseLine base).toList =
    "class ".toList ++ (base.toList ++ '(' :: "ABC):".toList) := by
  unfold baseLine
  simp only [toString, String.toList_append, List.append_assoc]
  rfl

theorem toList_acceptLine : (acceptLine base).toList = "    def ".toList ++ ("accept".toList ++
    '(' :: ("self, visitor: ".toList ++ ((visitorName base).toList ++ "[R]) -> R:".toList))) := by
  unfold acceptLine
  simp only [toString, String.toList_append, List.append_assoc]
  rfl

theorem toList_classLine {variant : String} : (classLine base variant).toList =
    "class ".toList ++ (variant.toList ++ '(' :: (base.toList ++ "):".toList)) := by
  unfold classLine
  simp only [toString, String.toList_append, List.append_assoc]
  rfl

theorem toList_fieldLine : (fieldLine f).toList =
    "    ".toList ++ (f.name.toList ++ ':' :: ' ' :: f.typeName.toList) := by
  unfold fieldLine
  simp only [toString, String.toList_append, List.append_assoc]
  rfl

theorem toList_callLine {variant : String} : (callLine base variant).toList =
    "        return visitor.".toList ++
      ((visitMethod base variant).toList ++ '(' :: "self)".toList) := by
  unfold callLine
  simp only [toString, String.toList_append, List.append_assoc]
  rfl

/-! ## Lines without breaks -/

theorem isWhole_importLine (h : breaks.IsWhole tokenModule.toList) :
    breaks.IsWhole (importLine tokenModule).toList := by
  rw [toList_importLine, breaks.isWhole_append, breaks.isWhole_append]
  exact ⟨breaks.isWhole_of_ascii (by decide), h, breaks.isWhole_of_ascii (by decide)⟩

theorem isWhole_visitorLine (h : IsUnbroken base.toList) :
    breaks.IsWhole (visitorLine base).toList := by
  rw [toList_visitorLine, breaks.isWhole_append, breaks.isWhole_append]
  exact ⟨breaks.isWhole_of_ascii (by decide),
    breaks.isWhole_of_isUnbroken (isUnbroken_visitorName h),
    breaks.isWhole_of_ascii (by decide)⟩

theorem isWhole_declarationLine {variant : String} (hbase : IsUnbroken base.toList)
    (hvariant : IsUnbroken variant.toList) :
    breaks.IsWhole (declarationLine base variant).toList := by
  simp only [toList_declarationLine, breaks.isWhole_append, breaks.isWhole_cons]
  exact ⟨breaks.isWhole_of_ascii (by decide),
    breaks.isWhole_of_isUnbroken (isUnbroken_visitMethod hbase hvariant),
    breaks.isBreak_of_not_isBlank (by decide), breaks.isWhole_of_ascii (by decide),
    breaks.isWhole_of_isUnbroken (isUnbroken_lowerName hbase),
    breaks.isWhole_of_ascii (by decide), breaks.isBreak_of_not_isBlank (by decide),
    breaks.isWhole_of_isUnbroken hvariant, breaks.isBreak_of_not_isBlank (by decide),
    breaks.isWhole_of_ascii (by decide)⟩

theorem isWhole_baseLine (h : IsUnbroken base.toList) :
    breaks.IsWhole (baseLine base).toList := by
  rw [toList_baseLine, breaks.isWhole_append, breaks.isWhole_append]
  exact ⟨breaks.isWhole_of_ascii (by decide), breaks.isWhole_of_isUnbroken h,
    breaks.isWhole_of_ascii (by decide)⟩

theorem isWhole_acceptLine (h : IsUnbroken base.toList) :
    breaks.IsWhole (acceptLine base).toList := by
  simp only [toList_acceptLine, breaks.isWhole_append, breaks.isWhole_cons]
  exact ⟨breaks.isWhole_of_ascii (by decide), breaks.isWhole_of_ascii (by decide),
    breaks.isBreak_of_not_isBlank (by decide), breaks.isWhole_of_ascii (by decide),
    breaks.isWhole_of_isUnbroken (isUnbroken_visitorName h),
    breaks.isWhole_of_ascii (by decide)⟩

theorem isWhole_classLine {variant : String} (hbase : IsUnbroken base.toList)
    (hvariant : IsUnbroken variant.toList) : breaks.IsWhole (classLine base variant).toList := by
  simp only [toList_classLine, breaks.isWhole_append, breaks.isWhole_cons]
  exact ⟨breaks.isWhole_of_ascii (by decide), breaks.isWhole_of_isUnbroken hvariant,
    breaks.isBreak_of_not_isBlank (by decide), breaks.isWhole_of_isUnbroken hbase,
    breaks.isWhole_of_ascii (by decide)⟩

theorem isWhole_fieldLine (h : f.IsAccepted) : breaks.IsWhole (fieldLine f).toList := by
  simp only [toList_fieldLine, breaks.isWhole_append, breaks.isWhole_cons]
  exact ⟨breaks.isWhole_of_ascii (by decide),
    breaks.isWhole_of_isUnbroken (isUnbroken_of_isIdentifier h.name),
    breaks.isBreak_of_not_isBlank (by decide), breaks.space, breaks.isWhole_of_isWord h.typeName⟩

theorem isWhole_callLine {variant : String} (hbase : IsUnbroken base.toList)
    (hvariant : IsUnbroken variant.toList) : breaks.IsWhole (callLine base variant).toList := by
  rw [toList_callLine, breaks.isWhole_append, breaks.isWhole_append]
  exact ⟨breaks.isWhole_of_ascii (by decide),
    breaks.isWhole_of_isUnbroken (isUnbroken_visitMethod hbase hvariant),
    breaks.isWhole_of_ascii (by decide)⟩

/-- **No line of a module has a break** if the names and types in it are accepted ones and the name
of the token module has no break. -/
theorem isWhole_of_mem_moduleLines (hbase : IsUnbroken base.toList)
    (hmodule : breaks.IsWhole tokenModule.toList) (h : ∀ v ∈ variants, v.IsAccepted) :
    ∀ line ∈ moduleLines base variants tokenModule, breaks.IsWhole line.toList := by
  have hunbroken (v) (hv : v ∈ variants) : IsUnbroken v.name.toList :=
    isUnbroken_of_isIdentifier (h v hv).name
  have hnone : breaks.IsWhole "".toList := List.forall_mem_nil _
  have habstract : breaks.IsWhole "    @abstractmethod".toList :=
    breaks.isWhole_of_ascii (by decide)
  have hpass : breaks.IsWhole "        pass".toList := breaks.isWhole_of_ascii (by decide)
  have hpreamble : ∀ line ∈ preamble tokenModule, breaks.IsWhole line.toList := by
    have hascii : ∀ line ∈ openingLines ++ definitionLines,
        line.toList.all (fun c => 0x20 ≤ c.toNat && c.toNat < 0x7F) = true := by decide
    rw [List.forall_mem_append] at hascii
    simp only [preamble, List.forall_mem_append, List.forall_mem_cons]
    exact ⟨fun line hline => breaks.isWhole_of_ascii (hascii.1 line hline),
      isWhole_importLine breaks hmodule,
      fun line hline => breaks.isWhole_of_ascii (hascii.2 line hline)⟩
  have hvisitor : ∀ line ∈ visitorClass base variants, breaks.IsWhole line.toList := by
    simp only [visitorClass, visitorMethod, List.forall_mem_append, List.forall_mem_cons,
      List.forall_mem_flatMap]
    exact ⟨⟨hnone, isWhole_visitorLine breaks hbase, List.forall_mem_nil _⟩, fun v hv =>
      ⟨hnone, habstract, isWhole_declarationLine breaks hbase (hunbroken v hv), hpass,
        List.forall_mem_nil _⟩⟩
  have hclass : ∀ line ∈ baseClass base, breaks.IsWhole line.toList := by
    simp only [baseClass, List.forall_mem_cons]
    exact ⟨hnone, hnone, isWhole_baseLine breaks hbase, hnone, habstract,
      isWhole_acceptLine breaks hbase, hpass, List.forall_mem_nil _⟩
  have hvariants : ∀ v ∈ variants, ∀ line ∈ variantClass base v, breaks.IsWhole line.toList := by
    intro v hv
    simp only [variantClass, List.forall_mem_append, List.forall_mem_cons, List.forall_mem_map]
    exact ⟨⟨⟨hnone, hnone, breaks.isWhole_of_ascii (by decide),
      isWhole_classLine breaks hbase (hunbroken v hv), List.forall_mem_nil _⟩,
      fun f hf => isWhole_fieldLine breaks ((h v hv).fields f hf)⟩,
      hnone, isWhole_acceptLine breaks hbase, isWhole_callLine breaks hbase (hunbroken v hv),
      List.forall_mem_nil _⟩
  simp only [moduleLines, List.forall_mem_append, List.forall_mem_flatMap]
  exact ⟨⟨⟨hpreamble, hvisitor⟩, hclass⟩, hvariants⟩

/-- **A module is generated for every accepted grammar**, and it falls into its lines, with an empty
line behind the last of them. -/
theorem exists_lines_generate {grammar : List String} (hbase : isIdentifier base.toList = true)
    (hmodule : breaks.IsWhole tokenModule.toList)
    (hgrammar : parseGrammar grammar = .ok variants) :
    ∃ text, generate base grammar tokenModule = .ok text ∧
      breaks.lines text = moduleLines base variants tokenModule ++ [""] := by
  obtain ⟨-, haccepted, -⟩ := parseGrammar_ok hgrammar
  have hunbroken := isUnbroken_of_isIdentifier hbase
  refine ⟨moduleText base variants tokenModule, ?_, ?_⟩
  · rw [generate, hgrammar]
    rfl
  · exact breaks.lines_join (isWhole_of_mem_moduleLines breaks hunbroken hmodule haccepted)

end NodeModule

end LoxSyntax
