/-
# Names that meet

A grammar is rejected if two variants have one name, or two fields of a variant.  The other names in
a module are made from those, and some of them can meet: a variant can have the name of the base
class or of the visitor class, a field can be called `accept`, and two names with the same words
give one visitor method.  These are the only ways.  Names in camel case have the same words only if
they are the same.
-/
import Mathlib.Data.List.Nodup
import LoxSyntax.Proofs.ModuleReading

namespace LoxSyntax.NodeModule

open Text

/-- The classes that the lines start. -/
def classNames (lines : List String) : List String := lines.filterMap className?

/-- The fields and the method of a class. -/
def NodeClass.members (c : NodeClass) : List String :=
  c.variant.fields.map (·.name) ++ [c.method]

/-! ## Camel case -/

section CamelCase

variable {c d : Char} {text before rest rest' : List Char} {name name' : String}

/-- An ASCII character that is no underscore. -/
def isPlainAscii (c : Char) : Bool := c.toNat < 0x80 && c != '_'

/-- A name in camel case: a capital, and then ASCII characters without underscores. -/
def IsCamelCase (name : String) : Prop :=
  ∃ first rest, name.toList = first :: rest ∧ isCapital first = true ∧
    ∀ c ∈ rest, isPlainAscii c = true

/-- A property of the ASCII characters, checked one by one. -/
theorem forall_ascii {P : Char → Prop} (h : ∀ n < 0x80, P (Char.ofNat n)) (hc : c.toNat < 0x80) :
    P c := by
  have hcode := h c.toNat hc
  rwa [Char.ofNat_toNat] at hcode

theorem toNat_lt_of_isCapital (h : isCapital c = true) : c.toNat < 0x80 := by
  rw [isCapital, Bool.and_eq_true, decide_eq_true_eq, decide_eq_true_eq] at h
  have hcode : c.toNat ≤ 'Z'.toNat := UInt32.le_iff_toNat_le.1 (Char.le_def.1 h.2)
  exact Nat.lt_of_le_of_lt hcode (by decide)

theorem toNat_lt_of_isPlainAscii (h : isPlainAscii c = true) : c.toNat < 0x80 :=
  of_decide_eq_true (Bool.and_eq_true_iff.1 h).1

/-- Among ASCII characters lower case changes the capitals, and upper case changes them back. -/
theorem toLower_of_ascii (h : c.toNat < 0x80) :
    (isCapital c = true → c.toLower.toUpper = c) ∧ (isCapital c = false → c.toLower = c) :=
  forall_ascii (P := fun c => (isCapital c = true → c.toLower.toUpper = c) ∧
    (isCapital c = false → c.toLower = c)) (by decide +kernel) h

/-- Different capitals have different lower cases. -/
theorem eq_of_toLower_eq (hc : isCapital c = true) (hd : isCapital d = true)
    (h : c.toLower = d.toLower) : c = d := by
  rw [← (toLower_of_ascii (toNat_lt_of_isCapital hc)).1 hc, h,
    (toLower_of_ascii (toNat_lt_of_isCapital hd)).1 hd]

/-- The lower case of an ASCII text is found letter by letter. -/
theorem lowerFrom_of_ascii (before : List Char) (h : ∀ c ∈ text, c.toNat < 0x80) :
    lowerFrom before text = text.map Char.toLower := by
  induction text generalizing before with
  | nil => rfl
  | cons c after ih =>
    obtain ⟨hc, hafter⟩ := List.forall_mem_cons.1 h
    -- the one letter whose lower case depends on its neighbours is none of them
    have hsigma : c ≠ 'Σ' := by
      rintro rfl
      revert hc
      decide
    have hletter : LetterCase.lower.apply c = [c.toLower] :=
      forall_ascii (P := fun c => LetterCase.lower.apply c = [c.toLower]) (by decide +kernel) hc
    rw [lowerFrom, lowerAt, if_neg hsigma, hletter, ih _ hafter]
    rfl

/-- The text in lower case, with underscores before the capitals. -/
def wordsApart (rest : List Char) : List Char :=
  rest.flatMap fun c => if isCapital c then ['_', c.toLower] else [c]

/-- The words of a name in camel case. -/
theorem toList_snakeCase {first : Char} (hname : name.toList = first :: rest)
    (hfirst : isCapital first = true) (hrest : ∀ c ∈ rest, isPlainAscii c = true) :
    (snakeCase name).toList = first.toLower :: wordsApart rest := by
  have hunderscore : '_'.toNat < 0x80 := by decide
  have hascii : ∀ c ∈ rest.flatMap (fun c => if isCapital c then ['_', c] else [c]),
      c.toNat < 0x80 := by
    refine List.forall_mem_flatMap.2 fun c hc => ?_
    have hcode := toNat_lt_of_isPlainAscii (hrest c hc)
    split
    · exact List.forall_mem_cons.2 ⟨hunderscore, List.forall_mem_singleton.2 hcode⟩
    · exact List.forall_mem_singleton.2 hcode
  have hletters : ∀ c ∈ rest, (if isCapital c then ['_', c] else [c]).map Char.toLower =
      if isCapital c then ['_', c.toLower] else [c] := by
    intro c hc
    by_cases hcapital : isCapital c = true
    · rw [if_pos hcapital, if_pos hcapital]
      rfl
    · rw [if_neg hcapital, if_neg hcapital, List.map_singleton,
        (toLower_of_ascii (toNat_lt_of_isPlainAscii (hrest c hc))).2 (Bool.eq_false_iff.2 hcapital)]
  have hcode := toNat_lt_of_isCapital hfirst
  rw [snakeCase, hname]
  simp only [String.toList_ofList]
  rw [toLower, lowerFrom_of_ascii [] (List.forall_mem_cons.2 ⟨hcode, hascii⟩), List.map_cons,
    List.map_flatMap, List.flatMap_congr hletters, wordsApart]

/-- The text that was set apart: a capital for each letter behind an underscore. -/
def wordsJoined : List Char → List Char
  | '_' :: c :: more => c.toUpper :: wordsJoined more
  | c :: more => c :: wordsJoined more
  | [] => []

/-- Words that are set apart can be put together again. -/
theorem wordsJoined_wordsApart (h : ∀ c ∈ rest, isPlainAscii c = true) :
    wordsJoined (wordsApart rest) = rest := by
  induction rest with
  | nil => rfl
  | cons c after ih =>
    obtain ⟨hc, hafter⟩ := List.forall_mem_cons.1 h
    have hne : c ≠ '_' := by
      rintro rfl
      revert hc
      decide
    rw [wordsApart, List.flatMap_cons, ← wordsApart]
    by_cases hcapital : isCapital c = true
    · rw [if_pos hcapital]
      show c.toLower.toUpper :: wordsJoined (wordsApart after) = c :: after
      rw [(toLower_of_ascii (toNat_lt_of_isCapital hcapital)).1 hcapital, ih hafter]
    · rw [if_neg hcapital, List.singleton_append, wordsJoined, ih hafter]
      exact fun _ _ heq => absurd heq hne

/-- **Names in camel case with the same words are the same.** -/
theorem eq_of_snakeCase_eq (h : IsCamelCase name) (h' : IsCamelCase name')
    (heq : snakeCase name = snakeCase name') : name = name' := by
  obtain ⟨first, rest, hname, hfirst, hrest⟩ := h
  obtain ⟨first', rest', hname', hfirst', hrest'⟩ := h'
  have hlist := congrArg String.toList heq
  rw [toList_snakeCase hname hfirst hrest, toList_snakeCase hname' hfirst' hrest',
    List.cons.injEq] at hlist
  rw [← String.toList_inj, hname, hname', eq_of_toLower_eq hfirst hfirst' hlist.1,
    ← wordsJoined_wordsApart hrest, hlist.2, wordsJoined_wordsApart hrest']

end CamelCase

/-! ## Names in a module -/

section Names

variable {base tokenModule : String} {v : Variant} {variants : List Variant}

theorem classNames_append (before after : List String) :
    classNames (before ++ after) = classNames before ++ classNames after :=
  List.filterMap_append

theorem classNames_cons {line name : String} (h : className? line = some name)
    (after : List String) : classNames (line :: after) = name :: classNames after := by
  rw [classNames, List.filterMap_cons, h, classNames]

theorem classNames_of_isInside {lines : List String} (h : ∀ line ∈ lines, isInside line = true) :
    classNames lines = [] :=
  List.filterMap_eq_nil_iff.2 fun line hline => className?_of_isInside (h line hline)

/-- The class of a variant is one class, with the name of the variant. -/
theorem classNames_variantClass (h : v.IsAccepted) :
    classNames (variantClass base v) = [v.name] := by
  have hfields : ∀ line ∈ v.fields.map fieldLine ++
      ["", acceptLine base, callLine base v.name], isInside line = true := by
    refine List.forall_mem_append.2 ⟨List.forall_mem_map.2 fun f _ => isInside_fieldLine, ?_⟩
    exact List.forall_mem_cons.2 ⟨rfl, List.forall_mem_cons.2 ⟨isInside_acceptLine,
      List.forall_mem_singleton.2 isInside_callLine⟩⟩
  have hlines : variantClass base v = ["", "", "@dataclass(frozen=True)"] ++
      classLine base v.name :: (v.fields.map fieldLine ++
        ["", acceptLine base, callLine base v.name]) := rfl
  have hmark : classNames ["", "", "@dataclass(frozen=True)"] = [] := by
    refine List.filterMap_eq_nil_iff.2 ?_
    simp only [List.forall_mem_cons]
    exact ⟨className?_eq_none (by decide), className?_eq_none (by decide),
      className?_eq_none (by decide), List.forall_mem_nil _⟩
  rw [hlines, classNames_append, hmark,
    classNames_cons (className?_classLine (isUnbroken_of_isIdentifier h.name)),
    classNames_of_isInside hfields]
  rfl

/-- **The classes of a module** are the visitor class, the base class and the classes of the
variants. -/
theorem classNames_moduleLines (hbase : IsUnbroken base.toList)
    (h : ∀ v ∈ variants, v.IsAccepted) :
    classNames (moduleLines base variants tokenModule ++ [""]) =
      visitorName base :: base :: variants.map (·.name) := by
  have hpreamble : classNames (preamble tokenModule) = [] :=
    List.filterMap_eq_nil_iff.2 className?_of_mem_preamble
  have hmethods : classNames (variants.flatMap (visitorMethod base)) = [] :=
    classNames_of_isInside (List.forall_mem_flatMap.2 fun v _ => isInside_of_mem_visitorMethod)
  have hvariants : classNames (variants.flatMap (variantClass base)) = variants.map (·.name) := by
    rw [classNames, List.filterMap_flatMap, List.map_eq_flatMap]
    exact List.flatMap_congr fun v hv => classNames_variantClass (h v hv)
  have hempty : classNames [""] = [] := classNames_of_isInside (by decide)
  have hvisitor : classNames (visitorClass base variants) = [visitorName base] := by
    have hlines : visitorClass base variants =
        [""] ++ visitorLine base :: variants.flatMap (visitorMethod base) := rfl
    rw [hlines, classNames_append, hempty, classNames_cons (className?_visitorLine hbase), hmethods]
    rfl
  have hclass : classNames (baseClass base) = [base] := by
    have hlines : baseClass base = ["", ""] ++ baseLine base ::
        ["", "    @abstractmethod", acceptLine base, "        pass"] := rfl
    have hfront : classNames ["", ""] = [] := classNames_of_isInside (by decide)
    have hbody : classNames ["", "    @abstractmethod", acceptLine base, "        pass"] = [] := by
      refine classNames_of_isInside ?_
      simp only [List.forall_mem_cons]
      exact ⟨rfl, rfl, isInside_acceptLine, rfl, List.forall_mem_nil _⟩
    rw [hlines, classNames_append, hfront, classNames_cons (className?_baseLine hbase), hbody]
    rfl
  simp only [moduleLines, classNames_append, hpreamble, hvisitor, hclass, hvariants, hempty,
    List.nil_append, List.append_nil, List.cons_append]

/-- The name of the visitor class is longer than the name of the base class. -/
theorem visitorName_ne : visitorName base ≠ base := by
  intro h
  have hlength := congrArg String.length h
  simp [visitorName, toString] at hlength

/-- **The classes have different names** unless a variant has the name of one of the other two. -/
theorem nodup_classNames_iff (hnames : (variants.map (·.name)).Nodup) :
    (visitorName base :: base :: variants.map (·.name)).Nodup ↔
      ∀ v ∈ variants, v.name ≠ base ∧ v.name ≠ visitorName base := by
  rw [List.nodup_cons, List.nodup_cons, List.mem_cons, not_or]
  constructor
  · rintro ⟨⟨-, hvisitor⟩, hclass, -⟩ v hv
    exact ⟨fun heq => hclass (heq ▸ List.mem_map_of_mem hv),
      fun heq => hvisitor (heq ▸ List.mem_map_of_mem hv)⟩
  · intro h
    refine ⟨⟨visitorName_ne, fun hmem => ?_⟩, fun hmem => ?_, hnames⟩
    · obtain ⟨v, hv, heq⟩ := List.mem_map.1 hmem
      exact (h v hv).2 heq
    · obtain ⟨v, hv, heq⟩ := List.mem_map.1 hmem
      exact (h v hv).1 heq

/-- **The members of the class of a variant have different names** unless a field is called like
the method. -/
theorem nodup_members_iff {c : NodeClass} (h : c.variant.IsAccepted) :
    c.members.Nodup ↔ ∀ f ∈ c.variant.fields, f.name ≠ c.method := by
  rw [NodeClass.members, List.nodup_append_comm, List.singleton_append, List.nodup_cons]
  constructor
  · rintro ⟨hmethod, -⟩ f hf heq
    exact hmethod (heq ▸ List.mem_map_of_mem hf)
  · intro hne
    refine ⟨fun hmem => ?_, h.nodup⟩
    obtain ⟨f, hf, heq⟩ := List.mem_map.1 hmem
    exact hne f hf heq

/-- Two variants have one visitor method exactly if their names have the same words. -/
theorem nodup_visitMethod_iff :
    (variants.map fun v => visitMethod base v.name).Nodup ↔
      (variants.map fun v => snakeCase v.name).Nodup := by
  -- the words stand between two parts that are the same in every method
  have hmap : (variants.map fun v => visitMethod base v.name) =
      (variants.map fun v => snakeCase v.name).map fun words =>
        s!"visit_{words}_{lowerName base}" := by
    rw [List.map_map]
    rfl
  rw [hmap]
  refine List.nodup_map_iff fun words words' heq => ?_
  simpa [toString] using heq

/-- Variants in camel case have different visitor methods. -/
theorem nodup_snakeCase_of_isCamelCase (hnames : (variants.map (·.name)).Nodup)
    (h : ∀ v ∈ variants, IsCamelCase v.name) : (variants.map fun v => snakeCase v.name).Nodup := by
  have hmap : (variants.map fun v => snakeCase v.name) =
      (variants.map (·.name)).map snakeCase := by
    rw [List.map_map]
    rfl
  rw [hmap]
  refine hnames.map_on fun name hname name' hname' heq => ?_
  obtain ⟨v, hv, rfl⟩ := List.mem_map.1 hname
  obtain ⟨v', hv', rfl⟩ := List.mem_map.1 hname'
  exact eq_of_snakeCase_eq (h v hv) (h v' hv') heq

end Names

/-! ## Names in what was generated -/

/-- **When a module defines a name twice.**  The classes in a module are those of the visitor, the
base and the variants, and two of them have one name exactly if a variant is called like the base or
the visitor.  Two variants have one visitor method exactly if their names have the same words, which
cannot be in camel case.  The fields of a variant have different names, and one of them meets the
method of the class exactly if it is called `accept`. -/
theorem names_generate (breaks : LineBreaks) {base : String} {grammar : List String}
    {variants : List Variant} (hbase : isIdentifier base.toList = true)
    (hgrammar : parseGrammar grammar = .ok variants) :
    ∃ text classes methods, generate base grammar defaultTokenModule = .ok text ∧
      nodeClasses? (breaks.lines text) = some classes ∧
      declaredMethods? base (breaks.lines text) = some methods ∧
      classNames (breaks.lines text) = visitorName base :: base :: variants.map (·.name) ∧
      ((classNames (breaks.lines text)).Nodup ↔
        ∀ v ∈ variants, v.name ≠ base ∧ v.name ≠ visitorName base) ∧
      methods.map (·.variant) = variants.map (·.name) ∧
      ((methods.map (·.name)).Nodup ↔ (variants.map fun v => snakeCase v.name).Nodup) ∧
      ((∀ v ∈ variants, IsCamelCase v.name) → (methods.map (·.name)).Nodup) ∧
      classes.map (·.variant) = variants ∧
      ∀ c ∈ classes, (c.variant.fields.map (·.name)).Nodup ∧
        (c.members.Nodup ↔ ∀ f ∈ c.variant.fields, f.name ≠ "accept") := by
  obtain ⟨-, haccepted, hnames⟩ := parseGrammar_ok hgrammar
  have hunbroken := isUnbroken_of_isIdentifier hbase
  have hmodule : breaks.IsWhole defaultTokenModule.toList :=
    breaks.isWhole_of_ascii (by decide)
  obtain ⟨text, htext, hlines⟩ := exists_lines_generate breaks hbase hmodule hgrammar
  refine ⟨text, variants.map fun v => ⟨v, "accept", visitMethod base v.name⟩,
    variants.map fun v => ⟨visitMethod base v.name, v.name⟩, htext, ?_, ?_, ?_, ?_, ?_, ?_, ?_,
    ?_, ?_⟩
  · rw [hlines]
    exact nodeClasses?_moduleLines hunbroken haccepted
  · rw [hlines]
    exact declaredMethods?_moduleLines hunbroken haccepted
  · rw [hlines]
    exact classNames_moduleLines hunbroken haccepted
  · rw [hlines, classNames_moduleLines hunbroken haccepted]
    exact nodup_classNames_iff hnames
  · rw [List.map_map]
    rfl
  · rw [List.map_map]
    exact nodup_visitMethod_iff
  · intro hcamel
    rw [List.map_map]
    exact nodup_visitMethod_iff.2 (nodup_snakeCase_of_isCamelCase hnames hcamel)
  · rw [List.map_map]
    exact List.map_id variants
  · refine List.forall_mem_map.2 fun v hv => ⟨(haccepted v hv).nodup, ?_⟩
    exact nodup_members_iff (haccepted v hv)

/-- The module of the expression nodes defines no name twice. -/
theorem names_generate_expr :
    isIdentifier "Expr".toList = true ∧ parseGrammar exprGrammar = .ok exprVariants ∧
    ∃ text classes methods, generate "Expr" exprGrammar defaultTokenModule = .ok text ∧
      nodeClasses? (LineBreaks.lineFeeds.lines text) = some classes ∧
      declaredMethods? "Expr" (LineBreaks.lineFeeds.lines text) = some methods ∧
      (classNames (LineBreaks.lineFeeds.lines text)).Nodup ∧ (methods.map (·.name)).Nodup ∧
      ∀ c ∈ classes, c.members.Nodup := by
  have hbase : isIdentifier "Expr".toList = true := by decide
  obtain ⟨hclasses, hwords, hfields⟩ :
      (∀ v ∈ exprVariants, v.name ≠ "Expr" ∧ v.name ≠ visitorName "Expr") ∧
      (exprVariants.map fun v => snakeCase v.name).Nodup ∧
      ∀ v ∈ exprVariants, ∀ f ∈ v.fields, f.name ≠ "accept" := by decide +kernel
  obtain ⟨text, classes, methods, htext, hread, hdeclared, -, hnames, -, hmethods, -, hvariants,
    hmembers⟩ := names_generate LineBreaks.lineFeeds hbase parseGrammar_exprGrammar
  refine ⟨hbase, parseGrammar_exprGrammar, text, classes, methods, htext, hread, hdeclared,
    hnames.2 hclasses, hmethods.2 hwords, fun c hc => (hmembers c hc).2.2 (hfields c.variant ?_)⟩
  rw [← hvariants]
  exact List.mem_map_of_mem hc

/-- In the module of an accepted grammar a class, a visitor method and a member of a class can be
defined twice. -/
theorem exists_names_defined_twice :
    isIdentifier "Expr".toList = true ∧ ∃ text classes methods,
      generate "Expr" ["AB : Expr accept", "A_b : Expr right", "Expr : Expr inner"]
        defaultTokenModule = .ok text ∧
      nodeClasses? (LineBreaks.lineFeeds.lines text) = some classes ∧
      declaredMethods? "Expr" (LineBreaks.lineFeeds.lines text) = some methods ∧
      ¬ (classNames (LineBreaks.lineFeeds.lines text)).Nodup ∧ ¬ (methods.map (·.name)).Nodup ∧
      ∃ c ∈ classes, ¬ c.members.Nodup := by
  have hbase : isIdentifier "Expr".toList = true := by decide
  have hmodule : LineBreaks.lineFeeds.IsWhole defaultTokenModule.toList :=
    LineBreaks.lineFeeds.isWhole_of_ascii (by decide)
  have hgrammar : parseGrammar ["AB : Expr accept", "A_b : Expr right", "Expr : Expr inner"] =
      .ok [⟨"AB", [⟨"Expr", "accept"⟩]⟩, ⟨"A_b", [⟨"Expr", "right"⟩]⟩,
        ⟨"Expr", [⟨"Expr", "inner"⟩]⟩] := by decide +kernel
  obtain ⟨-, haccepted, -⟩ := parseGrammar_ok hgrammar
  have hunbroken := isUnbroken_of_isIdentifier hbase
  obtain ⟨text, htext, hlines⟩ :=
    exists_lines_generate LineBreaks.lineFeeds hbase hmodule hgrammar
  refine ⟨hbase, text, _, _, htext, hlines ▸ nodeClasses?_moduleLines hunbroken haccepted,
    hlines ▸ declaredMethods?_moduleLines hunbroken haccepted, ?_, ?_, ?_⟩
  · rw [hlines, classNames_moduleLines hunbroken haccepted]
    decide +kernel
  · decide +kernel
  · exact ⟨_, List.mem_cons_self, by decide +kernel⟩

end LoxSyntax.NodeModule
