/-
# Reading a node module

A node module says which grammar it was made from.  It is read line by line, without the generator:
behind each mark of a class comes the class of a variant, whose fields go down to the first empty
line, and in the body of the visitor class a method is declared behind each mark of an abstract
method.  What is read in this way are the variants, and the class of each of them calls the method
that the visitor declares for it.
-/
import Mathlib.Data.List.Basic
import LoxSyntax.Proofs.ModuleLines

namespace LoxSyntax.NodeModule

open Text

/-! ## Readers of lines -/

/-- The text of a line between its front and the first mark behind it. -/
def between? (front : String) (mark : Char) (line : String) : Option String := do
  let rest ← front.toList.isPrefixOf? line.toList
  let (name, _) ← splitFirst? mark rest
  return String.ofList name

/-- The class that a line starts. -/
def className? : String → Option String := between? "class " '('

/-- The method that a line starts. -/
def methodName? : String → Option String := between? "    def " '('

/-- The method of a visitor that a line calls. -/
def calledName? : String → Option String := between? "        return visitor." '('

/-- The first text in quotes on a line. -/
def quotedName? (line : String) : Option String := do
  let (_, rest) ← splitFirst? '"' line.toList
  let (name, _) ← splitFirst? '"' rest
  return String.ofList name

/-- The field on a line: its name, a colon, a space and its type. -/
def field? (line : String) : Option Field := do
  let rest ← "    ".toList.isPrefixOf? line.toList
  match ← splitFirst? ':' rest with
  | (name, ' ' :: typeName) => return ⟨String.ofList typeName, String.ofList name⟩
  | _ => none

/-! ## Readers of classes -/

/-- What stands behind each line that is the mark, in order. -/
def readBehind {α : Type} (mark : String) (read? : List String → Option α) :
    List String → Option (List α)
  | [] => some []
  | line :: rest =>
    if line = mark then do
      let first ← read? rest
      let others ← readBehind mark read? rest
      return first :: others
    else readBehind mark read? rest

/-- The class of a variant as it is read: the variant, the method it defines and the method of the
visitor that this one calls. -/
structure NodeClass where
  variant : Variant
  method : String
  called : String
  deriving DecidableEq, Repr

/-- A method of the visitor as it is read, with the variant that it visits. -/
structure DeclaredMethod where
  name : String
  variant : String
  deriving DecidableEq, Repr

/-- The class at the top: its name, its fields down to an empty line, and behind that its method. -/
def nodeClass? : List String → Option NodeClass
  | [] => none
  | line :: rest => do
    let name ← className? line
    let fields ← (rest.takeWhile (· ≠ "")).mapM field?
    match rest.dropWhile (· ≠ "") with
    | _ :: first :: second :: _ =>
      return ⟨⟨name, fields⟩, ← methodName? first, ← calledName? second⟩
    | _ => none

/-- The classes of the variants. -/
def nodeClasses? : List String → Option (List NodeClass) :=
  readBehind "@dataclass(frozen=True)" nodeClass?

/-- The declaration at the top. -/
def declaredMethod? : List String → Option DeclaredMethod
  | [] => none
  | line :: _ => return ⟨← methodName? line, ← quotedName? line⟩

/-- A line is empty or indented, and so goes on with the class before it. -/
def isInside (line : String) : Bool := line.toList.head?.all (· == ' ')

/-- The lines that go on with the first class of a name. -/
def classBody (name : String) (lines : List String) : List String :=
  (lines.dropWhile (className? · ≠ some name)).tail.takeWhile isInside

/-- The abstract methods of the visitor class. -/
def declaredMethods? (base : String) (lines : List String) : Option (List DeclaredMethod) :=
  readBehind "    @abstractmethod" declaredMethod? (classBody (visitorName base) lines)

/-! ## Parts of lines -/

section Parts

variable {front name line : String} {mark : Char} {before after : List Char}

/-- A name between the front of a line and a mark that is not in it. -/
theorem between?_eq_some (hline : line.toList = front.toList ++ (name.toList ++ mark :: after))
    (h : mark ∉ name.toList) : between? front mark line = some name := by
  have hfront : front.toList.isPrefixOf? line.toList = some (name.toList ++ mark :: after) :=
    List.isPrefixOf?_eq_some_iff_append_eq.2 hline.symm
  simp [between?, hfront, splitFirst?_append h]

/-- A name in quotes behind a text without quotes. -/
theorem quotedName?_eq_some (hline : line.toList = before ++ '"' :: (name.toList ++ '"' :: after))
    (hbefore : '"' ∉ before) (h : '"' ∉ name.toList) : quotedName? line = some name := by
  simp [quotedName?, hline, splitFirst?_append hbefore, splitFirst?_append h]

/-- A line that starts with another letter starts no class. -/
theorem className?_eq_none (h : line.toList.head? ≠ some 'c') : className? line = none := by
  have hfront : "class ".toList.isPrefixOf? line.toList = none := by
    rw [Option.eq_none_iff_forall_ne_some]
    intro rest hrest
    rw [List.isPrefixOf?_eq_some_iff_append_eq] at hrest
    rw [← hrest] at h
    exact h rfl
  rw [className?, between?, hfront]
  rfl

end Parts

/-! ## Lines of a module -/

section Lines

variable {base variant : String} {f : Field} {v : Variant}

/-- The line of a field is read as the field. -/
theorem field?_fieldLine (h : f.IsAccepted) : field? (fieldLine f) = some f := by
  have hfront : "    ".toList.isPrefixOf? (fieldLine f).toList =
      some (f.name.toList ++ ':' :: ' ' :: f.typeName.toList) :=
    List.isPrefixOf?_eq_some_iff_append_eq.2 toList_fieldLine.symm
  have hcolon := (isUnbroken_of_isIdentifier h.name).not_mem (c := ':') (by decide)
  rw [field?, hfront]
  simp [splitFirst?_append hcolon]

theorem methodName?_acceptLine : methodName? (acceptLine base) = some "accept" :=
  between?_eq_some toList_acceptLine (by decide)

/-- A declaration names the method and, in quotes, the variant. -/
theorem declaredMethod?_declarationLine (hbase : IsUnbroken base.toList)
    (h : IsUnbroken variant.toList) (rest : List String) :
    declaredMethod? (declarationLine base variant :: rest) =
      some ⟨visitMethod base variant, variant⟩ := by
  have hmethod := isUnbroken_visitMethod hbase h
  have hparameter := isUnbroken_lowerName hbase
  have hname : methodName? (declarationLine base variant) = some (visitMethod base variant) :=
    between?_eq_some toList_declarationLine (hmethod.not_mem (by decide))
  -- the first quote on the line is the one before the variant
  obtain ⟨before, after, hbefore, hline⟩ : ∃ before after, '"' ∉ before ∧
      (declarationLine base variant).toList =
        before ++ '"' :: (variant.toList ++ '"' :: after) := by
    refine ⟨"    def ".toList ++ ((visitMethod base variant).toList ++ '(' :: ("self, ".toList ++
      ((lowerName base).toList ++ ": ".toList))), ") -> R:".toList, ?_, ?_⟩
    · simp only [List.mem_append, List.mem_cons, not_or]
      exact ⟨by decide, hmethod.not_mem (by decide), by decide, by decide,
        hparameter.not_mem (by decide), by decide⟩
    · rw [toList_declarationLine]
      simp only [List.append_assoc, List.cons_append]
  have hquoted := quotedName?_eq_some hline hbefore (h.not_mem (by decide))
  rw [declaredMethod?, hname, hquoted]
  rfl

theorem className?_classLine (h : IsUnbroken variant.toList) :
    className? (classLine base variant) = some variant :=
  between?_eq_some toList_classLine (h.not_mem (by decide))

theorem className?_visitorLine (h : IsUnbroken base.toList) :
    className? (visitorLine base) = some (visitorName base) :=
  between?_eq_some toList_visitorLine ((isUnbroken_visitorName h).not_mem (by decide))

theorem className?_baseLine (h : IsUnbroken base.toList) :
    className? (baseLine base) = some base :=
  between?_eq_some toList_baseLine (h.not_mem (by decide))

theorem calledName?_callLine (hbase : IsUnbroken base.toList) (h : IsUnbroken variant.toList) :
    calledName? (callLine base variant) = some (visitMethod base variant) :=
  between?_eq_some toList_callLine ((isUnbroken_visitMethod hbase h).not_mem (by decide))

end Lines

/-! ## Lines that start nothing -/

section Fronts

variable {base tokenModule : String} {f : Field} {v : Variant} {variants : List Variant}

/-- Lines that go on with a class start no other one. -/
theorem className?_of_isInside {line : String} (h : isInside line = true) :
    className? line = none := by
  refine className?_eq_none fun hhead => ?_
  rw [isInside, hhead] at h
  cases h

/-- The lines of a visitor method are inside the visitor class. -/
theorem isInside_of_mem_visitorMethod : ∀ line ∈ visitorMethod base v, isInside line = true := by
  have hdeclaration : isInside (declarationLine base v.name) = true := by
    rw [isInside, toList_declarationLine]
    rfl
  simp only [visitorMethod, List.forall_mem_cons]
  exact ⟨rfl, rfl, hdeclaration, rfl, List.forall_mem_nil _⟩

theorem isInside_fieldLine : isInside (fieldLine f) = true := by
  rw [isInside, toList_fieldLine]
  rfl

theorem isInside_acceptLine : isInside (acceptLine base) = true := by
  rw [isInside, toList_acceptLine]
  rfl

theorem isInside_callLine {variant : String} : isInside (callLine base variant) = true := by
  rw [isInside, toList_callLine]
  rfl

/-- The lines before the classes start no class. -/
theorem className?_of_mem_preamble : ∀ line ∈ preamble tokenModule, className? line = none := by
  have himport : className? (importLine tokenModule) = none := by
    have hhead : (importLine tokenModule).toList.head? = some 'f' := by
      rw [toList_importLine]
      rfl
    exact className?_eq_none (by rw [hhead]; decide)
  have hheads : ∀ line ∈ openingLines ++ definitionLines, line.toList.head? ≠ some 'c' := by decide
  rw [List.forall_mem_append] at hheads
  simp only [preamble, List.forall_mem_append, List.forall_mem_cons]
  exact ⟨fun line hline => className?_eq_none (hheads.1 line hline), himport,
    fun line hline => className?_eq_none (hheads.2 line hline)⟩

end Fronts

/-! ## Blocks of lines -/

section Marks

variable {α ι : Type} {mark : String} {read? : List String → Option α} {value : ι → α}
  {block : ι → List String} {items : List ι} {before rest : List String}

/-- Lines without the mark are passed over. -/
theorem readBehind_append (h : mark ∉ before) :
    readBehind mark read? (before ++ rest) = readBehind mark read? rest := by
  induction before with
  | nil => rfl
  | cons line before ih =>
    obtain ⟨hline, hbefore⟩ := not_or.1 (mt List.mem_cons.2 h)
    rw [List.cons_append, readBehind, if_neg (Ne.symm hline), ih hbefore]

/-- **Blocks with one mark in each** are read one by one. -/
theorem readBehind_flatMap
    (hblock : ∀ i ∈ items, ∃ before after, block i = before ++ mark :: after ∧ mark ∉ before ∧
      mark ∉ after ∧ ∀ rest, read? (after ++ rest) = some (value i))
    (hrest : mark ∉ rest) :
    readBehind mark read? (items.flatMap block ++ rest) = some (items.map value) := by
  induction items with
  | nil =>
    rw [List.flatMap_nil, List.nil_append, ← List.append_nil rest, readBehind_append hrest]
    rfl
  | cons i items ih =>
    obtain ⟨⟨before, after, hi, hbefore, hafter, hread⟩, hitems⟩ := List.forall_mem_cons.1 hblock
    rw [List.flatMap_cons, hi, List.append_assoc, List.append_assoc, readBehind_append hbefore,
      List.cons_append, readBehind, if_pos rfl, hread, readBehind_append hafter, ih hitems]
    rfl

end Marks

section Blocks

variable {base tokenModule line : String} {v : Variant} {variants : List Variant}

/-- The lines of fields are read as the fields. -/
theorem mapM_field?_fieldLine {fields : List Field} (h : ∀ f ∈ fields, f.IsAccepted) :
    (fields.map fieldLine).mapM field? = some fields := by
  induction fields with
  | nil => rfl
  | cons f fields ih =>
    obtain ⟨hf, hfields⟩ := List.forall_mem_cons.1 h
    rw [List.map_cons, List.mapM_cons, field?_fieldLine hf, ih hfields]
    rfl

/-- **The class of a variant** is read as the variant, with a method `accept` that calls the visitor
method for the variant. -/
theorem nodeClass?_classLine (hbase : IsUnbroken base.toList) (h : v.IsAccepted)
    (rest : List String) :
    nodeClass? (classLine base v.name :: (v.fields.map fieldLine ++
      "" :: acceptLine base :: callLine base v.name :: rest)) =
        some ⟨v, "accept", visitMethod base v.name⟩ := by
  have hname := isUnbroken_of_isIdentifier h.name
  -- the fields end at the first empty line because none of their lines is empty
  have hfields : ∀ line ∈ v.fields.map fieldLine, decide (line ≠ "") = true := by
    refine List.forall_mem_map.2 fun f _ => decide_eq_true ?_
    intro hempty
    have hline : (fieldLine f).toList = _ := toList_fieldLine
    rw [hempty] at hline
    cases hline
  simp only [nodeClass?, className?_classLine hname, List.takeWhile_append_of_pos hfields,
    List.dropWhile_append_of_pos hfields]
  simp [mapM_field?_fieldLine h.fields, methodName?_acceptLine, calledName?_callLine hbase hname]

theorem ne_mark_of_isInside (h : isInside line = true) : "@dataclass(frozen=True)" ≠ line := by
  rintro rfl
  revert h
  decide

/-- A line that starts a class is no mark of a class. -/
theorem ne_mark_of_className? {name : String} (h : className? line = some name) :
    "@dataclass(frozen=True)" ≠ line := by
  have hmark : className? "@dataclass(frozen=True)" = none := className?_eq_none (by decide)
  rintro rfl
  rw [hmark] at h
  cases h

/-- Only the classes of variants are marked. -/
theorem mark_not_mem (hbase : IsUnbroken base.toList) :
    "@dataclass(frozen=True)" ∉ preamble tokenModule ++ visitorClass base variants ++
      baseClass base := by
  have himport : "@dataclass(frozen=True)" ≠ importLine tokenModule := by
    intro h
    have hline : (importLine tokenModule).toList = _ := toList_importLine
    rw [← h] at hline
    cases hline
  have hpreamble : "@dataclass(frozen=True)" ∉ preamble tokenModule := by
    simp only [preamble, List.mem_append, List.mem_cons, not_or]
    exact ⟨by decide, himport, by decide⟩
  have hmethods : "@dataclass(frozen=True)" ∉ variants.flatMap (visitorMethod base) := by
    intro hmem
    obtain ⟨v, -, hline⟩ := List.mem_flatMap.1 hmem
    exact ne_mark_of_isInside (isInside_of_mem_visitorMethod _ hline) rfl
  have hvisitor := ne_mark_of_className? (className?_visitorLine hbase)
  have hclass := ne_mark_of_className? (className?_baseLine hbase)
  simp only [visitorClass, baseClass, List.mem_append, List.mem_cons, not_or]
  exact ⟨⟨hpreamble, ⟨by decide, hvisitor, List.not_mem_nil⟩, hmethods⟩, by decide, by decide,
    hclass, by decide, by decide, ne_mark_of_isInside isInside_acceptLine, by decide,
    List.not_mem_nil⟩

/-- **The classes of the variants** are read in order, and nothing else is. -/
theorem nodeClasses?_moduleLines (hbase : IsUnbroken base.toList)
    (h : ∀ v ∈ variants, v.IsAccepted) :
    nodeClasses? (moduleLines base variants tokenModule ++ [""]) =
      some (variants.map fun v => ⟨v, "accept", visitMethod base v.name⟩) := by
  rw [nodeClasses?, moduleLines, List.append_assoc, readBehind_append (mark_not_mem hbase)]
  refine readBehind_flatMap (fun v hv => ?_) (by decide)
  have hname := isUnbroken_of_isIdentifier (h v hv).name
  refine ⟨["", ""], classLine base v.name :: (v.fields.map fieldLine ++
    ["", acceptLine base, callLine base v.name]), rfl, by decide, ?_, fun rest => ?_⟩
  · -- a type may spell the mark, but its line is indented
    have hfields : "@dataclass(frozen=True)" ∉ v.fields.map fieldLine := by
      intro hmem
      obtain ⟨f, -, hline⟩ := List.mem_map.1 hmem
      exact ne_mark_of_isInside isInside_fieldLine hline.symm
    simp only [List.mem_cons, List.mem_append, not_or]
    exact ⟨ne_mark_of_className? (className?_classLine hname), hfields, by decide,
      ne_mark_of_isInside isInside_acceptLine, ne_mark_of_isInside isInside_callLine,
      List.not_mem_nil⟩
  · rw [List.cons_append, List.append_assoc]
    exact nodeClass?_classLine hbase (h v hv) rest

/-- The body of the visitor class are its methods, and the empty lines behind them. -/
theorem classBody_moduleLines (hbase : IsUnbroken base.toList) :
    classBody (visitorName base) (moduleLines base variants tokenModule ++ [""]) =
      variants.flatMap (visitorMethod base) ++ ["", ""] := by
  -- no class starts before the visitor class, and the line of the base class ends its body
  obtain ⟨rest, hlines⟩ : ∃ rest, moduleLines base variants tokenModule ++ [""] =
      (preamble tokenModule ++ [""]) ++ visitorLine base ::
        ((variants.flatMap (visitorMethod base) ++ ["", ""]) ++ baseLine base :: rest) := by
    refine ⟨["", "    @abstractmethod", acceptLine base, "        pass"] ++
      variants.flatMap (variantClass base) ++ [""], ?_⟩
    simp only [moduleLines, visitorClass, baseClass, List.append_assoc, List.cons_append,
      List.nil_append]
  have hbefore : ∀ line ∈ preamble tokenModule ++ [""],
      decide (className? line ≠ some (visitorName base)) = true := by
    refine List.forall_mem_append.2 ⟨fun line hline => ?_, List.forall_mem_singleton.2 ?_⟩
    · rw [className?_of_mem_preamble line hline]
      rfl
    · rw [className?_of_isInside rfl]
      rfl
  have hbody : ∀ line ∈ variants.flatMap (visitorMethod base) ++ ["", ""],
      isInside line = true := by
    refine List.forall_mem_append.2 ⟨List.forall_mem_flatMap.2 fun v _ =>
      isInside_of_mem_visitorMethod, by decide⟩
  have hstart : decide (className? (visitorLine base) ≠ some (visitorName base)) = false :=
    decide_eq_false (not_not_intro (className?_visitorLine hbase))
  have hend : isInside (baseLine base) = false := by
    rw [isInside, toList_baseLine]
    rfl
  rw [classBody, hlines, List.dropWhile_append_of_pos hbefore, List.dropWhile_cons, hstart,
    if_neg Bool.false_ne_true, List.tail_cons, List.takeWhile_append_of_pos hbody,
    List.takeWhile_cons, hend]
  exact List.append_nil _

/-- **The methods of the visitor** are read in the order of the variants. -/
theorem declaredMethods?_moduleLines (hbase : IsUnbroken base.toList)
    (h : ∀ v ∈ variants, v.IsAccepted) :
    declaredMethods? base (moduleLines base variants tokenModule ++ [""]) =
      some (variants.map fun v => ⟨visitMethod base v.name, v.name⟩) := by
  rw [declaredMethods?, classBody_moduleLines hbase]
  refine readBehind_flatMap (fun v hv => ?_) (by decide)
  have hname := isUnbroken_of_isIdentifier (h v hv).name
  refine ⟨[""], [declarationLine base v.name, "        pass"], rfl, by decide, ?_, fun rest =>
    declaredMethod?_declarationLine hbase hname _⟩
  -- mark and declaration have the same indent, and differ behind it
  have hdeclaration : "    @abstractmethod" ≠ declarationLine base v.name := by
    intro hmark
    have hline : (declarationLine base v.name).toList = _ := toList_declarationLine
    rw [← hmark] at hline
    cases hline
  simp only [List.mem_cons, not_or]
  exact ⟨hdeclaration, by decide, List.not_mem_nil⟩

end Blocks

/-! ## Reading what was generated -/

/-- **A module determines its grammar.**  For every grammar that is accepted there is a module, and
whatever counts as a break of lines, the classes that are read in it hold the variants of the
grammar, with their fields and types, in order.  The visitor declares one method for each variant,
in the same order, and the class of the variant calls that method. -/
theorem read_generate (breaks : LineBreaks) {base tokenModule : String} {grammar : List String}
    {variants : List Variant} (hbase : isIdentifier base.toList = true)
    (hmodule : breaks.IsWhole tokenModule.toList)
    (hgrammar : parseGrammar grammar = .ok variants) :
    ∃ text classes methods, generate base grammar tokenModule = .ok text ∧
      nodeClasses? (breaks.lines text) = some classes ∧
      classes.map (·.variant) = variants ∧
      declaredMethods? base (breaks.lines text) = some methods ∧
      methods.map (·.variant) = variants.map (·.name) ∧
      classes.map (·.called) = methods.map (·.name) := by
  obtain ⟨-, haccepted, -⟩ := parseGrammar_ok hgrammar
  have hunbroken := isUnbroken_of_isIdentifier hbase
  obtain ⟨text, htext, hlines⟩ := exists_lines_generate breaks hbase hmodule hgrammar
  refine ⟨text, variants.map fun v => ⟨v, "accept", visitMethod base v.name⟩,
    variants.map fun v => ⟨visitMethod base v.name, v.name⟩, htext, ?_, ?_, ?_, ?_, ?_⟩
  · rw [hlines]
    exact nodeClasses?_moduleLines hunbroken haccepted
  · rw [List.map_map]
    exact List.map_id variants
  · rw [hlines]
    exact declaredMethods?_moduleLines hunbroken haccepted
  · rw [List.map_map]
    rfl
  · rw [List.map_map, List.map_map]
    rfl

/-- Types may look like marks and like the start of a class. -/
theorem read_generate_marks :
    isIdentifier "Node".toList = true ∧ LineBreaks.allBlanks.IsWhole "lox tokens".toList ∧
    parseGrammar ["Leaf : class tail", "# two",
      "Pair : @dataclass(frozen=True): left, \"Leaf\" b"] =
      .ok [⟨"Leaf", [⟨"class", "tail"⟩]⟩,
        ⟨"Pair", [⟨"@dataclass(frozen=True):", "left"⟩, ⟨"\"Leaf\"", "b"⟩]⟩] ∧
    ∃ text classes methods,
      generate "Node" ["Leaf : class tail", "# two",
        "Pair : @dataclass(frozen=True): left, \"Leaf\" b"] "lox tokens" = .ok text ∧
      nodeClasses? (LineBreaks.allBlanks.lines text) = some classes ∧
      classes.map (·.variant) = [⟨"Leaf", [⟨"class", "tail"⟩]⟩,
        ⟨"Pair", [⟨"@dataclass(frozen=True):", "left"⟩, ⟨"\"Leaf\"", "b"⟩]⟩] ∧
      declaredMethods? "Node" (LineBreaks.allBlanks.lines text) = some methods ∧
      methods.map (·.variant) = ["Leaf", "Pair"] ∧
      classes.map (·.called) = methods.map (·.name) := by
  have hbase : isIdentifier "Node".toList = true := by decide
  have hmodule : LineBreaks.allBlanks.IsWhole "lox tokens".toList :=
    LineBreaks.allBlanks.isWhole_of_ascii (by decide)
  have hgrammar : parseGrammar ["Leaf : class tail", "# two",
      "Pair : @dataclass(frozen=True): left, \"Leaf\" b"] =
      .ok [⟨"Leaf", [⟨"class", "tail"⟩]⟩,
        ⟨"Pair", [⟨"@dataclass(frozen=True):", "left"⟩, ⟨"\"Leaf\"", "b"⟩]⟩] := by
    decide +kernel
  exact ⟨hbase, hmodule, hgrammar, read_generate LineBreaks.allBlanks hbase hmodule hgrammar⟩

end LoxSyntax.NodeModule
