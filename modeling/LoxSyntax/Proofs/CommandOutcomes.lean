/-
# The outcomes of the command line

A run of the command line writes the module file into the directory that is asked for, or it writes
nothing: it prints the help, it complains and ends with the status for a wrong usage, or it cannot
open the file because a directory has its name.  Arguments and layout decide which of the four it is,
and what is printed and written.  There is one exception.  The file is opened before its text is
encoded, so that a token module with a lone surrogate leaves it empty.
-/
import LoxSyntax.NodeModule.CommandLine
import LoxSyntax.Proofs.ArgumentReading
import LoxSyntax.Proofs.TextLines

namespace LoxSyntax.NodeModule

open Text.Point (char)
open Text (Raw Unencodable utf8)

/-! ## The path of the file -/

namespace Entry

variable {root : Entry} {way way' entries : List (FileName × Entry)} {before : List Raw}
  {directory file : Raw} {name : FileName}

/-- A path is walked in two parts. -/
theorem walk?_append (root : Entry) (way : List (FileName × Entry)) (before after : List Raw) :
    root.walk? way (before ++ after) =
      (root.walk? way before).bind fun way' => root.walk? way' after := by
  induction before generalizing way with
  | nil => rfl
  | cons part before ih =>
    rw [List.cons_append, walk?, walk?]
    split
    · rfl
    · split_ifs
      · exact ih way
      · exact ih way.tail
      · split
        · rfl
        · exact ih _

/-- An empty part at the end leads nowhere else. -/
theorem walk?_concat_empty (h : root.walk? way (before ++ [[]]) = some way') :
    root.walk? way before = some way' := by
  rw [walk?_append, Option.bind_eq_some_iff] at h
  obtain ⟨found, hbefore, hlast⟩ := h
  rw [hbefore]
  simp only [walk?] at hlast
  split at hlast
  · cases hlast
  · simpa using hlast

/-- The path of a file is that of its directory and its name, with one slash between them. -/
theorem exists_joinPath (hdirectory : directory ≠ []) (file : Raw) :
    ∃ front, joinPath directory file = front ++ char '/' :: file ∧
      (directory = front ∨ directory = front ++ [char '/']) := by
  unfold joinPath
  by_cases hslash : directory.getLast? = some (char '/')
  · obtain ⟨front, rfl⟩ := List.getLast?_eq_some_iff.1 hslash
    refine ⟨front, ?_, Or.inr rfl⟩
    rw [if_pos (Or.inr hslash), List.append_assoc, List.singleton_append]
  · refine ⟨directory, ?_, Or.inl rfl⟩
    rw [if_neg (not_or.2 ⟨hdirectory, hslash⟩)]

theorem parts_append_cons (front back : Raw) :
    parts (front ++ char '/' :: back) = parts front ++ parts back :=
  Text.pieces_append_cons (by decide) front back

/-- The parts of a path with a file behind it are its own, without an empty one at the end, and the
file. -/
theorem parts_joinPath (hdirectory : directory ≠ []) (hfile : char '/' ∉ file) :
    ∃ before, parts (joinPath directory file) = before ++ [file] ∧
      (parts directory = before ∨ parts directory = before ++ [[]]) := by
  obtain ⟨front, hpath, hfront⟩ := exists_joinPath hdirectory file
  have hparts : parts file = [file] := by
    refine Text.pieces_eq_singleton fun point hpoint => ?_
    rw [beq_eq_false_iff_ne]
    rintro rfl
    exact hfile hpoint
  refine ⟨parts front, ?_, ?_⟩
  · rw [hpath, parts_append_cons, hparts]
  · rcases hfront with rfl | rfl
    · exact Or.inl rfl
    · exact Or.inr (parts_append_cons front [])

/-- The way to the directory of a file is the way to the directory. -/
theorem exists_walk?_joinPath (hway : root.way? directory = some way) (hfile : char '/' ∉ file) :
    ∃ before, parts (joinPath directory file) = before ++ [file] ∧
      root.walk? [] before = some way := by
  unfold way? at hway
  split at hway
  · cases hway
  · rename_i hdirectory
    obtain ⟨before, hparts, hbefore | hbefore⟩ := parts_joinPath hdirectory hfile
    · exact ⟨before, hparts, hbefore ▸ hway⟩
    · exact ⟨before, hparts, walk?_concat_empty (hbefore ▸ hway)⟩

/-- **The file's path** leads through the directory to its name in it. -/
theorem namesTo?_joinPath (hway : root.way? directory = some way) (hfile : char '/' ∉ file)
    (hname : file.bytes? = some name) :
    root.namesTo? (joinPath directory file) = some (names way ++ [name]) := by
  obtain ⟨before, hparts, hwalk⟩ := exists_walk?_joinPath hway hfile
  rw [namesTo?, hparts, List.reverse_concat]
  simp only [List.reverse_reverse, hwalk, hname]
  rfl

/-- A path that leads to a directory has a way to its entries. -/
theorem isDirectory_layout_iff : root.layout.isDirectory directory = true ↔
    ∃ way entries, root.way? directory = some way ∧ root.reached way = .directory entries := by
  simp only [layout]
  cases hway : root.way? directory with
  | none => simp
  | some way =>
    rw [Option.map_some]
    cases hreached : root.reached way with
    | file => simp [hreached]
    | directory entries => simp [hreached]

/-- **The file cannot be opened** exactly if a directory has its name in the directory. -/
theorem isDirectory_joinPath_iff (hway : root.way? directory = some way)
    (hentries : root.reached way = .directory entries) (hfile : char '/' ∉ file)
    (hplain : file ≠ [] ∧ file ≠ .ofString "." ∧ file ≠ .ofString "..")
    (hname : file.bytes? = some name) :
    root.layout.isDirectory (joinPath directory file) = true ↔
      ∃ inner, entries.lookup name = some (.directory inner) := by
  obtain ⟨before, hparts, hwalk⟩ := exists_walk?_joinPath hway hfile
  have hne : joinPath directory file ≠ [] := by
    intro hempty
    rw [hempty] at hparts
    have hlast := congrArg List.getLast? hparts
    rw [List.getLast?_concat] at hlast
    exact hplain.1 (Option.some.inj hlast).symm
  have hstep : step? entries file = (entries.lookup name).map (name, ·) := by
    rw [step?, hname, Option.bind_some]
  -- the way to the file is one step longer than the way to its directory
  have hfound : root.way? (joinPath directory file) =
      (entries.lookup name).map fun entry => (name, entry) :: way := by
    rw [way?, if_neg hne, hparts, walk?_append, hwalk, Option.bind_some, walk?, hentries]
    simp only [hplain, or_self, if_false, hstep]
    cases entries.lookup name <;> rfl
  rw [isDirectory_layout_iff, hfound]
  cases entries.lookup name with
  | none => simp
  | some entry => simp [reached]

end Entry

/-! ## The text of the file -/

/-- Lines that are texts make a text. -/
theorem flatMap_ofString (lines : List String) :
    (lines.map Raw.ofString).flatMap (· ++ [char '\n']) =
      Raw.ofString (String.join (lines.map (· ++ "\n"))) := by
  induction lines with
  | nil => rfl
  | cons line lines ih =>
    rw [List.map_cons, List.flatMap_cons, ih, List.map_cons, String.join_cons,
      Raw.ofString_append, Raw.ofString_append]
    rfl

/-- With a text for the name of the token module a module is a text. -/
theorem rawModule_ofString (base : String) (variants : List Variant) (tokenModule : String) :
    rawModule base variants (.ofString tokenModule) =
      .ofString (moduleText base variants tokenModule) := by
  have himport : rawImportLine (.ofString tokenModule) = .ofString (importLine tokenModule) := by
    rw [rawImportLine, importLine, Raw.ofString_append, Raw.ofString_append]
  have hlines : rawLines base variants (.ofString tokenModule) =
      (moduleLines base variants tokenModule).map .ofString := by
    simp only [rawLines, moduleLines, preamble, himport, List.map_append, List.map_cons,
      List.append_assoc, List.cons_append]
  rw [rawModule, hlines, flatMap_ofString, moduleText]

/-- The text of a module before the name of the token module. -/
def moduleFront : String := String.join (openingLines.map (· ++ "\n")) ++ importFront

/-- The text of a module behind the name of the token module. -/
def moduleBack (base : String) (variants : List Variant) : String :=
  importBack ++ ("\n" ++ String.join ((definitionLines ++ visitorClass base variants ++
    baseClass base ++ variants.flatMap (variantClass base)).map (· ++ "\n")))

/-- **The name of the token module** stands between two texts. -/
theorem rawModule_eq (base : String) (variants : List Variant) (tokenModule : Raw) :
    rawModule base variants tokenModule =
      .ofString moduleFront ++ tokenModule ++ .ofString (moduleBack base variants) := by
  rw [rawModule, rawLines, List.flatMap_append, List.flatMap_cons, flatMap_ofString,
    flatMap_ofString, rawImportLine, moduleFront, moduleBack, Raw.ofString_append,
    Raw.ofString_append, Raw.ofString_append]
  simp only [List.append_assoc]
  rfl

/-! ## Outcomes -/

/-- The ways a run may end. -/
inductive RunEnd where
  | wrote
  | helped
  | refused
  | blocked
  deriving DecidableEq, Repr

/-- The end with a complaint: the usage and the error are printed and nothing is written. -/
def complaint (e : UsageError) : Ending where
  status := 64
  stdout := ""
  stderr := .ofString usage ++ (.ofString "generate_ast: error: " ++ e.message ++ [char '\n'])
  written? := none

/-- How a run ends with a given outcome.  What the arguments ask for decides it, and which of two
paths lead to a directory: the one that is given, and the one of the file in it. -/
inductive Ends (layout : Layout) (arguments : List Raw) : RunEnd → Outcome → Prop where
  /-- The module is written into the directory, which exists, and nothing else is. -/
  | wrote {directory : Raw} {tokenModule content : String}
      (hasks : Asks arguments (.ok (.generate directory (.ofString tokenModule))))
      (hdirectory : layout.isDirectory directory = true)
      (hfile : layout.isDirectory (joinPath directory (.ofString "expr.py")) = false)
      (hcontent : generate "Expr" exprGrammar tokenModule = .ok content) :
    Ends layout arguments .wrote (.ended
      { status := 0
        stdout := ""
        stderr := .ofString "INFO lox.tools.generate_ast: wrote " ++
          joinPath directory (.ofString "expr.py") ++ [char '\n']
        written? := some ⟨joinPath directory (.ofString "expr.py"), content⟩ })
  /-- The help is printed and nothing is written. -/
  | helped (hasks : Asks arguments (.ok .help)) :
    Ends layout arguments .helped (.ended
      { status := 0, stdout := helpText, stderr := [], written? := none })
  | misused {e : UsageError} (hasks : Asks arguments (.error e)) :
    Ends layout arguments .refused (.ended (complaint e))
  | notADirectory {directory tokenModule : Raw}
      (hasks : Asks arguments (.ok (.generate directory tokenModule)))
      (hdirectory : layout.isDirectory directory = false) :
    Ends layout arguments .refused (.ended (complaint (.notADirectory directory)))
  /-- The file cannot be opened, since a directory has its name. -/
  | blocked {directory tokenModule : Raw}
      (hasks : Asks arguments (.ok (.generate directory tokenModule)))
      (hdirectory : layout.isDirectory directory = true)
      (hfile : layout.isDirectory (joinPath directory (.ofString "expr.py")) = true) :
    Ends layout arguments .blocked (.blocked (joinPath directory (.ofString "expr.py")))

/-- The arguments ask for a module that is no text, in a file that can be opened. -/
def AsksForNoText (layout : Layout) (arguments : List Raw) : Prop :=
  ∃ directory tokenModule : Raw, Asks arguments (.ok (.generate directory tokenModule)) ∧
    layout.isDirectory directory = true ∧
    layout.isDirectory (joinPath directory (.ofString "expr.py")) = false ∧ ¬ tokenModule.IsText

/-- The file is opened, which empties it, and the first surrogates of the module are reported. -/
inductive Empties (layout : Layout) (arguments : List Raw) : Outcome → Prop where
  | intro {directory tokenModule : Raw} {variants : List Variant} {cause : Unencodable}
      (hasks : Asks arguments (.ok (.generate directory tokenModule)))
      (hdirectory : layout.isDirectory directory = true)
      (hfile : layout.isDirectory (joinPath directory (.ofString "expr.py")) = false)
      (hgrammar : parseGrammar exprGrammar = .ok variants)
      (hcause : cause.IsFirstIn (rawModule "Expr" variants tokenModule)) :
    Empties layout arguments (.emptied (joinPath directory (.ofString "expr.py")) cause)

variable {layout : Layout} {arguments : List Raw} {way : RunEnd} {outcome : Outcome}
  {directory tokenModule path : Raw}

theorem run_of_generate (h : Asks arguments (.ok (.generate directory tokenModule))) :
    run layout arguments = runGenerate layout directory tokenModule := by
  rw [run, readArguments_of_asks h]

theorem writeText_of_ok {text : Raw} {content : String} (h : text.encode = .ok content) :
    writeText path text = .ended (Written.mk path content).ending := by
  rw [writeText, h]

theorem writeText_of_error {text : Raw} {cause : Unencodable} (h : text.encode = .error cause) :
    writeText path text = .emptied path cause := by
  rw [writeText, h]

/-- The file is opened where it can be. -/
theorem run_of_opened (hasks : Asks arguments (.ok (.generate directory tokenModule)))
    (hdirectory : layout.isDirectory directory = true)
    (hfile : layout.isDirectory (joinPath directory (.ofString "expr.py")) = false) :
    run layout arguments = writeText (joinPath directory (.ofString "expr.py"))
      (rawModule "Expr" exprVariants tokenModule) := by
  have hname : moduleFile = "expr.py" := rfl
  rw [run_of_generate hasks]
  simp only [runGenerate, hdirectory, hname, hfile, Bool.not_true, Bool.false_eq_true, if_false]

/-- The module is always made: the grammar of the expression nodes is a correct one. -/
theorem generate_exprGrammar (tokenModule : String) :
    generate "Expr" exprGrammar tokenModule = .ok (moduleText "Expr" exprVariants tokenModule) := by
  rw [generate, parseGrammar_exprGrammar]
  rfl

/-- The complaint is the end that the error makes. -/
theorem ending_eq_complaint (e : UsageError) : e.ending = complaint e := by
  have husage : Raw.ofString s!"{usage}generate_ast: error: " =
      .ofString usage ++ .ofString "generate_ast: error: " := Raw.ofString_append _ _
  rw [UsageError.ending, complaint, husage, List.append_assoc, List.append_assoc,
    List.append_assoc]
  rfl

/-- **The outcome** is that of the run. -/
theorem run_of_ends (h : Ends layout arguments way outcome) : run layout arguments = outcome := by
  cases h with
  | @wrote directory tokenModule content hasks hdirectory hfile hcontent =>
    have hmodule : moduleText "Expr" exprVariants tokenModule = content :=
      Except.ok.inj ((generate_exprGrammar tokenModule).symm.trans hcontent)
    rw [run_of_opened hasks hdirectory hfile, rawModule_ofString, hmodule,
      writeText_of_ok (Raw.encode_ofString content)]
    rfl
  | helped hasks => rw [run, readArguments_of_asks hasks]
  | misused hasks =>
    rw [run, readArguments_of_asks hasks]
    exact congrArg Outcome.ended (ending_eq_complaint _)
  | @notADirectory directory tokenModule hasks hdirectory =>
    rw [run_of_generate hasks]
    simp only [runGenerate, hdirectory, Bool.not_false, if_true, ending_eq_complaint]
  | @blocked directory tokenModule hasks hdirectory hfile =>
    have hname : moduleFile = "expr.py" := rfl
    rw [run_of_generate hasks]
    simp only [runGenerate, hdirectory, hname, hfile, Bool.not_true, Bool.false_eq_true, if_false,
      if_true]

/-- The run that empties the file. -/
theorem run_of_empties (h : Empties layout arguments outcome) : run layout arguments = outcome := by
  cases h with
  | @intro directory tokenModule variants cause hasks hdirectory hfile hgrammar hcause =>
    have hvariants : exprVariants = variants :=
      Except.ok.inj (parseGrammar_exprGrammar.symm.trans hgrammar)
    rw [run_of_opened hasks hdirectory hfile, hvariants,
      writeText_of_error (Raw.encode_eq_error_iff.2 hcause)]

/-- The way a run ended can be told from its outcome, unless the file is empty. -/
def RunEnd.of? : Outcome → Option RunEnd
  | .ended ending =>
    if ending.status = 64 then some .refused
    else if ending.written?.isSome then some .wrote
    else some .helped
  | .blocked _ => some .blocked
  | .emptied _ _ => none

theorem Ends.of_outcome (h : Ends layout arguments way outcome) : RunEnd.of? outcome = some way := by
  cases h <;> rfl

theorem Empties.of_outcome (h : Empties layout arguments outcome) : RunEnd.of? outcome = none := by
  cases h
  rfl

/-- A run that empties the file ends in none of the ways. -/
theorem Empties.not_ends (h : Empties layout arguments outcome) (way : RunEnd) :
    ¬ Ends layout arguments way (run layout arguments) := by
  intro hends
  have hway := hends.of_outcome
  rw [run_of_empties h, h.of_outcome] at hway
  cases hway

/-- Every run has an end, unless it is asked for a module that is no text. -/
theorem exists_ends_or_asksForNoText (layout : Layout) (arguments : List Raw) :
    (∃ way outcome, Ends layout arguments way outcome) ∨ AsksForNoText layout arguments := by
  obtain ⟨result, hasks⟩ := exists_asks arguments
  match result, hasks with
  | .error e, hasks => exact Or.inl ⟨_, _, .misused hasks⟩
  | .ok .help, hasks => exact Or.inl ⟨_, _, .helped hasks⟩
  | .ok (.generate directory tokenModule), hasks =>
    cases hdirectory : layout.isDirectory directory with
    | false => exact Or.inl ⟨_, _, .notADirectory hasks hdirectory⟩
    | true =>
      cases hfile : layout.isDirectory (joinPath directory (.ofString "expr.py")) with
      | true => exact Or.inl ⟨_, _, .blocked hasks hdirectory hfile⟩
      | false =>
        -- the module is written now, and its token module is a text or not
        by_cases htext : tokenModule.IsText
        · obtain ⟨name, rfl⟩ := Raw.isText_iff.1 htext
          exact Or.inl ⟨_, _, .wrote hasks hdirectory hfile (generate_exprGrammar name)⟩
        · exact Or.inr ⟨directory, tokenModule, hasks, hdirectory, hfile, htext⟩

/-- A module that is no text cannot be encoded. -/
theorem AsksForNoText.exists_empties (h : AsksForNoText layout arguments) :
    ∃ outcome, Empties layout arguments outcome := by
  obtain ⟨directory, tokenModule, hasks, hdirectory, hfile, hmodule⟩ := h
  cases hencoded : (rawModule "Expr" exprVariants tokenModule).encode with
  | error cause =>
    exact ⟨_, .intro hasks hdirectory hfile parseGrammar_exprGrammar
      (Raw.encode_eq_error_iff.1 hencoded)⟩
  | ok content =>
    -- the name of the token module would be a part of a text
    have htext := Raw.isText_ofString content
    rw [← Raw.encode_eq_ok_iff.1 hencoded, rawModule_eq, Raw.isText_append,
      Raw.isText_append] at htext
    exact absurd htext.1.2 hmodule

theorem not_asksForNoText (htexts : ∀ text ∈ arguments, text.IsText) :
    ¬ AsksForNoText layout arguments := by
  rintro ⟨directory, tokenModule, hasks, -, -, hmodule⟩
  exact hmodule (hasks.isText htexts)

/-- **The run ends in one of the ways** exactly if it is not asked for a module that is no text. -/
theorem existsUnique_ends_iff : (∃! way, Ends layout arguments way (run layout arguments)) ↔
    ¬ AsksForNoText layout arguments := by
  constructor
  · rintro ⟨way, h, -⟩ hasks
    obtain ⟨outcome, hempties⟩ := hasks.exists_empties
    exact hempties.not_ends way h
  · intro hnot
    obtain ⟨way, outcome, h⟩ := (exists_ends_or_asksForNoText layout arguments).resolve_right hnot
    rw [run_of_ends h]
    exact ⟨way, h, fun way' h' => Option.some.inj (h'.of_outcome.symm.trans h.of_outcome)⟩

/-! ## The file -/

/-- The file that a run changed, if it did. -/
def Outcome.changed? : Outcome → Option Raw
  | ended ending => ending.written?.map Written.path
  | blocked _ => none
  | emptied path _ => some path

/-- A file lies in the directory that the arguments give, under the name of the module file. -/
def LiesInGiven (root : Entry) (arguments : List Raw) (path : Raw) : Prop :=
  ∃ directory tokenModule way entries,
    Asks arguments (.ok (.generate directory tokenModule)) ∧
      root.way? directory = some way ∧ root.reached way = .directory entries ∧
      root.namesTo? path = some (Entry.names way ++ [utf8 "expr.py"]) ∧
      ∀ inner, entries.lookup (utf8 "expr.py") ≠ some (.directory inner)

/-- The module file of a directory lies in it. -/
theorem liesInGiven_joinPath {root : Entry}
    (hasks : Asks arguments (.ok (.generate directory tokenModule)))
    (hdirectory : root.layout.isDirectory directory = true)
    (hfile : root.layout.isDirectory (joinPath directory (.ofString "expr.py")) = false) :
    LiesInGiven root arguments (joinPath directory (.ofString "expr.py")) := by
  obtain ⟨way, entries, hway, hentries⟩ := Entry.isDirectory_layout_iff.1 hdirectory
  have hslash : char '/' ∉ Raw.ofString "expr.py" := by decide
  have hname := Raw.bytes?_ofString "expr.py"
  refine ⟨directory, tokenModule, way, entries, hasks, hway, hentries,
    Entry.namesTo?_joinPath hway hslash hname, fun inner hinner => ?_⟩
  have htaken :=
    (Entry.isDirectory_joinPath_iff hway hentries hslash (by decide) hname).2 ⟨inner, hinner⟩
  rw [hfile] at htaken
  cases htaken

/-- The file that a run wrote is the module file of the given directory. -/
theorem Ends.liesInGiven {root : Entry} (h : Ends root.layout arguments way outcome)
    (hchanged : outcome.changed? = some path) : LiesInGiven root arguments path := by
  cases h with
  | wrote hasks hdirectory hfile _ =>
    cases hchanged
    exact liesInGiven_joinPath hasks hdirectory hfile
  | helped _ => cases hchanged
  | misused _ => cases hchanged
  | notADirectory _ _ => cases hchanged
  | blocked _ _ _ => cases hchanged

/-- So is the file that a run emptied. -/
theorem Empties.liesInGiven {root : Entry} (h : Empties root.layout arguments outcome)
    (hchanged : outcome.changed? = some path) : LiesInGiven root arguments path := by
  cases h with
  | intro hasks hdirectory hfile _ _ =>
    cases hchanged
    exact liesInGiven_joinPath hasks hdirectory hfile

/-- **All or nothing.**  A run ends in exactly one of four ways, with the one outcome that this way
has, if it is not asked for a module that is no text: the module is written into the directory that is
given and nothing else is, or nothing is written at all.  Arguments that are texts never ask for
anything else.  A module that is no text leaves an empty file.  In a tree of directories the file that
is written or emptied lies in the given directory, where no directory has its name. -/
theorem run_writes_all_or_nothing_iff (layout : Layout) (arguments : List Raw) :
    ((∃! way, Ends layout arguments way (run layout arguments)) ↔
      ¬ AsksForNoText layout arguments) ∧
    (∀ way outcome, Ends layout arguments way outcome → outcome = run layout arguments) ∧
    ((∀ text ∈ arguments, text.IsText) → ¬ AsksForNoText layout arguments) ∧
    (AsksForNoText layout arguments → Empties layout arguments (run layout arguments)) ∧
    ∀ (root : Entry) (path : Raw), layout = root.layout →
      (run layout arguments).changed? = some path → LiesInGiven root arguments path := by
  have hempties (h : AsksForNoText layout arguments) :
      Empties layout arguments (run layout arguments) := by
    obtain ⟨outcome, h⟩ := h.exists_empties
    rw [run_of_empties h]
    exact h
  refine ⟨existsUnique_ends_iff, fun way outcome h => (run_of_ends h).symm, not_asksForNoText,
    hempties, ?_⟩
  rintro root path rfl hchanged
  rcases exists_ends_or_asksForNoText root.layout arguments with ⟨way, outcome, h⟩ | h
  · rw [run_of_ends h] at hchanged
    exact h.liesInGiven hchanged
  · exact (hempties h).liesInGiven hchanged

/-- The last value of an option counts, wherever the directory stands. -/
theorem run_writes_all_or_nothing_last_value :
    let root : Entry := .directory [(utf8 "out", .directory [])]
    let arguments := ["--tok=a", "out", "--token-module", "b"].map Raw.ofString
    (∃! way, Ends root.layout arguments way (run root.layout arguments)) ∧
      LiesInGiven root arguments (.ofString "out/expr.py") := by
  intro root arguments
  have hread : readArguments arguments = .ok (.generate (.ofString "out") (.ofString "b")) := by rfl
  have hdirectory : root.layout.isDirectory (.ofString "out") = true := by decide +kernel
  have hfile : root.layout.isDirectory (.ofString "out/expr.py") = false := by decide +kernel
  have hends : Ends root.layout arguments .wrote _ :=
    .wrote (readArguments_eq_iff.1 hread) hdirectory hfile (generate_exprGrammar "b")
  obtain ⟨hiff, -, htexts, -, hlies⟩ := run_writes_all_or_nothing_iff root.layout arguments
  refine ⟨hiff.2 (htexts (List.forall_mem_map.2 fun _ _ => Raw.isText_ofString _)),
    hlies root _ rfl ?_⟩
  rw [run_of_ends hends]
  rfl

/-- A byte that is no text, as the name of the token module, leaves an empty file behind, and that is
none of the ways to end. -/
theorem run_empties_file :
    let root : Entry := .directory [(utf8 "out", .directory [])]
    let arguments : List Raw := [.ofString "out", .ofString "--token-module", [.lone 0x4FF]]
    run root.layout arguments = .emptied (.ofString "out/expr.py") ⟨182, 0x4FF, []⟩ ∧
      ∀ way, ¬ Ends root.layout arguments way (run root.layout arguments) := by
  intro root arguments
  have hread : readArguments arguments = .ok (.generate (.ofString "out") [.lone 0x4FF]) := by rfl
  have hdirectory : root.layout.isDirectory (.ofString "out") = true := by decide +kernel
  have hfile : root.layout.isDirectory (.ofString "out/expr.py") = false := by decide +kernel
  have hcause : (⟨182, 0x4FF, []⟩ : Unencodable).IsFirstIn
      (rawModule "Expr" exprVariants [.lone 0x4FF]) := by
    have hplace : 182 = moduleFront.length := by
      simp only [moduleFront, openingLines, importFront, List.map_cons, List.map_nil,
        String.length_append, String.length_join, List.sum_cons, List.sum_nil]
      decide
    refine ⟨moduleFront, .ofString (moduleBack "Expr" exprVariants), rawModule_eq _ _ _, hplace,
      fun surrogate hhead => ?_⟩
    exact Raw.isText_ofString _ surrogate (List.mem_of_mem_head? hhead)
  have hempties : Empties root.layout arguments (.emptied (.ofString "out/expr.py") _) :=
    .intro (readArguments_eq_iff.1 hread) hdirectory hfile parseGrammar_exprGrammar hcause
  exact ⟨run_of_empties hempties, hempties.not_ends⟩

end LoxSyntax.NodeModule
