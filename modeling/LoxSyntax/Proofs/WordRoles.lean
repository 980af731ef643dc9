/-
# The roles of words

What a word of the command line is can be read off its letters: a call for help or the option for
the token module, written out or cut short and perhaps with a value behind the first equals sign, a
short call for help, a negative number or another word that is no option, or something that only
looks like an option.  The roles are told here by the shape of the word.  Every word has exactly one
of them, or starts with a bare `--=` that could mean either option, and the program finds just that.
-/
import LoxSyntax.NodeModule.Arguments
import LoxSyntax.Proofs.WordsOfText

namespace LoxSyntax.NodeModule

open Text.Point (char isDecimalDigit)
open Text (Raw Point splitFirst?_eq_none_iff splitFirst?_eq_some_iff)

variable {text letters name number : Raw} {value? : Option Raw}
  {word : Word} {words : List Word} {arguments before : List Raw}

/-! ## Negative numbers -/

/-- Decimal digits, perhaps none. -/
def AreDigits (letters : Raw) : Prop := ∀ c ∈ letters, isDecimalDigit c = true

/-- Digits, or digits around a point with at least one behind it. -/
inductive IsNumber : Raw → Prop where
  | whole {digits : Raw} (hne : digits ≠ []) (hd : AreDigits digits) : IsNumber digits
  | point {digits fraction : Raw} (hd : AreDigits digits) (hne : fraction ≠ [])
      (hf : AreDigits fraction) : IsNumber (digits ++ char '.' :: fraction)

/-- A number behind a dash, and perhaps a line feed behind it. -/
inductive IsNegative : Raw → Prop where
  | plain {number : Raw} (h : IsNumber number) : IsNegative (char '-' :: number)
  | lineFeed {number : Raw} (h : IsNumber number) : IsNegative (char '-' :: (number ++ [char '\n']))

theorem AreDigits.lineFeed_not_mem (h : AreDigits letters) : char '\n' ∉ letters := by
  intro hmem
  have hfeed : isDecimalDigit (char '\n') = false := by decide
  rw [h _ hmem] at hfeed
  cases hfeed

/-- There is no line feed in a number. -/
theorem IsNumber.lineFeed_not_mem (h : IsNumber number) : char '\n' ∉ number := by
  cases h with
  | whole _ hd => exact hd.lineFeed_not_mem
  | point hd _ hf =>
    simp only [List.mem_append, List.mem_cons, not_or]
    exact ⟨hd.lineFeed_not_mem, by decide, hf.lineFeed_not_mem⟩

/-- The test for a number without its sign. -/
def isUnsigned (number : Raw) : Bool :=
  match number.dropWhile isDecimalDigit with
  | [] => ! (number.takeWhile isDecimalDigit).isEmpty
  | char '.' :: fraction => ! fraction.isEmpty && fraction.all isDecimalDigit
  | _ => false

/-- What passes the test is a number. -/
theorem isNumber_of_isUnsigned (h : isUnsigned number = true) : IsNumber number := by
  have hparts := List.takeWhile_append_dropWhile (p := isDecimalDigit) (l := number)
  have hdigits : AreDigits (number.takeWhile isDecimalDigit) := fun c hc =>
    List.all_eq_true.1 List.all_takeWhile c hc
  -- behind the first digits there is nothing, or a point with the fraction
  unfold isUnsigned at h
  split at h
  · rename_i hrest
    rw [hrest, List.append_nil] at hparts
    rw [← hparts]
    exact .whole (by simpa using h) hdigits
  · rename_i fraction hrest
    rw [hrest] at hparts
    simp only [Bool.and_eq_true, Bool.not_eq_true', List.isEmpty_eq_false_iff,
      List.all_eq_true] at h
    rw [← hparts]
    exact .point hdigits h.1 h.2
  · cases h

/-- A number passes the test. -/
theorem IsNumber.isUnsigned (h : IsNumber number) : isUnsigned number = true := by
  cases h with
  | whole hne hd =>
    have hall : number.dropWhile isDecimalDigit = [] := List.dropWhile_eq_nil_iff.2 hd
    have htake : number.takeWhile isDecimalDigit = number := List.takeWhile_eq_self_iff.2 hd
    simp [NodeModule.isUnsigned, hall, htake, hne]
  | @point digits fraction hd hne hf =>
    have hrest : (digits ++ char '.' :: fraction).dropWhile isDecimalDigit =
        char '.' :: fraction := by
      refine Segment.dropWhile_run hd ?_
      rintro c ⟨⟩
      decide
    simp only [NodeModule.isUnsigned, hrest, Bool.and_eq_true, Bool.not_eq_true',
      List.isEmpty_eq_false_iff, List.all_eq_true]
    exact ⟨hne, hf⟩

/-- Behind the dash the test leaves out a line feed at the end. -/
theorem isNegativeNumber_cons (number : Raw) : isNegativeNumber (char '-' :: number) =
    isUnsigned (if number.getLast? == some (char '\n') then number.dropLast else number) := rfl

/-- What passes the test starts with a dash. -/
theorem exists_of_isNegativeNumber (h : isNegativeNumber letters = true) :
    ∃ number, letters = char '-' :: number := by
  unfold isNegativeNumber at h
  split at h
  · exact ⟨_, rfl⟩
  · cases h

/-- **Negative numbers** are told by their shape. -/
theorem isNegativeNumber_iff : isNegativeNumber letters = true ↔ IsNegative letters := by
  constructor
  · intro h
    obtain ⟨number, rfl⟩ := exists_of_isNegativeNumber h
    rw [isNegativeNumber_cons] at h
    by_cases hfeed : number.getLast? = some (char '\n')
    · rw [if_pos (by simpa using hfeed)] at h
      have hnumber : number.dropLast ++ [char '\n'] = number :=
        List.dropLast_append_getLast? (char '\n') hfeed
      rw [← hnumber]
      exact .lineFeed (isNumber_of_isUnsigned h)
    · rw [if_neg (by simpa using hfeed)] at h
      exact .plain (isNumber_of_isUnsigned h)
  · intro h
    cases h with
    | @plain number h =>
      -- the last letter is a digit, so that nothing is left out
      have hlast : number.getLast? ≠ some (char '\n') := fun hlast =>
        h.lineFeed_not_mem (List.mem_of_getLast? hlast)
      rw [isNegativeNumber_cons, if_neg (by simpa using hlast)]
      exact h.isUnsigned
    | lineFeed h =>
      rw [isNegativeNumber_cons, List.getLast?_concat, if_pos (by simp), List.dropLast_concat]
      exact h.isUnsigned

/-! ## Names and values -/

/-- A text that is a name, with a value behind an equals sign if there is one. -/
def Spells (letters name : Raw) : Option Raw → Prop
  | none => letters = name ∧ char '=' ∉ name
  | some value => letters = name ++ char '=' :: value ∧ char '=' ∉ name

/-- A word is taken apart at its first equals sign. -/
theorem splitValue_of_spells (h : Spells letters name value?) :
    splitValue letters = (name, value?) := by
  unfold splitValue
  cases value? with
  | none =>
    obtain ⟨rfl, hname⟩ := h
    rw [splitFirst?_eq_none_iff.2 hname]
  | some value => rw [splitFirst?_eq_some_iff.2 h]

/-- Every text is a name, with or without a value. -/
theorem exists_spells (letters : Raw) : ∃ name value?, Spells letters name value? := by
  cases hsplit : Text.splitFirst? (char '=') letters with
  | none => exact ⟨letters, none, rfl, splitFirst?_eq_none_iff.1 hsplit⟩
  | some parts => exact ⟨parts.1, some parts.2, splitFirst?_eq_some_iff.1 hsplit⟩

/-- Two dashes in front stand in the name. -/
theorem Spells.exists_name (h : Spells (char '-' :: char '-' :: letters) name value?) :
    ∃ tail, name = char '-' :: char '-' :: tail := by
  match value?, name, h with
  | none, _, ⟨rfl, _⟩ => exact ⟨_, rfl⟩
  | some _, [], ⟨h, _⟩ => simp at h
  | some _, [_], ⟨h, _⟩ => simp at h
  | some _, first :: second :: tail, ⟨h, _⟩ =>
    simp only [List.cons_append, List.cons.injEq] at h
    exact ⟨tail, by rw [← h.1, ← h.2.1]⟩

/-- Two dashes in front of the name stand in front of all. -/
theorem Spells.exists_letters (h : Spells letters (char '-' :: char '-' :: name) value?) :
    ∃ rest, letters = char '-' :: char '-' :: rest := by
  cases value? with
  | none => exact ⟨name, h.1⟩
  | some value => exact ⟨_, h.1⟩

/-- The name of the call for help, behind its dashes. -/
def helpName : Raw := Raw.ofString "help"

/-- The name of the option for the token module, behind its dashes. -/
def tokenModuleName : Raw := Raw.ofString "token-module"

/-- A name cut short, but not down to nothing. -/
def Shortens (name option : Raw) : Prop := name <+: option ∧ name ≠ []

/-- No name is short for both options. -/
theorem not_shortens_both (hhelp : Shortens name helpName)
    (hmodule : name <+: tokenModuleName) : False := by
  obtain ⟨c, tail, rfl⟩ := List.exists_cons_of_ne_nil hhelp.2
  have hhelp' : c :: tail <+: char 'h' :: [char 'e', char 'l', char 'p'] := hhelp.1
  have hmodule' : c :: tail <+: char 't' :: Raw.ofString "oken-module" := hmodule
  have letters : char 'h' = char 't' :=
    (List.cons_prefix_cons.1 hhelp').1.symm.trans (List.cons_prefix_cons.1 hmodule').1
  cases letters

/-! ## Short calls for help -/

/-- The call for help, repeated any number of times, and a value behind it if something else is
there. -/
inductive Repeats : Raw → Option Raw → Prop where
  | calls (n : Nat) : Repeats (List.replicate n (char 'h')) none
  | value (n : Nat) {c : Point} {rest : Raw} (hc : c ≠ char 'h') :
    Repeats (List.replicate n (char 'h') ++ c :: rest) (some (c :: rest))

/-- What stands behind a short call for help: an equals sign at most, more calls, and a value. -/
inductive CallsHelp : Raw → Option Raw → Prop where
  | bare {letters : Raw} {value? : Option Raw} (h : Repeats letters value?)
      (hsign : letters.head? ≠ some (char '=')) : CallsHelp letters value?
  /-- An equals sign alone gives an empty value. -/
  | sign : CallsHelp [char '='] (some [])
  | signed {letters : Raw} {value? : Option Raw} (h : Repeats letters value?)
      (hne : letters ≠ []) : CallsHelp (char '=' :: letters) value?

/-- The calls are counted up to the first other letter. -/
theorem repeatedHelp_of_repeats (h : Repeats letters value?) :
    repeatedHelp letters = .help value? := by
  have hcalls : ∀ n, ∀ c ∈ List.replicate n (char 'h'), (c == char 'h') = true := by
    intro n c hc
    rw [beq_iff_eq]
    exact List.eq_of_mem_replicate hc
  unfold repeatedHelp
  cases h with
  | calls n => rw [List.dropWhile_eq_nil_iff.2 (hcalls n)]
  | @value n c rest hc =>
    have hrest : (List.replicate n (char 'h') ++ c :: rest).dropWhile (· == char 'h') =
        c :: rest := by
      refine Segment.dropWhile_run (hcalls n) ?_
      rintro d ⟨⟩
      exact beq_false_of_ne hc
    rw [hrest]

/-- Any letters repeat the call, with or without a value. -/
theorem exists_repeats (letters : Raw) : ∃ value?, Repeats letters value? := by
  induction letters with
  | nil => exact ⟨none, .calls 0⟩
  | cons c rest ih =>
    by_cases hc : c = char 'h'
    · subst hc
      obtain ⟨value?, h⟩ := ih
      cases h with
      | calls n => exact ⟨none, .calls (n + 1)⟩
      | value n hd => exact ⟨_, .value (n + 1) hd⟩
    · exact ⟨some (c :: rest), .value 0 hc⟩

/-- What stands behind a short call for help is read as it is told. -/
theorem shortHelp_of_callsHelp (h : CallsHelp letters value?) :
    shortHelp letters = .help value? := by
  cases h with
  | bare h hsign =>
    rw [← repeatedHelp_of_repeats h]
    unfold shortHelp
    split
    · exact absurd rfl hsign
    · exact absurd rfl hsign
    · rfl
  | sign => rfl
  | @signed letters _ h hne =>
    rw [← repeatedHelp_of_repeats h]
    obtain ⟨c, rest, rfl⟩ := List.exists_cons_of_ne_nil hne
    rfl

/-- Whatever stands behind a short call for help is one of these. -/
theorem exists_callsHelp (letters : Raw) : ∃ value?, CallsHelp letters value? := by
  by_cases hsign : letters.head? = some (char '=')
  · obtain ⟨rest, rfl⟩ := List.head?_eq_some_iff.1 hsign
    by_cases hrest : rest = []
    · subst hrest
      exact ⟨_, .sign⟩
    · obtain ⟨value?, h⟩ := exists_repeats rest
      exact ⟨value?, .signed h hrest⟩
  · obtain ⟨value?, h⟩ := exists_repeats letters
    exact ⟨value?, .bare h hsign⟩

/-! ## Roles -/

/-- A word behind a dash that names no option. -/
inductive NamesNone : Raw → Prop where
  | short {c : Point} {rest : Raw} (hdash : c ≠ char '-') (hcall : c ≠ char 'h') :
    NamesNone (char '-' :: c :: rest)
  | long {letters name : Raw} {value? : Option Raw}
      (h : Spells letters (char '-' :: char '-' :: name) value?) (hhelp : ¬ name <+: helpName)
      (hmodule : ¬ name <+: tokenModuleName) : NamesNone letters

/-- A word behind a dash that is no option may be taken for a plain one. -/
def LooksPlain (letters : Raw) : Prop := IsNegative letters ∨ char ' ' ∈ letters

instance (letters : Raw) : Decidable (LooksPlain letters) :=
  decidable_of_iff (isNegativeNumber letters = true ∨ char ' ' ∈ letters)
    (or_congr_left isNegativeNumber_iff)

/-- The role that a word has before the end of the options. -/
inductive HasRole (text : Raw) : Word → Prop where
  | help {name : Raw} {value? : Option Raw}
      (h : Spells text (char '-' :: char '-' :: name) value?) (hname : Shortens name helpName) :
    HasRole text (.help value?)
  | shortHelp {letters : Raw} {value? : Option Raw}
      (h : text = char '-' :: char 'h' :: letters) (hcall : CallsHelp letters value?) :
    HasRole text (.help value?)
  | tokenModule {name : Raw} {value? : Option Raw}
      (h : Spells text (char '-' :: char '-' :: name) value?)
      (hname : Shortens name tokenModuleName) :
    HasRole text (.tokenModule (value?.map moduleOfValue))
  /-- A word without a dash in front. -/
  | plain (h : text.head? ≠ some (char '-')) : HasRole text (.plain text)
  | dash (h : text = [char '-']) : HasRole text (.plain text)
  | looksPlain (h : NamesNone text) (hplain : LooksPlain text) :
    HasRole text (.plain text)
  | unknown (h : NamesNone text) (hplain : ¬ LooksPlain text) :
    HasRole text (.unknown text)

/-- The dashes of a long option with a value, but without a name. -/
def IsAmbiguous (text : Raw) : Prop := ∃ value, Spells text [char '-', char '-'] (some value)

/-- A word that is no option is plain, or looks like an option. -/
theorem otherWord_eq (text : Raw) :
    otherWord text = if LooksPlain text then .plain text else .unknown text := by
  have htest : (isNegativeNumber text || text.contains (char ' ')) = true ↔
      LooksPlain text := by
    rw [Bool.or_eq_true, isNegativeNumber_iff, List.contains_iff_mem, LooksPlain]
  unfold otherWord
  by_cases h : LooksPlain text
  · rw [if_pos h, if_pos (htest.2 h)]
  · rw [if_neg h, if_neg (mt htest.1 h)]

/-- The dashes in front do not matter to what a name is short for. -/
theorem isPrefixOf_dashes (name option : Raw) :
    (char '-' :: char '-' :: name).isPrefixOf (char '-' :: char '-' :: option) =
      decide (name <+: option) := by
  rw [Bool.eq_iff_iff, List.isPrefixOf_iff_prefix, decide_eq_true_iff, List.prefix_cons_inj,
    List.prefix_cons_inj]

/-- A word behind two dashes is told by its name. -/
theorem classify_of_spells (h : Spells text (char '-' :: char '-' :: name) value?) :
    classify text =
      if name <+: helpName then
        if name <+: tokenModuleName then .error (.ambiguous text) else .ok (.help value?)
      else if name <+: tokenModuleName then .ok (.tokenModule (value?.map moduleOfValue))
      else .ok (otherWord text) := by
  obtain ⟨rest, hrest⟩ := h.exists_letters
  have hlong : classify text = longOption text := by simp only [classify, hrest]
  have hhelp : (char '-' :: char '-' :: name).isPrefixOf (Raw.ofString "--help") =
      decide (name <+: helpName) := isPrefixOf_dashes name helpName
  have hmodule : (char '-' :: char '-' :: name).isPrefixOf (Raw.ofString "--token-module") =
      decide (name <+: tokenModuleName) := isPrefixOf_dashes name tokenModuleName
  rw [hlong]
  simp only [longOption, splitValue_of_spells h, hhelp, hmodule]
  by_cases h₁ : name <+: helpName <;> by_cases h₂ : name <+: tokenModuleName <;>
    simp only [h₁, h₂, decide_true, decide_false, if_true, if_false]

/-- A word that names no option is read as such. -/
theorem classify_of_namesNone (h : NamesNone text) :
    classify text = .ok (otherWord text) := by
  cases h with
  | short hdash hcall =>
    -- of the four kinds of words only the one with some other letter behind the dash is left
    unfold classify
    split
    · rename_i heq
      cases heq
      exact absurd rfl hdash
    · rename_i heq
      cases heq
      exact absurd rfl hcall
    · rfl
    · rename_i hnot
      exact absurd rfl (hnot _ _)
  | long h hhelp hmodule =>
    rw [classify_of_spells h, if_neg hhelp, if_neg hmodule]

/-- **The role of a word** is the one that it is given. -/
theorem classify_of_hasRole (h : HasRole text word) : classify text = .ok word := by
  cases h with
  | help h hname =>
    rw [classify_of_spells h, if_pos hname.1, if_neg (not_shortens_both hname)]
  | shortHelp h hcall => simp only [classify, h, shortHelp_of_callsHelp hcall]
  | @tokenModule name _ h hname =>
    have hother : ¬ name <+: helpName := fun hhelp => not_shortens_both ⟨hhelp, hname.2⟩ hname.1
    rw [classify_of_spells h, if_neg hother, if_pos hname.1]
  | plain h =>
    unfold classify
    split <;> simp_all
  | dash h => simp only [classify, h]
  | looksPlain h hplain => rw [classify_of_namesNone h, otherWord_eq, if_pos hplain]
  | unknown h hplain => rw [classify_of_namesNone h, otherWord_eq, if_neg hplain]

/-- A bare value is no option. -/
theorem classify_of_isAmbiguous (h : IsAmbiguous text) :
    classify text = .error (.ambiguous text) := by
  obtain ⟨value, h⟩ := h
  rw [classify_of_spells h, if_pos List.nil_prefix, if_pos List.nil_prefix]

theorem NamesNone.exists_role (h : NamesNone text) : ∃ word, HasRole text word := by
  by_cases hplain : LooksPlain text
  · exact ⟨_, .looksPlain h hplain⟩
  · exact ⟨_, .unknown h hplain⟩

/-- A long option other than the bare dashes has a role, or no name. -/
theorem exists_role_of_dashes (h : text = char '-' :: char '-' :: letters) (hne : letters ≠ []) :
    (∃ word, HasRole text word) ∨ IsAmbiguous text := by
  obtain ⟨_, value?, hspells⟩ := exists_spells text
  obtain ⟨name, rfl⟩ := (h ▸ hspells).exists_name
  by_cases hname : name = []
  · -- only the equals sign can follow
    subst hname
    cases value? with
    | none =>
      have hbare : letters = [] := by simpa [h] using hspells.1
      exact absurd hbare hne
    | some value => exact Or.inr ⟨value, hspells⟩
  · left
    by_cases hhelp : name <+: helpName
    · exact ⟨_, .help hspells ⟨hhelp, hname⟩⟩
    by_cases hmodule : name <+: tokenModuleName
    · exact ⟨_, .tokenModule hspells ⟨hmodule, hname⟩⟩
    exact NamesNone.exists_role (.long hspells hhelp hmodule)

/-- **Every word** but the end of the options has a role, or is ambiguous. -/
theorem exists_role (hne : text ≠ endOfOptions) :
    (∃ word, HasRole text word) ∨ IsAmbiguous text := by
  by_cases hhead : text.head? = some (char '-')
  · obtain ⟨rest, h⟩ := List.head?_eq_some_iff.1 hhead
    cases rest with
    | nil => exact Or.inl ⟨_, .dash h⟩
    | cons c letters =>
      by_cases hdash : c = char '-'
      · subst hdash
        refine exists_role_of_dashes h ?_
        rintro rfl
        exact hne h
      by_cases hcall : c = char 'h'
      · subst hcall
        obtain ⟨value?, hcall⟩ := exists_callsHelp letters
        exact Or.inl ⟨_, .shortHelp h hcall⟩
      · left
        refine NamesNone.exists_role ?_
        rw [h]
        exact .short hdash hcall
  · exact Or.inl ⟨_, .plain hhead⟩

/-- **A word has a role** exactly if it is given that role. -/
theorem classify_eq_ok_iff (hne : text ≠ endOfOptions) :
    classify text = .ok word ↔ HasRole text word := by
  refine ⟨fun h => ?_, classify_of_hasRole⟩
  rcases exists_role hne with ⟨other, hother⟩ | hambiguous
  · rw [classify_of_hasRole hother] at h
    cases h
    exact hother
  · rw [classify_of_isAmbiguous hambiguous] at h
    cases h

/-- A word fails to be read exactly if it is ambiguous. -/
theorem classify_eq_error_iff (hne : text ≠ endOfOptions) {e : UsageError} :
    classify text = .error e ↔ IsAmbiguous text ∧ e = .ambiguous text := by
  constructor
  · intro h
    rcases exists_role hne with ⟨word, hword⟩ | hambiguous
    · rw [classify_of_hasRole hword] at h
      cases h
    · rw [classify_of_isAmbiguous hambiguous] at h
      cases h
      exact ⟨hambiguous, rfl⟩
  · rintro ⟨hambiguous, rfl⟩
    exact classify_of_isAmbiguous hambiguous

/-! ## All words -/

/-- The roles of all arguments.  The first two dashes that stand alone end the options, and every
word behind them is plain. -/
inductive Roles : List Raw → List Word → Prop where
  | nil : Roles [] []
  | dashes (operands : List Raw) :
    Roles (endOfOptions :: operands) (.terminator :: operands.map .plain)
  | cons {text : Raw} {word : Word} {arguments : List Raw} {words : List Word}
      (hne : text ≠ endOfOptions) (h : HasRole text word) (hrest : Roles arguments words) :
    Roles (text :: arguments) (word :: words)

/-- The first ambiguous word before the end of the options. -/
structure FirstAmbiguous (before : List Raw) (text : Raw) : Prop where
  ends : endOfOptions ∉ before
  clear : ∀ other ∈ before, ¬ IsAmbiguous other
  ambiguous : IsAmbiguous text

theorem IsAmbiguous.ne_dashes (h : IsAmbiguous text) : text ≠ endOfOptions := by
  rintro rfl
  obtain ⟨value, h, -⟩ := h
  cases h

/-- Arguments with roles are given them. -/
theorem classifyAll_of_roles (h : Roles arguments words) : classifyAll arguments = .ok words := by
  induction h with
  | nil => rfl
  | dashes operands => rw [classifyAll, if_pos rfl]
  | cons hne h hrest ih =>
    rw [classifyAll, if_neg hne, classify_of_hasRole h, ih]
    rfl

/-- The first ambiguous word is reported. -/
theorem classifyAll_of_firstAmbiguous (h : FirstAmbiguous before text) (after : List Raw) :
    classifyAll (before ++ text :: after) = .error (.ambiguous text) := by
  induction before with
  | nil =>
    rw [List.nil_append, classifyAll, if_neg h.ambiguous.ne_dashes,
      classify_of_isAmbiguous h.ambiguous]
    rfl
  | cons other before ih =>
    have hne : other ≠ endOfOptions := fun heq => h.ends (heq ▸ List.mem_cons_self)
    obtain ⟨word, hword⟩ := (exists_role hne).resolve_right (h.clear _ List.mem_cons_self)
    have hbefore : FirstAmbiguous before text :=
      ⟨fun hmem => h.ends (List.mem_cons_of_mem _ hmem),
        fun t ht => h.clear t (List.mem_cons_of_mem _ ht), h.ambiguous⟩
    rw [List.cons_append, classifyAll, if_neg hne, classify_of_hasRole hword, ih hbefore]
    rfl

/-- **All arguments** have roles, or one of them is the first ambiguous one. -/
theorem exists_roles (arguments : List Raw) : (∃ words, Roles arguments words) ∨
    ∃ before text after, arguments = before ++ text :: after ∧ FirstAmbiguous before text := by
  induction arguments with
  | nil => exact Or.inl ⟨[], .nil⟩
  | cons text arguments ih =>
    by_cases hdashes : text = endOfOptions
    · subst hdashes
      exact Or.inl ⟨_, .dashes arguments⟩
    rcases exists_role hdashes with ⟨word, hword⟩ | hambiguous
    · have hclear : ¬ IsAmbiguous text := by
        intro hambiguous
        have hfails := classify_of_isAmbiguous hambiguous
        rw [classify_of_hasRole hword] at hfails
        cases hfails
      rcases ih with ⟨words, hwords⟩ | ⟨before, other, after, rfl, hfirst⟩
      · exact Or.inl ⟨_, .cons hdashes hword hwords⟩
      · refine Or.inr ⟨text :: before, other, after, rfl, ?_, ?_, hfirst.ambiguous⟩
        · exact List.not_mem_cons_of_ne_of_not_mem (Ne.symm hdashes) hfirst.ends
        · exact List.forall_mem_cons.2 ⟨hclear, hfirst.clear⟩
    · exact Or.inr ⟨[], text, arguments, rfl, List.not_mem_nil, by simp, hambiguous⟩

end LoxSyntax.NodeModule
