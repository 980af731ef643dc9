/-
# The reading of arguments

The words of the command line are read from left to right.  What they amount to is told here without
the reader: they set the token module or are left for the directory, up to the first call for help
and the first option that lacks its value.  The first plain word is the directory, with the end of
the options if that stands beside it, and whatever else is left has no use.
-/
import LoxSyntax.Proofs.RawTexts
import LoxSyntax.Proofs.WordRoles

namespace LoxSyntax.NodeModule

open Text (Raw)

/-! ## Items -/

/-- What one or two words amount to. -/
inductive Item where
  /-- A value for the token module. -/
  | setting (value : Raw)
  | plain (text : Raw)
  /-- The end of the options. -/
  | dashes
  | unknown (text : Raw)
  deriving DecidableEq, Repr

/-- The value that an item sets. -/
def Item.value? : Item → Option Raw
  | setting value => some value
  | _ => none

/-- The text of an item that sets nothing. -/
def Item.text? : Item → Option Raw
  | setting _ => none
  | plain text => some text
  | dashes => some endOfOptions
  | unknown text => some text

/-- Words that are read to items one after the other: there is no call for help among them, and
every option has its value in the same word or in the next one. -/
inductive Reads : List Word → List Item → Prop where
  | nil : Reads [] []
  | setting {value : Raw} {words : List Word} {items : List Item} (h : Reads words items) :
    Reads (.tokenModule (some value) :: words) (.setting value :: items)
  | settingNext {value : Raw} {words : List Word} {items : List Item} (h : Reads words items) :
    Reads (.tokenModule none :: .plain value :: words) (.setting value :: items)
  | plain {text : Raw} {words : List Word} {items : List Item} (h : Reads words items) :
    Reads (.plain text :: words) (.plain text :: items)
  | dashes {words : List Word} {items : List Item} (h : Reads words items) :
    Reads (.terminator :: words) (.dashes :: items)
  | unknown {text : Raw} {words : List Word} {items : List Item} (h : Reads words items) :
    Reads (.unknown text :: words) (.unknown text :: items)

/-- The last value that the items set, or the one before them. -/
def lastValue (value : Raw) (items : List Item) : Raw :=
  (items.filterMap Item.value?).getLast?.getD value

/-- The texts of the items that set nothing. -/
def texts (items : List Item) : List Raw := items.filterMap Item.text?

/-- No item is plain. -/
def HasNoPlain (items : List Item) : Prop := ∀ text, .plain text ∉ items

/-- The directory among the items, and the texts that are left beside it.  It is the first plain
item.  The end of the options goes with it if that stands directly before it, or else directly
behind it. -/
inductive Splits : List Item → Raw → List Raw → Prop where
  | alone {before after : List Item} {directory : Raw} (hbefore : HasNoPlain before)
      (hlast : before.getLast? ≠ some .dashes) (hnext : after.head? ≠ some .dashes) :
    Splits (before ++ .plain directory :: after) directory (texts before ++ texts after)
  | behindDashes {before after : List Item} {directory : Raw} (hbefore : HasNoPlain before) :
    Splits (before ++ .dashes :: .plain directory :: after) directory (texts before ++ texts after)
  | beforeDashes {before after : List Item} {directory : Raw} (hbefore : HasNoPlain before)
      (hlast : before.getLast? ≠ some .dashes) :
    Splits (before ++ .plain directory :: .dashes :: after) directory (texts before ++ texts after)

/-- The words are read to items up to a given place. -/
def ReadUpTo (words : List Word) (stop : Word) (rest : List Word) : Prop :=
  ∃ used items, words = used ++ stop :: rest ∧ Reads used items

/-- What arguments ask for: the command, or what is wrong with them. -/
inductive Asks (arguments : List Raw) : Except UsageError Command → Prop where
  | ambiguous {before after : List Raw} {text : Raw}
      (h : arguments = before ++ text :: after) (hfirst : FirstAmbiguous before text) :
    Asks arguments (.error (.ambiguous text))
  | help {words rest : List Word} (hroles : Roles arguments words)
      (h : ReadUpTo words (.help none) rest) : Asks arguments (.ok .help)
  | helpTakesNoValue {words rest : List Word} {value : Raw} (hroles : Roles arguments words)
      (h : ReadUpTo words (.help (some value)) rest) :
    Asks arguments (.error (.helpTakesNoValue value))
  | valueMissing {words rest : List Word} (hroles : Roles arguments words)
      (h : ReadUpTo words (.tokenModule none) rest)
      (hnext : ∀ text, rest.head? ≠ some (.plain text)) :
    Asks arguments (.error .valueMissing)
  | directoryMissing {words : List Word} {items : List Item} (hroles : Roles arguments words)
      (h : Reads words items) (hitems : HasNoPlain items) :
    Asks arguments (.error .directoryMissing)
  | unrecognized {words : List Word} {items : List Item} {directory : Raw} {left : List Raw}
      (hroles : Roles arguments words) (h : Reads words items)
      (hitems : Splits items directory left) (hleft : left ≠ []) :
    Asks arguments (.error (.unrecognized left))
  | generate {words : List Word} {items : List Item} {directory : Raw}
      (hroles : Roles arguments words) (h : Reads words items)
      (hitems : Splits items directory []) :
    Asks arguments (.ok (.generate directory (lastValue (.ofString defaultTokenModule) items)))

variable {r : Reading} {text directory value : Raw} {word : Word} {words used rest : List Word}
  {item : Item} {items before after : List Item} {left : List Raw} {arguments : List Raw}
  {result : Except UsageError Command}

/-! ## Reading items -/

/-- The reading behind some items that are not for the directory. -/
def Reading.past (r : Reading) (items : List Item) : Reading :=
  { r with tokenModule := lastValue r.tokenModule items, surplus := r.surplus ++ texts items }

theorem Reading.past_nil (r : Reading) : r.past [] = r := by
  simp [past, lastValue, texts]

theorem Reading.past_setting (r : Reading) (value : Raw) (items : List Item) :
    r.past (.setting value :: items) = { r with tokenModule := value }.past items := by
  simp [past, lastValue, texts, List.filterMap_cons, Item.value?, Item.text?, List.getLast?_cons]

/-- An item with a text adds that to what is left. -/
theorem Reading.past_of_text? (r : Reading) (items : List Item) (h : item.text? = some text) :
    r.past (item :: items) = (r.addSurplus text).past items := by
  cases item <;> cases h <;>
    simp [past, lastValue, texts, addSurplus, List.filterMap_cons, Item.value?, Item.text?]

/-- With the directory known, plain words and the end of the options are left over.  The reader may
take two of them in one step, so that both kinds are told together. -/
theorem readWords_known (rest : List Word) : ∀ {r : Reading}, r.directory? = some directory →
    (∀ text, readWords r (.plain text :: rest) = readWords (r.addSurplus text) rest) ∧
      readWords r (.terminator :: rest) = readWords (r.addSurplus endOfOptions) rest := by
  induction rest with
  | nil =>
    intro r hr
    simp [readWords, hr]
  | cons word rest ih =>
    intro r hr
    have hnext : ∀ text, (r.addSurplus text).directory? = some directory := fun _ => hr
    cases word with
    | plain second => simp [readWords, hr, (ih (hnext _)).1]
    | terminator => simp [readWords, hr, (ih (hnext _)).2]
    | help value? => simp [readWords, hr]
    | tokenModule value? => simp [readWords, hr]
    | unknown second => simp [readWords, hr]

/-- Two dashes that no plain word follows are left over. -/
theorem readWords_terminator (r : Reading) (hnext : ∀ text, rest.head? ≠ some (.plain text)) :
    readWords r (.terminator :: rest) = readWords (r.addSurplus endOfOptions) rest := by
  cases rest with
  | nil => rfl
  | cons word rest =>
    cases word with
    | plain text => exact absurd rfl (hnext text)
    | _ => simp only [readWords]

/-- **Behind the directory** every item only sets its value or is left over. -/
theorem readWords_past_known (h : Reads used items) (rest : List Word) :
    ∀ r : Reading, r.directory? = some directory →
      readWords r (used ++ rest) = readWords (r.past items) rest := by
  induction h with
  | nil => exact fun r _ => by rw [r.past_nil, List.nil_append]
  | setting _ ih | settingNext _ ih =>
    intro r hr
    simp only [List.cons_append, readWords, r.past_setting]
    exact ih _ hr
  | @plain text used items _ ih =>
    intro r hr
    rw [r.past_of_text? items rfl, List.cons_append, (readWords_known _ hr).1]
    exact ih _ hr
  | @dashes used items _ ih =>
    intro r hr
    rw [r.past_of_text? items rfl, List.cons_append, (readWords_known _ hr).2]
    exact ih _ hr
  | @unknown text used items _ ih =>
    intro r hr
    rw [r.past_of_text? items rfl, List.cons_append, readWords]
    exact ih _ hr

/-- Words that are read to no plain item do not start with a plain word. -/
theorem Reads.head?_ne_plain (h : Reads used items) (hitems : HasNoPlain items) (text : Raw) :
    used.head? ≠ some (.plain text) := by
  intro hhead
  cases h with
  | plain h =>
    cases hhead
    exact hitems text List.mem_cons_self
  | _ => cases hhead

theorem HasNoPlain.tail (h : HasNoPlain (item :: items)) : HasNoPlain items :=
  fun text hmem => h text (List.mem_cons_of_mem _ hmem)

/-- No plain word is directly behind an end of the options. -/
def IsApart (items : List Item) (rest : List Word) : Prop :=
  items.getLast? = some .dashes → ∀ text, rest.head? ≠ some (.plain text)

theorem IsApart.tail (h : IsApart (item :: items) rest) : IsApart items rest := by
  intro hlast
  refine h ?_
  rw [List.getLast?_cons, hlast, Option.getD_some]

/-- What stands behind an end of the options is not plain. -/
theorem IsApart.head?_ne_plain (h : IsApart (.dashes :: items) rest) (hreads : Reads used items)
    (hitems : HasNoPlain items) (text : Raw) : (used ++ rest).head? ≠ some (.plain text) := by
  by_cases hused : used = []
  · subst hused
    cases hreads
    exact h rfl text
  · rw [List.head?_append_of_ne_nil _ hused]
    exact hreads.head?_ne_plain hitems text

/-- **Before the directory**, too, items that are not plain only set their value or are left over,
unless the last of them ends the options just before a plain word. -/
theorem readWords_past (h : Reads used items) (hitems : HasNoPlain items)
    (hapart : IsApart items rest) :
    ∀ r, readWords r (used ++ rest) = readWords (r.past items) rest := by
  induction h with
  | nil => exact fun r => by rw [r.past_nil, List.nil_append]
  | setting _ ih | settingNext _ ih =>
    intro r
    simp only [List.cons_append, readWords, r.past_setting]
    exact ih hitems.tail hapart.tail _
  | plain _ _ => exact absurd List.mem_cons_self (hitems _)
  | @dashes used items h ih =>
    intro r
    rw [r.past_of_text? items rfl, List.cons_append,
      readWords_terminator r (hapart.head?_ne_plain h hitems.tail)]
    exact ih hitems.tail hapart.tail _
  | @unknown text used items _ ih =>
    intro r
    rw [r.past_of_text? items rfl, List.cons_append, readWords]
    exact ih hitems.tail hapart.tail _

/-! ## The directory -/

/-- Items in two parts are read from words in two parts. -/
theorem Reads.split (h : Reads words (before ++ after)) :
    ∃ first second, words = first ++ second ∧ Reads first before ∧ Reads second after := by
  induction before generalizing words with
  | nil => exact ⟨[], words, rfl, .nil, h⟩
  | cons item before ih =>
    cases h with
    | settingNext h =>
      obtain ⟨first, second, rfl, hfirst, hsecond⟩ := ih h
      exact ⟨_ :: _ :: first, second, rfl, .settingNext hfirst, hsecond⟩
    | setting h | plain h | dashes h | unknown h =>
      obtain ⟨first, second, rfl, hfirst, hsecond⟩ := ih h
      exact ⟨_ :: first, second, rfl, by constructor; exact hfirst, hsecond⟩

/-- The last value of two parts is that of the second one, or else that of the first one. -/
theorem lastValue_append (value : Raw) (before after : List Item) :
    lastValue value (before ++ after) = lastValue (lastValue value before) after := by
  simp only [lastValue, List.filterMap_append, List.getLast?_append]
  cases (after.filterMap Item.value?).getLast? <;> rfl

/-- The reading behind the directory and the items around it, which set no value themselves. -/
theorem Reading.past_directory (r : Reading) (before operand after : List Item)
    (hoperand : operand.filterMap Item.value? = []) :
    { r.past before with directory? := some directory }.past after =
      ⟨some directory, lastValue r.tokenModule (before ++ (operand ++ after)),
        r.surplus ++ (texts before ++ texts after)⟩ := by
  have hnone : ∀ value, lastValue value operand = value := by
    intro value
    rw [lastValue, hoperand, List.getLast?_nil, Option.getD_none]
  simp only [past, lastValue_append, hnone, List.append_assoc]

/-- What stands behind a plain item does not end the options. -/
theorem Reads.head?_ne_terminator (h : Reads used items) (hitems : items.head? ≠ some .dashes)
    (hrest : rest.head? ≠ some .terminator) : (used ++ rest).head? ≠ some .terminator := by
  cases h with
  | nil => exact hrest
  | dashes h => exact absurd rfl hitems
  | _ => simp

/-- A plain word is the directory if none is known. -/
theorem readWords_directory (hr : r.directory? = none) (hrest : rest.head? ≠ some .terminator) :
    readWords r (.plain directory :: rest) =
      readWords { r with directory? := some directory } rest := by
  cases rest with
  | nil => simp [readWords, hr]
  | cons word rest =>
    cases word with
    | terminator => exact absurd rfl hrest
    | _ => simp [readWords, hr]

/-- An end of the options beside the directory goes with it. -/
theorem readWords_directory_dashes (hr : r.directory? = none) (rest : List Word) :
    readWords r (.terminator :: .plain directory :: rest) =
        readWords { r with directory? := some directory } rest ∧
      readWords r (.plain directory :: .terminator :: rest) =
        readWords { r with directory? := some directory } rest := by
  simp [readWords, hr]

/-- The words of the directory are taken together, between those of the items around it. -/
theorem readWords_around {first last : List Word} (middle : List Word) (operand : List Item)
    (hfirst : Reads first before) (hbefore : HasNoPlain before) (hlast : Reads last after)
    (hoperand : operand.filterMap Item.value? = [])
    (hapart : IsApart before (middle ++ (last ++ rest)))
    (htaken : ∀ r : Reading, r.directory? = none → readWords r (middle ++ (last ++ rest)) =
      readWords { r with directory? := some directory } (last ++ rest))
    (hr : r.directory? = none) :
    readWords r (first ++ (middle ++ (last ++ rest))) =
      readWords ⟨some directory, lastValue r.tokenModule (before ++ (operand ++ after)),
        r.surplus ++ (texts before ++ texts after)⟩ rest := by
  rw [readWords_past hfirst hbefore hapart, htaken (r.past before) hr,
    readWords_past_known hlast rest _ rfl, r.past_directory before operand after hoperand]

/-- **The directory** is taken and the items beside it set their values or are left over. -/
theorem readWords_of_splits (h : Reads used items) (hsplits : Splits items directory left)
    (hrest : rest.head? ≠ some .terminator) (hr : r.directory? = none) :
    readWords r (used ++ rest) =
      readWords ⟨some directory, lastValue r.tokenModule items, r.surplus ++ left⟩ rest := by
  -- in each case the words fall into those before the directory, its own and those behind it
  cases hsplits with
  | alone hbefore hdashes hnext =>
    obtain ⟨first, _, rfl, hfirst, hsecond⟩ := h.split
    obtain _ | _ | _ | hlast | _ | _ := hsecond
    rw [List.append_assoc]
    exact readWords_around [.plain directory] [.plain directory] hfirst hbefore hlast rfl
      (fun heq => absurd heq hdashes)
      (fun _ hr => readWords_directory hr (hlast.head?_ne_terminator hnext hrest)) hr
  | behindDashes hbefore =>
    obtain ⟨first, _, rfl, hfirst, hsecond⟩ := h.split
    obtain _ | _ | _ | _ | hsecond | _ := hsecond
    obtain _ | _ | _ | hlast | _ | _ := hsecond
    rw [List.append_assoc]
    exact readWords_around [.terminator, .plain directory] [.dashes, .plain directory] hfirst
      hbefore hlast rfl (fun _ _ => by simp) (fun _ hr => (readWords_directory_dashes hr _).1) hr
  | beforeDashes hbefore hdashes =>
    obtain ⟨first, _, rfl, hfirst, hsecond⟩ := h.split
    obtain _ | _ | _ | hsecond | _ | _ := hsecond
    obtain _ | _ | _ | _ | hlast | _ := hsecond
    rw [List.append_assoc]
    exact readWords_around [.plain directory, .terminator] [.plain directory, .dashes] hfirst
      hbefore hlast rfl (fun heq => absurd heq hdashes)
      (fun _ hr => (readWords_directory_dashes hr _).2) hr

theorem HasNoPlain.cons (h : HasNoPlain items) (hitem : ∀ text, item ≠ .plain text) :
    HasNoPlain (item :: items) :=
  fun text => List.not_mem_cons_of_ne_of_not_mem (hitem text).symm (h text)

/-- No item is plain, or there is a first plain one. -/
theorem hasNoPlain_or_first (items : List Item) : HasNoPlain items ∨
    ∃ before directory after, items = before ++ .plain directory :: after ∧ HasNoPlain before := by
  induction items with
  | nil => exact Or.inl fun _ => List.not_mem_nil
  | cons item items ih =>
    by_cases hitem : ∃ text, item = .plain text
    · obtain ⟨directory, rfl⟩ := hitem
      exact Or.inr ⟨[], directory, items, rfl, fun _ => List.not_mem_nil⟩
    · have hnot : ∀ text, item ≠ .plain text := fun text heq => hitem ⟨text, heq⟩
      rcases ih with hitems | ⟨before, directory, after, rfl, hbefore⟩
      · exact Or.inl (hitems.cons hnot)
      · exact Or.inr ⟨item :: before, directory, after, rfl, hbefore.cons hnot⟩

/-- **The items** hold a directory, or nothing that could be one. -/
theorem hasNoPlain_or_splits (items : List Item) :
    HasNoPlain items ∨ ∃ directory left, Splits items directory left := by
  rcases hasNoPlain_or_first items with hitems | ⟨before, directory, after, rfl, hbefore⟩
  · exact Or.inl hitems
  refine Or.inr ⟨directory, ?_⟩
  -- an end of the options before the directory is taken rather than one behind it
  by_cases hlast : before.getLast? = some .dashes
  · obtain ⟨before, rfl⟩ := List.getLast?_eq_some_iff.1 hlast
    rw [List.append_assoc, List.singleton_append]
    exact ⟨_, .behindDashes fun text hmem => hbefore text (List.mem_append_left _ hmem)⟩
  by_cases hnext : after.head? = some .dashes
  · obtain ⟨after, rfl⟩ := List.head?_eq_some_iff.1 hnext
    exact ⟨_, .beforeDashes hbefore hlast⟩
  · exact ⟨_, .alone hbefore hlast hnext⟩

/-! ## Where the reading stops -/

/-- The words that stop the reading before what follows them: a call for help, and an option without
a value. -/
inductive Stops : Word → List Word → Prop where
  | help (value? : Option Raw) (rest : List Word) : Stops (.help value?) rest
  | tokenModule {rest : List Word} (hnext : ∀ text, rest.head? ≠ some (.plain text)) :
    Stops (.tokenModule none) rest

/-- The words are read to the end, or up to a stop. -/
def AreRead (words : List Word) : Prop :=
  (∃ items, Reads words items) ∨ ∃ stop rest, ReadUpTo words stop rest ∧ Stops stop rest

/-- Words in front that are read to an item do not change how far the others are read. -/
theorem AreRead.behind (h : AreRead words) (front : List Word)
    (hfront : ∀ {used items}, Reads used items → Reads (front ++ used) (item :: items)) :
    AreRead (front ++ words) := by
  rcases h with ⟨items, hitems⟩ | ⟨stop, rest, ⟨used, items, rfl, hitems⟩, hstop⟩
  · exact Or.inl ⟨_, hfront hitems⟩
  · refine Or.inr ⟨stop, rest, ⟨front ++ used, _, ?_, hfront hitems⟩, hstop⟩
    rw [List.append_assoc]

/-- A stop at the start is where the reading stops. -/
theorem Stops.areRead {stop : Word} (h : Stops stop rest) : AreRead (stop :: rest) :=
  Or.inr ⟨stop, rest, ⟨[], [], rfl, .nil⟩, h⟩

/-- **All words** are read to the end, or up to a stop. -/
theorem areRead : ∀ words : List Word, AreRead words
  | [] => Or.inl ⟨[], .nil⟩
  | .help value? :: rest => (Stops.help value? rest).areRead
  | .tokenModule (some _) :: rest => (areRead rest).behind [_] .setting
  | .tokenModule none :: rest => by
    cases rest with
    | nil => exact (Stops.tokenModule (by simp)).areRead
    | cons next rest =>
      cases next with
      | plain value => exact (areRead rest).behind [_, _] .settingNext
      | _ => exact (Stops.tokenModule (by simp)).areRead
  | .plain _ :: rest => (areRead rest).behind [_] .plain
  | .terminator :: rest => (areRead rest).behind [_] .dashes
  | .unknown _ :: rest => (areRead rest).behind [_] .unknown

/-- Behind the words that were read the reader is at the stop. -/
theorem ReadUpTo.exists_readWords {stop : Word} (h : ReadUpTo words stop rest)
    (hstop : Stops stop rest) : ∃ r, readWords {} words = readWords r (stop :: rest) := by
  obtain ⟨used, items, rfl, hitems⟩ := h
  have hnext : ∀ text, (stop :: rest).head? ≠ some (.plain text) := by
    cases hstop <;> simp
  have hrest : (stop :: rest).head? ≠ some .terminator := by
    cases hstop <;> simp
  rcases hasNoPlain_or_splits items with hplain | ⟨directory, left, hsplits⟩
  · exact ⟨_, readWords_past hitems hplain (fun _ => hnext) _⟩
  · exact ⟨_, readWords_of_splits hitems hsplits hrest rfl⟩

/-- An option without a value is an error wherever it stands. -/
theorem readWords_valueMissing (r : Reading) (hnext : ∀ text, rest.head? ≠ some (.plain text)) :
    readWords r (.tokenModule none :: rest) = .error .valueMissing := by
  cases rest with
  | nil => rfl
  | cons next rest =>
    cases next with
    | plain text => exact absurd rfl (hnext text)
    | _ => simp only [readWords]

/-! ## What the arguments ask for -/

/-- What arguments with roles ask for is read off the words. -/
theorem readArguments_of_roles (h : Roles arguments words) :
    readArguments arguments = readWords {} words := by
  rw [readArguments, classifyAll_of_roles h]
  rfl

/-- **The reader finds** what the arguments ask for. -/
theorem readArguments_of_asks (h : Asks arguments result) : readArguments arguments = result := by
  cases h with
  | ambiguous h hfirst =>
    rw [readArguments, h, classifyAll_of_firstAmbiguous hfirst]
    rfl
  | help hroles h =>
    obtain ⟨r, hr⟩ := h.exists_readWords (.help none _)
    rw [readArguments_of_roles hroles, hr, readWords]
  | helpTakesNoValue hroles h =>
    obtain ⟨r, hr⟩ := h.exists_readWords (.help _ _)
    rw [readArguments_of_roles hroles, hr, readWords]
  | valueMissing hroles h hnext =>
    obtain ⟨r, hr⟩ := h.exists_readWords (.tokenModule hnext)
    rw [readArguments_of_roles hroles, hr, readWords_valueMissing r hnext]
  | @directoryMissing words items hroles h hitems =>
    have hapart : IsApart items [] := fun _ _ => by simp
    rw [readArguments_of_roles hroles, ← List.append_nil words, readWords_past h hitems hapart]
    rfl
  | @unrecognized words items directory left hroles h hitems hleft =>
    obtain ⟨text, others, rfl⟩ := List.exists_cons_of_ne_nil hleft
    rw [readArguments_of_roles hroles, ← List.append_nil words,
      readWords_of_splits h hitems (by simp) rfl]
    rfl
  | @generate words items directory hroles h hitems =>
    rw [readArguments_of_roles hroles, ← List.append_nil words,
      readWords_of_splits h hitems (by simp) rfl]
    rfl

/-- Arguments ask for something. -/
theorem exists_asks (arguments : List Raw) : ∃ result, Asks arguments result := by
  rcases exists_roles arguments with ⟨words, hroles⟩ | ⟨before, text, after, h, hfirst⟩
  · rcases areRead words with ⟨items, hreads⟩ | ⟨stop, rest, hreads, hstop⟩
    · rcases hasNoPlain_or_splits items with hitems | ⟨directory, left, hitems⟩
      · exact ⟨_, .directoryMissing hroles hreads hitems⟩
      · by_cases hleft : left = []
        · subst hleft
          exact ⟨_, .generate hroles hreads hitems⟩
        · exact ⟨_, .unrecognized hroles hreads hitems hleft⟩
    · cases hstop with
      | help value? =>
        cases value? with
        | none => exact ⟨_, .help hroles hreads⟩
        | some value => exact ⟨_, .helpTakesNoValue hroles hreads⟩
      | tokenModule hnext => exact ⟨_, .valueMissing hroles hreads hnext⟩
  · exact ⟨_, .ambiguous h hfirst⟩

/-- **Arguments** ask for exactly one thing, and the reader finds it. -/
theorem readArguments_eq_iff : readArguments arguments = result ↔ Asks arguments result := by
  refine ⟨fun h => ?_, readArguments_of_asks⟩
  obtain ⟨found, hfound⟩ := exists_asks arguments
  rw [← h, readArguments_of_asks hfound]
  exact hfound

/-! ## Arguments that are texts -/

/-- What the word gives to the command is a text. -/
def Word.IsText : Word → Prop
  | plain text => text.IsText
  | tokenModule value? => ∀ value ∈ value?, value.IsText
  | _ => True

/-- What the item gives to the command is a text. -/
def Item.IsText : Item → Prop
  | setting value => value.IsText
  | plain text => text.IsText
  | _ => True

theorem Spells.isText {letters name : Raw} {value? : Option Raw} (h : Spells letters name value?)
    (hletters : letters.IsText) : ∀ value ∈ value?, value.IsText := by
  rintro value rfl
  obtain ⟨rfl, -⟩ := h
  rw [Raw.isText_append] at hletters
  exact fun surrogate hmem => hletters.2 surrogate (List.mem_cons_of_mem _ hmem)

theorem isText_moduleOfValue (h : value.IsText) : (moduleOfValue value).IsText := by
  unfold moduleOfValue
  split
  · exact Raw.isText_ofString _
  · exact h

/-- The words of texts give texts. -/
theorem HasRole.isText (h : HasRole text word) (htext : text.IsText) : word.IsText := by
  cases h with
  | tokenModule h _ =>
    intro module hmodule
    obtain ⟨value, hvalue, rfl⟩ := Option.map_eq_some_iff.1 hmodule
    exact isText_moduleOfValue (h.isText htext value hvalue)
  | plain _ | dash _ | looksPlain _ _ => exact htext
  | help _ _ | shortHelp _ _ | unknown _ _ => trivial

theorem Roles.isText (h : Roles arguments words) (htexts : ∀ text ∈ arguments, text.IsText) :
    ∀ word ∈ words, word.IsText := by
  induction h with
  | nil => exact List.forall_mem_nil _
  | dashes operands =>
    exact List.forall_mem_cons.2 ⟨trivial, List.forall_mem_map.2 (List.forall_mem_cons.1 htexts).2⟩
  | cons _ h _ ih =>
    obtain ⟨htext, htexts⟩ := List.forall_mem_cons.1 htexts
    exact List.forall_mem_cons.2 ⟨h.isText htext, ih htexts⟩

/-- The items of such words give texts. -/
theorem Reads.isText (h : Reads words items) (hwords : ∀ word ∈ words, word.IsText) :
    ∀ item ∈ items, item.IsText := by
  induction h with
  | nil => exact List.forall_mem_nil _
  | @setting value _ _ _ ih =>
    obtain ⟨hvalue, hwords⟩ := List.forall_mem_cons.1 hwords
    exact List.forall_mem_cons.2 ⟨hvalue value rfl, ih hwords⟩
  | settingNext _ ih =>
    obtain ⟨-, hwords⟩ := List.forall_mem_cons.1 hwords
    obtain ⟨hvalue, hwords⟩ := List.forall_mem_cons.1 hwords
    exact List.forall_mem_cons.2 ⟨hvalue, ih hwords⟩
  | plain _ ih =>
    obtain ⟨htext, hwords⟩ := List.forall_mem_cons.1 hwords
    exact List.forall_mem_cons.2 ⟨htext, ih hwords⟩
  | dashes _ ih | unknown _ ih =>
    exact List.forall_mem_cons.2 ⟨trivial, ih (List.forall_mem_cons.1 hwords).2⟩

theorem isText_lastValue (hvalue : value.IsText) (hitems : ∀ item ∈ items, item.IsText) :
    (lastValue value items).IsText := by
  unfold lastValue
  cases hlast : (items.filterMap Item.value?).getLast? with
  | none => exact hvalue
  | some last =>
    obtain ⟨item, hitem, hset⟩ := List.mem_filterMap.1 (List.mem_of_getLast? hlast)
    cases item with
    | setting value =>
      cases hset
      exact hitems _ hitem
    | _ => cases hset

/-- **Texts ask for a text**: the token module is the default or comes from the arguments. -/
theorem Asks.isText {tokenModule : Raw} (h : Asks arguments (.ok (.generate directory tokenModule)))
    (htexts : ∀ text ∈ arguments, text.IsText) : tokenModule.IsText := by
  cases h with
  | generate hroles h _ =>
    exact isText_lastValue (Raw.isText_ofString _) (h.isText (hroles.isText htexts))

end LoxSyntax.NodeModule
