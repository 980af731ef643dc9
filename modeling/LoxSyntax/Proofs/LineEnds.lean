/-
# Line ends

A carriage return in front of a line feed is no part of what a scan finds: it stands in a blank of
its own, in a comment or in a string.  So if every carriage return of a source has a line feed
behind it, then the source without them falls into the same segments without them, on the same
lines, and only strings show a difference.
-/
import LoxSyntax.Proofs.JoinedLines
import LoxSyntax.Proofs.SourceTrees
import LoxSyntax.Text.Encoding

namespace LoxSyntax

/-! ## Texts without carriage returns -/

namespace Text

variable {text before after rest : List Char} {c : Char}

/-- The text with a line feed for every carriage return that has a line feed behind it, and that
line feed. -/
def joinLineEnds : List Char → List Char
  | [] => []
  | '\r' :: '\n' :: rest => '\n' :: joinLineEnds rest
  | c :: rest => c :: joinLineEnds rest

/-- Every carriage return in the text has a line feed behind it. -/
def ReturnsPaired (text : List Char) : Prop :=
  ∀ rest, '\r' :: rest <:+ text → rest.head? = some '\n'

/-- The text without its carriage returns. -/
def dropReturns (text : List Char) : List Char := text.filter (· != '\r')

/-- A text with a first character. -/
theorem returnsPaired_cons_iff : ReturnsPaired (c :: rest) ↔
    (c = '\r' → rest.head? = some '\n') ∧ ReturnsPaired rest := by
  constructor
  · intro h
    refine ⟨?_, fun after hafter => h after (hafter.trans (List.suffix_cons c rest))⟩
    rintro rfl
    exact h rest List.suffix_rfl
  · rintro ⟨hfirst, hrest⟩ after hafter
    rcases List.suffix_cons_iff.1 hafter with hsame | hlater
    · obtain ⟨rfl, rfl⟩ := List.cons.inj hsame
      exact hfirst rfl
    · exact hrest after hlater

instance decidableReturnsPaired : (text : List Char) → Decidable (ReturnsPaired text)
  | [] => isTrue fun rest h => by cases List.suffix_nil.1 h
  | c :: rest =>
    haveI := decidableReturnsPaired rest
    decidable_of_iff _ returnsPaired_cons_iff.symm

/-- What stands at the end of such a text is such a text. -/
theorem ReturnsPaired.right (h : ReturnsPaired (before ++ after)) : ReturnsPaired after :=
  fun rest hrest => h rest (hrest.trans (List.suffix_append before after))

/-- What stands at the front of such a text is such a text, if no carriage return is cut off from
its line feed. -/
theorem ReturnsPaired.left (h : ReturnsPaired (before ++ after))
    (hlast : before.getLast? ≠ some '\r') : ReturnsPaired before := by
  intro rest hrest
  obtain ⟨others, rfl⟩ := hrest
  have hfeed := h (rest ++ after) ⟨others, by simp⟩
  cases rest with
  | nil => exact absurd (by simp) hlast
  | cons d rest => exact hfeed

theorem dropReturns_append (before after : List Char) :
    dropReturns (before ++ after) = dropReturns before ++ dropReturns after :=
  List.filter_append _ _

theorem dropReturns_cons (hc : c ≠ '\r') : dropReturns (c :: rest) = c :: dropReturns rest :=
  List.filter_cons_of_pos (by simpa using hc)

theorem dropReturns_eq_self (h : '\r' ∉ text) : dropReturns text = text := by
  refine List.filter_eq_self.2 fun c hc => ?_
  rw [bne_iff_ne]
  rintro rfl
  exact h hc

theorem mem_dropReturns_iff (hc : c ≠ '\r') : c ∈ dropReturns text ↔ c ∈ text := by
  rw [dropReturns, List.mem_filter, bne_iff_ne, and_iff_left hc]

theorem count_dropReturns (text : List Char) : (dropReturns text).count '\n' = text.count '\n' :=
  List.count_filter (by decide)

/-- **Joining line ends** drops the carriage returns, if each one has its line feed. -/
theorem joinLineEnds_eq_dropReturns (h : ReturnsPaired text) :
    joinLineEnds text = dropReturns text := by
  fun_induction joinLineEnds text with
  | case1 => rfl
  | case2 rest ih =>
    rw [ih (returnsPaired_cons_iff.1 (returnsPaired_cons_iff.1 h).2).2]
    rfl
  | case3 c rest hother ih =>
    rw [returnsPaired_cons_iff] at h
    have hc : c ≠ '\r' := by
      rintro rfl
      obtain ⟨others, rfl⟩ := List.head?_eq_some_iff.1 (h.1 rfl)
      exact hother others rfl rfl
    rw [ih h.2, dropReturns_cons hc]

/-- So does making them uniform. -/
theorem unifyLineEnds_eq_dropReturns (h : ReturnsPaired text) :
    unifyLineEnds text = dropReturns text := by
  fun_induction unifyLineEnds text with
  | case1 => rfl
  | case2 rest ih =>
    rw [ih (returnsPaired_cons_iff.1 (returnsPaired_cons_iff.1 h).2).2]
    rfl
  | case3 rest hother ih =>
    obtain ⟨others, rfl⟩ := List.head?_eq_some_iff.1 (h rest List.suffix_rfl)
    exact absurd rfl (hother others)
  | case4 c rest hother hreturn ih =>
    have hc : c ≠ '\r' := fun h => hreturn h
    rw [ih (returnsPaired_cons_iff.1 h).2, dropReturns_cons hc]

/-- **A text without its carriage returns starts like the text**: up to the first line feed no
carriage return is dropped. -/
theorem startsLike_dropReturns (h : ReturnsPaired text) :
    Segment.StartsLike (dropReturns text) text := by
  intro front hfeed hfront
  induction text generalizing front with
  | nil => exact hfront
  | cons c rest ih =>
    rw [returnsPaired_cons_iff] at h
    cases front with
    | nil => exact List.nil_prefix
    | cons d front =>
      by_cases hc : c = '\r'
      · -- a line feed comes first
        obtain ⟨others, rfl⟩ := List.head?_eq_some_iff.1 (h.1 hc)
        rw [hc] at hfront
        have hfirst : d :: front <+: '\n' :: dropReturns others := hfront
        rw [List.cons_prefix_cons] at hfirst
        exact absurd List.mem_cons_self (hfirst.1 ▸ hfeed)
      · rw [dropReturns_cons hc, List.cons_prefix_cons] at hfront
        rw [List.cons_prefix_cons]
        exact ⟨hfront.1, ih h.2 front (fun hmem => hfeed (List.mem_cons_of_mem d hmem)) hfront.2⟩

end Text

namespace Segment

open Text

variable {source rest body : List Char} {s : Segment} {segs : List Segment}

/-! ## Segments without carriage returns -/

/-- The segment without its carriage returns, if anything is left of it. -/
def withoutReturns : Segment → Option Segment
  | blank c => if c = '\r' then none else some (blank c)
  | string body closed => some (string (dropReturns body) closed)
  | lineComment body => some (lineComment (dropReturns body))
  | blockComment body closed => some (blockComment (dropReturns body) closed)
  | s => some s

theorem withoutReturns_blank {c : Char} (hc : c ≠ '\r') :
    (blank c).withoutReturns = some (blank c) :=
  if_neg hc

/-- A closing mark is no other one without carriage returns. -/
theorem Closes.of_dropReturns (hpaired : ReturnsPaired body) (h : Closes (dropReturns body)) :
    Closes body := by
  obtain ⟨before, after, hsplit⟩ := h
  rw [List.append_assoc] at hsplit
  obtain ⟨front, back, rfl, -, hback⟩ := List.filter_eq_append_iff.1 hsplit.symm
  have hmark : ['*', '/'] <+: dropReturns back := ⟨after, hback.symm⟩
  obtain ⟨others, hothers⟩ := startsLike_dropReturns hpaired.right _ (by decide) hmark
  exact ⟨front, others, by rw [List.append_assoc, hothers]⟩

/-- The segment without its carriage returns is munched in front of the rest without them. -/
def StaysMunched (s : Segment) (rest : List Char) : Prop :=
  (s.withoutReturns = none ∧ dropReturns s.text = []) ∨ ∃ s', s.withoutReturns = some s' ∧
    s'.text = dropReturns s.text ∧ Munch s' (dropReturns rest)

/-- Solid segments have no carriage returns. -/
theorem Munch.staysMunched_of_isSolid (h : Munch s rest) (hpaired : ReturnsPaired rest)
    (hsolid : s.IsSolid) (hsame : s.withoutReturns = some s) : s.StaysMunched rest := by
  have hnot : '\r' ∉ s.text := by
    intro hmem
    have hspacing := isSpacing_of_mem_text h hsolid _ hmem
    revert hspacing
    decide
  have hclosed : s.IsClosed := by
    cases s with
    | string | blockComment => exact hsolid.elim
    | _ => trivial
  exact Or.inr ⟨s, hsame, (dropReturns_eq_self hnot).symm,
    h.of_startsLike hclosed (startsLike_dropReturns hpaired)⟩

theorem quote_not_mem_dropReturns (h : '"' ∉ body) : '"' ∉ dropReturns body :=
  fun hmem => h ((mem_dropReturns_iff (by decide)).1 hmem)

/-- **Each segment is munched** without its carriage returns, in front of the rest without them. -/
theorem Munch.staysMunched (h : Munch s rest) (hpaired : ReturnsPaired (s.text ++ rest)) :
    s.StaysMunched rest := by
  have hrest : ReturnsPaired rest := hpaired.right
  cases s with
  | symbol | word | number | stray => exact h.staysMunched_of_isSolid hrest trivial rfl
  | string body closed =>
    refine Or.inr ⟨_, rfl, ?_, ?_⟩
    · cases closed <;> simp [text, dropReturns]
    · cases h with
      | string hbody => exact Munch.string (quote_not_mem_dropReturns hbody)
      | openString hbody => exact Munch.openString (quote_not_mem_dropReturns hbody)
  | blank c =>
    by_cases hc : c = '\r'
    · subst hc
      exact Or.inl ⟨rfl, rfl⟩
    · cases h with
      | blank hspacing =>
        refine Or.inr ⟨_, withoutReturns_blank hc, (dropReturns_eq_self ?_).symm,
          Munch.blank hspacing⟩
        simpa [text, eq_comm] using hc
  | lineComment body =>
    refine Or.inr ⟨_, rfl, rfl, ?_⟩
    cases h with
    | lineComment hbody hend =>
      refine Munch.lineComment (fun hmem => hbody ((mem_dropReturns_iff (by decide)).1 hmem)) ?_
      intro d hd
      rcases (startsLike_dropReturns hrest).head? hd with hsame | hfeed
      · exact hend d hsame
      · exact hfeed
  | blockComment body closed =>
    refine Or.inr ⟨_, rfl, ?_, ?_⟩
    · cases closed <;> simp [text, dropReturns]
    · cases h with
      | blockComment hbody =>
        have hmark : dropReturns body ++ ['*'] = dropReturns (body ++ ['*']) := by
          rw [dropReturns_append]
          rfl
        have hfront : ReturnsPaired (body ++ ['*']) := by
          have hsplit : (Segment.blockComment body true).text ++ rest =
              (['/', '*'] ++ (body ++ ['*'])) ++ '/' :: rest := by simp [text]
          have hlast : (['/', '*'] ++ (body ++ ['*'])).getLast? ≠ some '\r' := by
            rw [← List.append_assoc, List.getLast?_concat]
            decide
          rw [hsplit] at hpaired
          exact (hpaired.left hlast).right
        refine Munch.blockComment ?_
        rw [hmark]
        exact mt (Closes.of_dropReturns hfront) hbody
      | openBlockComment hbody =>
        have hsplit : (Segment.blockComment body false).text ++ [] = ['/', '*'] ++ body := by
          simp [text]
        rw [hsplit] at hpaired
        exact Munch.openBlockComment (mt (Closes.of_dropReturns hpaired.right) hbody)

/-- **The segments without carriage returns** are those of the text without them. -/
theorem Segmented.withoutReturns (h : Segmented source segs) (hpaired : ReturnsPaired source) :
    Segmented (dropReturns source) (segs.filterMap withoutReturns) := by
  induction h with
  | nil => exact Segmented.nil
  | @cons s rest segs hs hrest ih =>
    have hothers := ih hpaired.right
    rw [dropReturns_append]
    rcases hs.staysMunched hpaired with ⟨hnone, htext⟩ | ⟨s', hsome, htext, hmunch⟩
    · rw [htext, List.filterMap_cons_none hnone]
      exact hothers
    · rw [← htext, List.filterMap_cons_some hsome]
      exact Segmented.cons hmunch hothers

/-- A segment has as many line feeds without its carriage returns. -/
theorem lineFeeds_withoutReturns (s : Segment) :
    (s.withoutReturns.map lineFeeds).getD 0 = s.lineFeeds := by
  cases s with
  | symbol | word | number | stray => rfl
  | string body closed =>
    simp [withoutReturns, lineFeeds, text, count_dropReturns]
  | blank c =>
    by_cases hc : c = '\r'
    · subst hc
      rfl
    · rw [withoutReturns_blank hc]
      rfl
  | lineComment body => simp [withoutReturns, lineFeeds, text, count_dropReturns]
  | blockComment body closed => simp [withoutReturns, lineFeeds, text, count_dropReturns]

/-- **What is taken from the segments** without carriage returns is what is taken from the segments
themselves, with the same lines, if it is so for each of them. -/
theorem filterMap_withLines_withoutReturns {α : Type} {f : Nat × Segment → Option α} {g : α → α}
    (segs : List Segment)
    (h : ∀ line, ∀ s ∈ segs, (s.withoutReturns.bind fun s' => f (line, s')) = (f (line, s)).map g)
    (line : Nat) : (withLines line (segs.filterMap withoutReturns)).filterMap f =
      ((withLines line segs).filterMap f).map g := by
  induction segs generalizing line with
  | nil => rfl
  | cons s segs ih =>
    have hfirst := h line s List.mem_cons_self
    have hfeeds := lineFeeds_withoutReturns s
    have hothers := ih (fun line s' hs' => h line s' (List.mem_cons_of_mem s hs'))
      (line + s.lineFeeds)
    cases hs : s.withoutReturns with
    | none =>
      rw [hs] at hfirst hfeeds
      have hnone : f (line, s) = none := Option.map_eq_none_iff.1 hfirst.symm
      rw [List.filterMap_cons_none hs, withLines, List.filterMap_cons_none hnone, ← hothers,
        ← hfeeds]
      rfl
    | some s' =>
      rw [hs] at hfirst hfeeds
      have hsame : s'.lineFeeds = s.lineFeeds := hfeeds
      have hentry : f (line, s') = (f (line, s)).map g := hfirst
      rw [List.filterMap_cons_some hs, withLines, withLines, hsame, List.filterMap_cons,
        List.filterMap_cons, hentry, hothers]
      cases f (line, s) <;> rfl

end Segment

/-! ## Tokens without carriage returns -/

open Text

/-- The value without carriage returns, if it is a text. -/
def Value.withoutReturns : Value → Value
  | text s => .text (String.ofList (dropReturns s.toList))
  | v => v

/-- The token without carriage returns in its text, if it is a string, and in its value. -/
def Token.withoutReturns (t : Token) : Token where
  kind := t.kind
  lexeme := if t.kind = .string then String.ofList (dropReturns t.lexeme.toList) else t.lexeme
  literal := t.literal.withoutReturns
  line := t.line

namespace Segment

variable {rest : List Char} {s : Segment}

/-- The token of a segment without carriage returns. -/
theorem token?_withoutReturns (h : Munch s rest) (line : Int) :
    (s.withoutReturns.bind fun s' => s'.token? line) =
      (s.token? line).map Token.withoutReturns := by
  have hkept {kind : Token.Kind} (hkind : s.kind? = some kind) (hne : kind ≠ .string)
      (hliteral : s.literal.withoutReturns = s.literal) :
      s.token? line = (s.token? line).map Token.withoutReturns := by
    rw [token?, hkind, Option.map_some, Option.map_some, Token.withoutReturns, if_neg hne, hliteral]
  cases s with
  | symbol kind text =>
    refine hkept rfl ?_ rfl
    rintro rfl
    obtain ⟨body, closed, hstring⟩ := eq_string_of_kind? h rfl
    cases hstring
  | word text =>
    refine hkept rfl ?_ rfl
    intro hkind
    obtain ⟨body, closed, hstring⟩ := eq_string_of_kind? h (congrArg some hkind)
    cases hstring
  | number whole fraction => exact hkept rfl (by decide) rfl
  | string body closed =>
    have htext :
        (string (dropReturns body) closed).text = dropReturns (string body closed).text := by
      cases closed <;> simp [text, dropReturns]
    simp only [withoutReturns, Option.bind_some, token?, kind?, Option.map_some, htext,
      Token.withoutReturns, literal, Value.withoutReturns, String.toList_ofList, if_pos]
  | blank c =>
    by_cases hc : c = '\r'
    · subst hc
      rfl
    · rw [withoutReturns_blank hc]
      rfl
  | lineComment | blockComment | stray => rfl

/-- What is wrong with a segment does not depend on its carriage returns. -/
theorem fault?_withoutReturns (s : Segment) : s.withoutReturns.bind fault? = s.fault? := by
  cases s with
  | symbol | word | number | stray => exact Option.bind_some _ _
  | lineComment => rfl
  | string body closed | blockComment body closed => cases closed <;> rfl
  | blank c =>
    by_cases hc : c = '\r'
    · subst hc
      rfl
    · rw [withoutReturns_blank hc]
      rfl

/-- The error of a segment is the same without carriage returns. -/
theorem error?_withoutReturns (s : Segment) (line : Int) :
    (s.withoutReturns.bind fun s' => s'.error? line) = s.error? line := by
  have hfault := fault?_withoutReturns s
  have hfeeds := lineFeeds_withoutReturns s
  cases hs : s.withoutReturns with
  | none =>
    rw [hs, Option.bind_none] at hfault
    rw [Option.bind_none, error?, ← hfault, Option.map_none]
  | some s' =>
    rw [hs, Option.bind_some] at hfault
    rw [hs, Option.map_some, Option.getD_some] at hfeeds
    rw [Option.bind_some, error?, error?, hfault, hfeeds]

end Segment

/-- What is scanned, without carriage returns in strings. -/
def Scan.withoutReturns (s : Scan) : Scan where
  tokens := s.tokens.map Token.withoutReturns
  errors := s.errors

/-- **A scan after joining line ends** finds the same tokens, without carriage returns in strings,
and the same errors. -/
theorem scan_joinLineEnds {source : String} (h : ReturnsPaired source.toList) :
    scan (String.ofList (joinLineEnds source.toList)) = (scan source).withoutReturns := by
  have hsegments : Segment.segments (dropReturns source.toList) =
      (Segment.segments source.toList).filterMap Segment.withoutReturns :=
    ((Segment.segmented_segments source.toList).withoutReturns h).eq_segments.symm
  have hlast : lastLine (dropReturns source.toList) = lastLine source.toList :=
    congrArg (1 + ·) (count_dropReturns source.toList)
  have htokens := Segment.filterMap_withLines_withoutReturns
    (f := fun entry => entry.2.token? entry.1) (g := Token.withoutReturns)
    (Segment.segments source.toList) (fun line s hs => by
      obtain ⟨rest, hmunch⟩ := Segment.munch_of_mem_segments hs
      exact Segment.token?_withoutReturns hmunch line) 1
  have herrors := Segment.filterMap_withLines_withoutReturns
    (f := fun entry => entry.2.error? entry.1) (g := id) (Segment.segments source.toList)
    (fun line s _ => by
      rw [Option.map_id]
      exact Segment.error?_withoutReturns s line) 1
  rw [joinLineEnds_eq_dropReturns h]
  rw [List.map_id] at herrors
  have htokens' : (Scan.ofChars (dropReturns source.toList)).tokens =
      (scan source).tokens.map Token.withoutReturns := by
    simp only [scan, Scan.ofChars, hsegments, hlast, List.map_append]
    exact congrArg (· ++ [Token.endAt (lastLine source.toList)]) htokens
  have herrors' : (Scan.ofChars (dropReturns source.toList)).errors = (scan source).errors := by
    simp only [scan, Scan.ofChars, hsegments]
    exact herrors
  rw [scan, String.toList_ofList, Scan.withoutReturns, ← htokens', ← herrors']

end LoxSyntax
