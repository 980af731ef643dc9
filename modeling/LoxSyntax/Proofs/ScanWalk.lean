/-
# Scanning with two cursors

The scan of a session once more, character by character.  One cursor stands before the next
character to read and another one at the start of the segment that is being read; characters are
looked up by their place in the source, lines are counted as line feeds are passed, and a loop goes
on as long as its condition holds.  Nothing in this says that a loop ends, or that the cursor stays
in the source.

Yet a scan comes to one end only, and that is the session that `tokenize` gives, whatever the
session held before (`tokenizeWalk_iff`).
-/
import Mathlib.Data.List.TakeDrop
import LoxSyntax.Proofs.JoinedLines
import LoxSyntax.Source.Session

namespace LoxSyntax.ScanSession

open Segment

/-! ## Looking ahead and moving on -/

section Moves

variable (s : ScanSession)

/-- The characters of the source. -/
def chars : List Char := s.source.toList

/-- The cursor stands behind the last character. -/
def isAtEnd : Bool := s.chars.length ≤ s.current

/-- The character ahead.  Behind the last one NUL stands in. -/
def peek : Char := (s.chars[s.current]?).getD '\x00'

/-- The character behind the one ahead. -/
def peekNext : Char := (s.chars[s.current + 1]?).getD '\x00'

/-- The given character is ahead. -/
def sees (c : Char) : Bool := s.chars[s.current]? == some c

/-- The closing mark of a block comment is ahead. -/
def seesClosing : Bool := s.peek == '*' && s.peekNext == '/'

/-- The characters between two places. -/
def slice (i j : Nat) : List Char := (s.chars.take j).drop i

/-- The characters that have been read since the start of the segment. -/
def lexeme : List Char := s.slice s.start s.current

/-- Goes over one character. -/
def pass : ScanSession := { s with current := s.current + 1 }

/-- Goes over one character, and counts a line if it is a line feed. -/
def passCounting : ScanSession :=
  { s with current := s.current + 1, line := if s.peek = '\n' then s.line + 1 else s.line }

/-- A segment starts at the cursor. -/
def startSegment : ScanSession := { s with start := s.current, tokenLine := s.line }

/-- Adds the token that has been read. -/
def addToken (kind : Token.Kind) (literal : Value) : ScanSession :=
  { s with tokens := s.tokens ++ [⟨kind, String.ofList s.lexeme, literal, s.tokenLine⟩] }

/-- Adds an error on the line of the cursor. -/
def report (fault : LexicalFault) : ScanSession :=
  { s with errors := s.errors ++ [fault.at s.line] }

/-- What a scan starts with: all that an earlier one found is forgotten, but for the line of its
last segment. -/
def reset : ScanSession :=
  { s with start := 0, current := 0, line := 1, tokens := [], errors := [] }

end Moves

/-- The number nearest to a numeral, which may have a point. -/
def numeral (lexeme : List Char) : Binary64 :=
  let whole := lexeme.takeWhile isDigit
  .ofDecimal whole (lexeme.drop (whole.length + 1))

/-- Adds the number that has been read, and reports it if it is too large. -/
def addNumber (s : ScanSession) : ScanSession :=
  let x := numeral s.lexeme
  (if x.isInfinite then s.report (.numberTooLarge s.lexeme) else s).addToken .number (.number x)

/-! ## The walk of a scan -/

/-- What a character has the scan do when it stands at the start of a segment. -/
inductive Role where
  | single (kind : Token.Kind)
  | operator (alone withEquals : Token.Kind)
  | slash
  | blank
  | lineFeed
  | quote
  | digit
  | letter
  | stray
  deriving DecidableEq

/-- The role of a character. -/
def role (c : Char) : Role :=
  match Token.singles.lookup c, Token.equalsPairs.lookup c with
  | some kind, _ => .single kind
  | none, some (alone, withEquals) => .operator alone withEquals
  | none, none =>
    if c = '/' then .slash
    else if c = ' ' ∨ c = '\r' ∨ c = '\t' then .blank
    else if c = '\n' then .lineFeed
    else if c = '"' then .quote
    else if isDigit c then .digit
    else if isWordStart c then .letter
    else .stray

/-- A loop goes on with its body as long as its condition holds. -/
inductive LoopWalk (condition : ScanSession → Bool) (body : ScanSession → ScanSession) :
    ScanSession → ScanSession → Prop
  | stop {s : ScanSession} (h : condition s = false) : LoopWalk condition body s s
  | turn {s t : ScanSession} (h : condition s = true)
      (hrest : LoopWalk condition body (body s) t) : LoopWalk condition body s t

/-- Some other character than the given one is ahead. -/
def isBefore (c : Char) (s : ScanSession) : Bool := s.peek != c && ! s.isAtEnd

/-- A point and a digit are ahead. -/
def seesFraction (s : ScanSession) : Bool := s.peek == '.' && isDigit s.peekNext

/-- The digits of a numeral, and a point with more digits if there is one with a digit behind it. -/
inductive NumberWalk : ScanSession → ScanSession → Prop
  | whole {s t : ScanSession} (h : LoopWalk (isDigit ·.peek) pass s t)
      (hf : t.seesFraction = false) : NumberWalk s t
  | decimal {s t u : ScanSession} (h : LoopWalk (isDigit ·.peek) pass s t)
      (hf : t.seesFraction = true) (h' : LoopWalk (isDigit ·.peek) pass t.pass u) : NumberWalk s u

/-- What follows the first character of a segment, by its role. -/
inductive BranchWalk (c : Char) : ScanSession → ScanSession → Prop
  | single {s : ScanSession} {kind : Token.Kind} (hc : role c = .single kind) :
      BranchWalk c s (s.addToken kind .nil)
  | alone {s : ScanSession} {kind withEquals : Token.Kind} (hc : role c = .operator kind withEquals)
      (h : s.sees '=' = false) : BranchWalk c s (s.addToken kind .nil)
  | withEquals {s : ScanSession} {alone kind : Token.Kind} (hc : role c = .operator alone kind)
      (h : s.sees '=' = true) : BranchWalk c s (s.pass.addToken kind .nil)
  | lineComment {s t : ScanSession} (hc : role c = .slash) (h : s.sees '/' = true)
      (hl : LoopWalk (isBefore '\n') pass s.pass t) : BranchWalk c s t
  | comment {s t : ScanSession} (hc : role c = .slash) (h : s.sees '/' = false)
      (h' : s.sees '*' = true)
      (hl : LoopWalk (fun s => ! s.seesClosing && ! s.isAtEnd) passCounting s.pass t)
      (ht : t.seesClosing = true) : BranchWalk c s t.pass.pass
  | openComment {s t : ScanSession} (hc : role c = .slash) (h : s.sees '/' = false)
      (h' : s.sees '*' = true)
      (hl : LoopWalk (fun s => ! s.seesClosing && ! s.isAtEnd) passCounting s.pass t)
      (ht : t.seesClosing = false) : BranchWalk c s (t.report .unterminatedComment)
  | slash {s : ScanSession} (hc : role c = .slash) (h : s.sees '/' = false)
      (h' : s.sees '*' = false) : BranchWalk c s (s.addToken .slash .nil)
  | blank {s : ScanSession} (hc : role c = .blank) : BranchWalk c s s
  | lineFeed {s : ScanSession} (hc : role c = .lineFeed) :
      BranchWalk c s { s with line := s.line + 1 }
  | string {s t : ScanSession} (hc : role c = .quote)
      (hl : LoopWalk (isBefore '"') passCounting s t)
      (ht : t.isAtEnd = false) :
      BranchWalk c s (t.pass.addToken .string
        (.text (String.ofList (t.pass.slice (t.pass.start + 1) (t.pass.current - 1)))))
  | openString {s t : ScanSession} (hc : role c = .quote)
      (hl : LoopWalk (isBefore '"') passCounting s t) (ht : t.isAtEnd = true) :
      BranchWalk c s ((t.report .unterminatedString).addToken .string
        (.text (String.ofList (t.slice (t.start + 1) t.current))))
  | number {s t : ScanSession} (hc : role c = .digit) (h : NumberWalk s t) :
      BranchWalk c s t.addNumber
  | word {s t : ScanSession} (hc : role c = .letter) (hl : LoopWalk (isWordPart ·.peek) pass s t) :
      BranchWalk c s (t.addToken (Token.wordKind t.lexeme) .nil)
  | stray {s : ScanSession} (hc : role c = .stray) : BranchWalk c s (s.report (.unexpected [c]))

/-- One segment is read: its first character is looked up, and decides what follows. -/
inductive SegmentWalk : ScanSession → ScanSession → Prop
  | read {s t : ScanSession} {c : Char} (hc : s.chars[s.current]? = some c)
      (h : BranchWalk c s.startSegment.pass t) : SegmentWalk s t

/-- Segments are read up to the end of the source. -/
inductive SegmentsWalk : ScanSession → ScanSession → Prop
  | atEnd {s : ScanSession} (h : s.isAtEnd = true) : SegmentsWalk s s
  | next {s t u : ScanSession} (h : s.isAtEnd = false) (ht : SegmentWalk s t)
      (hrest : SegmentsWalk t u) : SegmentsWalk s u

/-- A scan reads the segments from the start of the source on, and adds the end of the input. -/
inductive TokenizeWalk : ScanSession → ScanSession → Prop
  | scan {s t : ScanSession} (h : SegmentsWalk s.reset t) :
      TokenizeWalk s { t with tokens := t.tokens ++ [Token.endAt t.line] }

/-! ## One end for each walk -/

section Deterministic

variable {s t t' : ScanSession} {c : Char}

/-- A loop comes to one end only. -/
theorem LoopWalk.deterministic {condition : ScanSession → Bool} {body : ScanSession → ScanSession}
    (h : LoopWalk condition body s t) : ∀ {t'}, LoopWalk condition body s t' → t' = t := by
  induction h with
  | _ =>
    intro t' h'
    cases h' <;> grind

theorem NumberWalk.deterministic (h : NumberWalk s t) (h' : NumberWalk s t') : t' = t := by
  cases h <;> cases h' <;> grind [LoopWalk.deterministic]

/-- A segment comes to one end only, whatever its first character is. -/
theorem BranchWalk.deterministic (h : BranchWalk c s t) (h' : BranchWalk c s t') : t' = t := by
  -- the role of the character and the one behind it decide between the ways to go on
  cases h <;> cases h' <;> grind [LoopWalk.deterministic, NumberWalk.deterministic]

/-- A segment comes to one end only. -/
theorem SegmentWalk.deterministic (h : SegmentWalk s t) (h' : SegmentWalk s t') : t' = t := by
  obtain ⟨hc, h⟩ := h
  obtain ⟨hc', h'⟩ := h'
  rw [hc] at hc'
  cases hc'
  exact h.deterministic h'

/-- All segments together come to one end only. -/
theorem SegmentsWalk.deterministic (h : SegmentsWalk s t) : ∀ {t'}, SegmentsWalk s t' → t' = t := by
  induction h with
  | _ =>
    intro t' h'
    cases h' <;> grind [SegmentWalk.deterministic]

/-- A scan comes to one end only. -/
theorem TokenizeWalk.deterministic (h : TokenizeWalk s t) (h' : TokenizeWalk s t') : t' = t := by
  obtain ⟨h⟩ := h
  obtain ⟨h'⟩ := h'
  rw [h.deterministic h']

end Deterministic

/-! ## The text ahead -/

/-- The characters from the cursor on. -/
def ahead (s : ScanSession) : List Char := s.chars.drop s.current

/-- The session behind some of the text ahead. -/
def past (s : ScanSession) (run : List Char) : ScanSession :=
  { s with current := s.current + run.length, line := s.line + run.count '\n' }

section Ahead

variable {s : ScanSession} {c : Char} {run rest : List Char}

theorem getElem?_current (s : ScanSession) : s.chars[s.current]? = s.ahead.head? :=
  List.head?_drop.symm

theorem peek_eq (s : ScanSession) : s.peek = s.ahead.head?.getD '\x00' := by
  rw [peek, getElem?_current]

theorem peekNext_eq (s : ScanSession) : s.peekNext = s.ahead.tail.head?.getD '\x00' := by
  rw [peekNext, ahead, List.tail_drop, List.head?_drop]

theorem sees_eq (s : ScanSession) (c : Char) : s.sees c = (s.ahead.head? == some c) := by
  rw [sees, getElem?_current]

theorem isAtEnd_eq (s : ScanSession) : s.isAtEnd = s.ahead.isEmpty := by
  rw [isAtEnd, ahead, Bool.eq_iff_iff, List.isEmpty_iff, List.drop_eq_nil_iff, decide_eq_true_iff]

theorem ahead_past (h : s.ahead = run ++ rest) : (s.past run).ahead = rest := by
  change s.chars.drop (s.current + run.length) = rest
  rw [← List.drop_drop]
  change s.ahead.drop run.length = rest
  rw [h, List.drop_left]

theorem past_past (s : ScanSession) (run more : List Char) :
    (s.past run).past more = s.past (run ++ more) := by
  simp only [past, List.length_append, List.count_append, Nat.add_assoc]

theorem pass_eq_past (s : ScanSession) (hc : c ≠ '\n') : s.pass = s.past [c] := by
  rw [pass, past, List.length_singleton, List.count_singleton, if_neg (by simpa using hc)]
  rfl

theorem passCounting_eq_past (h : s.ahead = c :: rest) : s.passCounting = s.past [c] := by
  have hpeek : s.peek = c := by rw [peek_eq, h]; rfl
  rw [passCounting, past, List.length_singleton, List.count_singleton, hpeek]
  split <;> simp_all

/-- The session that has started a segment at the cursor and has read some text of it. -/
def through (s : ScanSession) (run : List Char) : ScanSession := s.startSegment.past run

theorem ahead_through (run : List Char) (h : s.ahead = run ++ rest) :
    (s.through run).ahead = rest :=
  ahead_past (s := s.startSegment) h

theorem sees_through (run : List Char) (h : s.ahead = run ++ rest) (c : Char) :
    (s.through run).sees c = (rest.head? == some c) := by
  rw [sees_eq, ahead_through run h]

theorem past_through (s : ScanSession) (run more : List Char) :
    (s.through run).past more = s.through (run ++ more) := past_past s.startSegment run more

theorem pass_through (s : ScanSession) (run : List Char) (hc : c ≠ '\n') :
    (s.through run).pass = s.through (run ++ [c]) := by
  rw [pass_eq_past _ hc, past_through]

/-- The text that has been read, without some characters at its start. -/
theorem slice_through (h : s.ahead = run ++ rest) (i : Nat) :
    s.slice (s.current + i) (s.current + run.length) = run.drop i := by
  rw [slice, List.drop_take, ← List.drop_drop]
  change (s.ahead.drop i).take _ = _
  rw [h, Nat.add_sub_add_left, ← List.drop_take, List.take_left]

theorem lexeme_through (h : s.ahead = run ++ rest) : (s.through run).lexeme = run :=
  slice_through h 0

end Ahead

/-! ## Loops -/

/-- The condition of a loop that goes over the characters of a class. -/
structure GoesOver (condition : ScanSession → Bool) (body : ScanSession → ScanSession)
    (p : Char → Bool) : Prop where
  condition : ∀ s : ScanSession, condition s = s.ahead.head?.any p
  body : ∀ {s : ScanSession} {c : Char} {rest : List Char}, s.ahead = c :: rest → p c = true →
    body s = s.past [c]

/-- A turn of a loop over a character, and the turns behind it. -/
theorem LoopWalk.turn_past {condition : ScanSession → Bool} {body : ScanSession → ScanSession}
    {s : ScanSession} {c : Char} {run : List Char} (hgoes : condition s = true)
    (hbody : body s = s.past [c])
    (hrest : LoopWalk condition body (s.past [c]) ((s.past [c]).past run)) :
    LoopWalk condition body s (s.past (c :: run)) := by
  rw [past_past, List.singleton_append, ← hbody] at hrest
  exact .turn hgoes hrest

/-- **A loop goes over the longest run of its class.** -/
theorem GoesOver.lands {condition : ScanSession → Bool} {body : ScanSession → ScanSession}
    {p : Char → Bool} (h : GoesOver condition body p) (s : ScanSession) :
    LoopWalk condition body s (s.past (s.ahead.takeWhile p)) := by
  generalize hahead : s.ahead = text
  induction text generalizing s with
  | nil => exact .stop (by rw [h.condition, hahead]; rfl)
  | cons c rest ih =>
    have hcondition := h.condition s
    rw [hahead, List.head?_cons, Option.any_some] at hcondition
    rw [List.takeWhile_cons]
    split
    · rename_i hc
      exact .turn_past (hcondition.trans hc) (h.body hahead hc)
        (ih (s.past [c]) (ahead_past hahead))
    · rename_i hc
      exact .stop (hcondition.trans (Bool.eq_false_iff.2 hc))

/-- The loops over digits and over the characters of words. -/
theorem goesOver_class {p : Char → Bool} (hzero : p '\x00' = false) (hfeed : p '\n' = false) :
    GoesOver (p ·.peek) pass p := by
  refine ⟨fun s => ?_, fun {s c rest} _ hc => ?_⟩
  · rw [peek_eq]
    cases s.ahead with
    | nil => exact hzero
    | cons c rest => rfl
  · refine pass_eq_past s ?_
    rintro rfl
    rw [hfeed] at hc
    cases hc

theorem isBefore_eq (c : Char) (s : ScanSession) : isBefore c s = s.ahead.head?.any (· != c) := by
  rw [isBefore, peek_eq, isAtEnd_eq]
  cases s.ahead <;> simp

theorem goesOver_line : GoesOver (isBefore '\n') pass (· != '\n') :=
  ⟨isBefore_eq '\n', fun {s _ _} _ hc => pass_eq_past s (by simpa using hc)⟩

theorem goesOver_string : GoesOver (isBefore '"') passCounting (· != '"') :=
  ⟨isBefore_eq '"', fun hahead _ => passCounting_eq_past hahead⟩

/-- The closing mark is ahead if the text ahead starts with it. -/
theorem seesClosing_iff {s : ScanSession} :
    s.seesClosing = true ↔ ∃ after, s.ahead = '*' :: '/' :: after := by
  rw [seesClosing, peek_eq, peekNext_eq]
  rcases s.ahead with _ | ⟨c, _ | ⟨d, after⟩⟩ <;> simp

/-- The loop of a block comment stops before the first closing mark, or at the end of the source. -/
theorem comment_lands (s : ScanSession) :
    (∀ body after, splitClosing? s.ahead = some (body, after) →
      LoopWalk (fun s => ! s.seesClosing && ! s.isAtEnd) passCounting s (s.past body) ∧
        (s.past body).ahead = '*' :: '/' :: after) ∧
    (splitClosing? s.ahead = none →
      LoopWalk (fun s => ! s.seesClosing && ! s.isAtEnd) passCounting s (s.past s.ahead)) := by
  generalize hahead : s.ahead = text
  fun_induction splitClosing? text generalizing s with
  | case1 =>
    refine ⟨by simp, fun _ => .stop ?_⟩
    rw [isAtEnd_eq, hahead]
    simp
  | case2 after =>
    refine ⟨?_, by simp⟩
    rintro _ _ ⟨⟩
    refine ⟨.stop ?_, hahead⟩
    rw [seesClosing_iff.2 ⟨after, hahead⟩]
    rfl
  | case3 c rest hother ih =>
    have hgoes : (! s.seesClosing && ! s.isAtEnd) = true := by
      have hclosing : s.seesClosing = false := by
        rw [Bool.eq_false_iff, Ne, seesClosing_iff, hahead]
        rintro ⟨after, hafter⟩
        cases hafter
        exact hother after rfl rfl
      rw [hclosing, isAtEnd_eq, hahead]
      rfl
    have hpass := passCounting_eq_past hahead
    obtain ⟨hsome, hnone⟩ := ih (s.past [c]) (ahead_past hahead)
    refine ⟨fun body after hsplit => ?_, fun hsplit => ?_⟩
    · obtain ⟨⟨tail, last⟩, htail, hsame⟩ := Option.map_eq_some_iff.1 hsplit
      simp only [Prod.mk.injEq] at hsame
      obtain ⟨rfl, rfl⟩ := hsame
      obtain ⟨hloop, hlast⟩ := hsome tail last htail
      rw [past_past] at hlast
      exact ⟨.turn_past hgoes hpass hloop, hlast⟩
    · exact .turn_past hgoes hpass (hnone (Option.map_eq_none_iff.1 hsplit))

/-! ## Segments -/

/-- The session behind a segment at the cursor. -/
def behind (s : ScanSession) (seg : Segment) : ScanSession :=
  { source := s.source
    start := s.current
    tokenLine := s.line
    current := s.current + seg.text.length
    line := s.line + seg.lineFeeds
    tokens := s.tokens ++ (seg.token? s.line).toList
    errors := s.errors ++ (seg.error? s.line).toList }

section Behind

variable {s : ScanSession} (seg : Segment) {after : List Char} {kind : Token.Kind}
  {fault : LexicalFault}

/-- A segment that makes neither a token nor an error is read. -/
theorem through_eq_behind (hkind : seg.kind? = none) (hfault : seg.fault? = none) :
    s.through seg.text = s.behind seg := by
  simp [through, past, startSegment, behind, lineFeeds, token?, error?, hkind, hfault]

/-- A segment that makes a token is read, and then its token is added. -/
theorem addToken_eq_behind (h : s.ahead = seg.text ++ after) (hkind : seg.kind? = some kind)
    (hfault : seg.fault? = none) :
    (s.through seg.text).addToken kind seg.literal = s.behind seg := by
  rw [addToken, lexeme_through h]
  simp [through, past, startSegment, behind, lineFeeds, token?, error?, hkind, hfault]

/-- A segment that is at fault is read, and then the fault is reported. -/
theorem report_eq_behind (hkind : seg.kind? = none) (hfault : seg.fault? = some fault) :
    (s.through seg.text).report fault = s.behind seg := by
  simp [report, through, past, startSegment, behind, lineFeeds, token?, error?, hkind, hfault]

/-- A segment that makes a token and is at fault is read, and then both are added. -/
theorem report_addToken_eq_behind (h : s.ahead = seg.text ++ after) (hkind : seg.kind? = some kind)
    (hfault : seg.fault? = some fault) :
    ((s.through seg.text).report fault).addToken kind seg.literal = s.behind seg := by
  have hlexeme : ((s.through seg.text).report fault).lexeme = seg.text := lexeme_through h
  rw [addToken, hlexeme]
  simp [report, through, past, startSegment, behind, lineFeeds, token?, error?, hkind, hfault]

end Behind

/-! ## Roles -/

/-- The first segment of a text, by the role of its first character. -/
def firstOf (c : Char) (rest : List Char) : Role → Segment × List Char
  | .single kind => (symbol kind [c], rest)
  | .operator alone withEquals => firstOperator c alone withEquals rest
  | .slash => firstSlash rest
  | .blank | .lineFeed => (blank c, rest)
  | .quote => firstString rest
  | .digit => firstNumber c rest
  | .letter => (word (c :: rest.takeWhile isWordPart), rest.dropWhile isWordPart)
  | .stray => (stray c, rest)

/-- The role of the first character tells the first segment. -/
theorem first_eq_firstOf (c : Char) (rest : List Char) :
    first c rest = firstOf c rest (role c) := by
  have hspacing : isSpacing c = true ↔ (c = ' ' ∨ c = '\r' ∨ c = '\t') ∨ c = '\n' := by
    rw [isSpacing_iff, or_assoc, or_assoc]
  unfold first role
  cases Token.singles.lookup c with
  | some kind => rfl
  | none =>
    cases Token.equalsPairs.lookup c with
    | some kinds => rfl
    | none =>
      simp only [hspacing]
      split_ifs <;> grind [firstOf]

section Roles

variable {s : ScanSession} {c : Char} {rest : List Char} {kind alone withEquals : Token.Kind}

/-- What a role tells of its character. -/
theorem cases_of_role (c : Char) :
    (role c = .slash → c = '/') ∧ (role c = .lineFeed → c = '\n') ∧ (role c = .quote → c = '"') ∧
      (role c = .digit → isDigit c = true) := by
  unfold role
  split
  · simp
  · simp
  · split_ifs <;> simp_all

theorem pass_startSegment (s : ScanSession) {r : Role} (hc : role c = r) (hr : r ≠ .lineFeed) :
    s.startSegment.pass = s.through [c] := by
  refine pass_eq_past s.startSegment ?_
  rintro rfl
  exact hr (hc.symm.trans (by decide))

theorem sees_through_eq_false (run : List Char) (h : s.ahead = run ++ rest)
    (hc : ∀ others, rest = c :: others → False) : (s.through run).sees c = false := by
  rw [sees_through run h, beq_eq_false_iff_ne, Ne, List.head?_eq_some_iff]
  rintro ⟨others, hrest⟩
  exact hc others hrest

/-- A character with a token of its own is walked as it is read. -/
theorem single_lands (h : s.ahead = c :: rest) (hc : role c = .single kind) :
    BranchWalk c s.startSegment.pass (s.behind (symbol kind [c])) := by
  rw [pass_startSegment s hc (by simp),
    ← addToken_eq_behind (symbol kind [c]) h rfl rfl]
  exact .single hc

/-- An operator is walked as it is read. -/
theorem operator_lands (h : s.ahead = c :: rest) (hc : role c = .operator alone withEquals) :
    BranchWalk c s.startSegment.pass (s.behind (firstOperator c alone withEquals rest).1) := by
  rw [pass_startSegment s hc (by simp)]
  unfold firstOperator
  split
  · have hwalk := BranchWalk.withEquals hc (sees_through [c] h '=')
    rw [pass_through (c := '=') s [c] (by decide)] at hwalk
    rwa [← addToken_eq_behind (symbol withEquals [c, '=']) h rfl rfl]
  · rename_i hequals
    rw [← addToken_eq_behind (symbol alone [c]) h rfl rfl]
    exact .alone hc (sees_through_eq_false [c] h hequals)

/-- A block comment is walked as it is read. -/
theorem blockComment_lands (h : s.ahead = '/' :: '*' :: rest) :
    BranchWalk '/' (s.through ['/']) (s.behind (firstBlockComment rest).1) := by
  have hrole : role '/' = .slash := by decide
  have hline := sees_through ['/'] h '/'
  have hblock := sees_through ['/'] h '*'
  have hpass : (s.through ['/']).pass = s.through ['/', '*'] := pass_through s _ (by decide)
  have hrest : (s.through ['/', '*']).ahead = rest := ahead_through _ h
  obtain ⟨hsome, hnone⟩ := comment_lands (s.through ['/', '*'])
  rw [hrest, ← hpass] at hsome hnone
  unfold firstBlockComment
  cases hsplit : splitClosing? rest with
  | some found =>
    obtain ⟨body, after⟩ := found
    obtain ⟨hloop, hafter⟩ := hsome body after hsplit
    have hwalk := BranchWalk.comment hrole hline hblock hloop (seesClosing_iff.2 ⟨after, hafter⟩)
    rw [hpass, past_through, pass_through (c := '*') s _ (by decide),
      pass_through (c := '/') s _ (by decide)] at hwalk
    rw [← through_eq_behind (blockComment body true) rfl rfl]
    simpa [text] using hwalk
  | none =>
    have hloop := hnone hsplit
    have hend : (s.through ('/' :: '*' :: rest)).ahead = [] := ahead_through _ (by simpa using h)
    rw [hpass, past_through] at hloop
    have hopen : (s.through ('/' :: '*' :: rest)).seesClosing = false := by
      rw [Bool.eq_false_iff, Ne, seesClosing_iff, hend]
      simp
    rw [← report_eq_behind (blockComment rest false) rfl rfl]
    rw [← hpass] at hloop
    simpa [text] using BranchWalk.openComment hrole hline hblock hloop hopen

/-- What a slash starts is walked as it is read. -/
theorem slash_lands (h : s.ahead = '/' :: rest) :
    BranchWalk '/' s.startSegment.pass (s.behind (firstSlash rest).1) := by
  have hrole : role '/' = .slash := by decide
  rw [pass_startSegment s hrole (by simp)]
  unfold firstSlash
  split
  · have hpass : (s.through ['/']).pass = s.through ['/', '/'] := pass_through s _ (by decide)
    have hloop := goesOver_line.lands (s.through ['/', '/'])
    rw [ahead_through ['/', '/'] h, past_through, ← hpass] at hloop
    rw [← through_eq_behind (lineComment _) rfl rfl]
    exact .lineComment hrole (sees_through ['/'] h '/') hloop
  · exact blockComment_lands h
  · rename_i hline hblock
    rw [← addToken_eq_behind (symbol .slash ['/']) h rfl rfl]
    exact .slash hrole (sees_through_eq_false ['/'] h hline)
      (sees_through_eq_false ['/'] h hblock)

/-- The body of a string stands behind its opening quote, up to the cursor or to the closing quote
that has been passed. -/
theorem slice_body {body : List Char} (h : s.ahead = ('"' :: body) ++ rest) :
    let t := s.through ('"' :: body)
    t.slice (t.start + 1) t.current = body ∧
      t.pass.slice (t.pass.start + 1) (t.pass.current - 1) = body :=
  ⟨slice_through h 1, slice_through h 1⟩

/-- A string is walked as it is read. -/
theorem string_lands (h : s.ahead = '"' :: rest) :
    BranchWalk '"' s.startSegment.pass (s.behind (firstString rest).1) := by
  have hrole : role '"' = .quote := by decide
  have hloop := goesOver_string.lands (s.through ['"'])
  have hsplit : s.ahead = ('"' :: rest.takeWhile (· != '"')) ++ rest.dropWhile (· != '"') := by
    rw [List.cons_append, List.takeWhile_append_dropWhile, h]
  have htext := text_firstString rest
  rw [ahead_through ['"'] h, past_through, List.singleton_append] at hloop
  rw [← h] at htext
  obtain ⟨hopen, hclosed⟩ := slice_body hsplit
  have hend := isAtEnd_eq (s.through ('"' :: rest.takeWhile (· != '"')))
  rw [ahead_through _ hsplit] at hend
  rw [pass_startSegment s hrole (by simp)]
  unfold firstString at htext ⊢
  split <;> rename_i hafter <;> rw [hafter] at hend htext
  · have hwalk := BranchWalk.openString hrole hloop hend
    rw [hopen] at hwalk
    rw [← report_addToken_eq_behind _ htext.symm rfl rfl]
    simpa [text, literal] using hwalk
  · have hwalk := BranchWalk.string hrole hloop hend
    rw [hclosed, pass_through (c := '"') s _ (by decide)] at hwalk
    rwa [← addToken_eq_behind _ htext.symm rfl rfl]

/-- The number of a numeral is the one nearest to it. -/
theorem numeral_text {whole fraction : List Char} (hw : ∀ d ∈ whole, isDigit d = true) :
    numeral (number whole fraction).text = .ofDecimal whole fraction := by
  have hwhole : (number whole fraction).text.takeWhile isDigit = whole := by
    rw [text_number]
    exact takeWhile_run hw fun _ => isDigit_of_head?_fraction fraction
  have hfraction : (number whole fraction).text.drop (whole.length + 1) = fraction := by
    rw [text_number, List.drop_length_add_append]
    split
    · rename_i hnil
      rw [hnil]
      rfl
    · rfl
  simp only [numeral, hwhole, hfraction]

/-- A numeral is read, and then its number is added. -/
theorem addNumber_eq_behind {whole fraction after : List Char}
    (h : s.ahead = (number whole fraction).text ++ after) (hw : ∀ d ∈ whole, isDigit d = true) :
    (s.through (number whole fraction).text).addNumber = s.behind (number whole fraction) := by
  simp only [addNumber, lexeme_through h, numeral_text hw]
  split
  · rename_i hinfinite
    exact report_addToken_eq_behind _ h rfl (if_pos hinfinite)
  · rename_i hfinite
    exact addToken_eq_behind _ h rfl (if_neg hfinite)

theorem goesOver_digits : GoesOver (isDigit ·.peek) pass isDigit :=
  goesOver_class (by decide) (by decide)

/-- A point and a digit are ahead if the text ahead starts with them. -/
theorem seesFraction_iff : s.seesFraction = true ↔
    ∃ next after, s.ahead = '.' :: next :: after ∧ isDigit next = true := by
  have hzero : isDigit '\x00' = false := by decide
  rw [seesFraction, peek_eq, peekNext_eq]
  rcases s.ahead with _ | ⟨c, _ | ⟨d, after⟩⟩ <;> simp [hzero]

/-- A numeral is walked as it is read. -/
theorem number_lands (h : s.ahead = c :: rest) (hc : role c = .digit) :
    BranchWalk c s.startSegment.pass (s.behind (firstNumber c rest).1) := by
  have hw : ∀ d ∈ c :: rest.takeWhile isDigit, isDigit d = true :=
    List.forall_mem_cons.2 ⟨(cases_of_role c).2.2.2 hc, fun d => List.mem_takeWhile_imp⟩
  have hloop := goesOver_digits.lands (s.through [c])
  rw [ahead_through [c] h, past_through, List.singleton_append] at hloop
  have hsplit : s.ahead = (c :: rest.takeWhile isDigit) ++ rest.dropWhile isDigit := by
    rw [List.cons_append, List.takeWhile_append_dropWhile, h]
  have hahead := ahead_through _ hsplit
  have htext := text_firstNumber c rest
  rw [← h] at htext
  rw [pass_startSegment s hc (by simp)]
  rcases firstNumber_cases c rest with ⟨next, after, htail, hnext, hfirst⟩ | ⟨hpoint, hfirst⟩ <;>
    rw [hfirst] at htext ⊢ <;> rw [← addNumber_eq_behind htext.symm hw]
  · rw [htail] at hahead hsplit
    have hpass := pass_through (c := '.') s (c :: rest.takeWhile isDigit) (by decide)
    have hloop' := goesOver_digits.lands (s.through (c :: rest.takeWhile isDigit)).pass
    rw [hpass, ahead_through _ (by simpa using hsplit), past_through, ← hpass] at hloop'
    have hwalk := NumberWalk.decimal hloop (seesFraction_iff.2 ⟨next, after, hahead, hnext⟩) hloop'
    rw [text_number, if_neg (by simp [List.takeWhile_cons_of_pos hnext])]
    simpa using BranchWalk.number hc hwalk
  · have hstop : (s.through (c :: rest.takeWhile isDigit)).seesFraction = false := by
      rw [Bool.eq_false_iff, Ne, seesFraction_iff, hahead]
      rintro ⟨next, after, htail, hnext⟩
      rw [hpoint next after htail] at hnext
      cases hnext
    exact .number hc (.whole hloop hstop)

/-- A word is walked as it is read. -/
theorem word_lands (h : s.ahead = c :: rest) (hc : role c = .letter) :
    BranchWalk c s.startSegment.pass (s.behind (word (c :: rest.takeWhile isWordPart))) := by
  have hsplit : s.ahead = (c :: rest.takeWhile isWordPart) ++ rest.dropWhile isWordPart := by
    rw [List.cons_append, List.takeWhile_append_dropWhile, h]
  have hloop := (goesOver_class (p := isWordPart) (by decide) (by decide)).lands (s.through [c])
  rw [ahead_through [c] h, past_through, List.singleton_append] at hloop
  have hwalk := BranchWalk.word hc hloop
  rw [lexeme_through hsplit] at hwalk
  rw [pass_startSegment s hc (by simp), ← addToken_eq_behind _ hsplit rfl rfl]
  exact hwalk

/-- A character that starts nothing is walked as it is read. -/
theorem stray_lands (hc : role c = .stray) :
    BranchWalk c s.startSegment.pass (s.behind (stray c)) := by
  rw [pass_startSegment s hc (by simp), ← report_eq_behind (stray c) rfl rfl]
  exact .stray hc

/-- A blank is walked as it is read. -/
theorem blank_lands (hc : role c = .blank ∨ role c = .lineFeed) :
    BranchWalk c s.startSegment.pass (s.behind (blank c)) := by
  rw [← through_eq_behind (blank c) rfl rfl]
  rcases hc with hc | hc
  · rw [pass_startSegment s hc (by simp)]
    exact .blank hc
  · obtain rfl := (cases_of_role c).2.1 hc
    exact .lineFeed hc

/-- **What a character starts is walked as it is read.** -/
theorem first_lands (h : s.ahead = c :: rest) :
    BranchWalk c s.startSegment.pass (s.behind (first c rest).1) := by
  rw [first_eq_firstOf]
  cases hc : role c with
  | single kind => exact single_lands h hc
  | operator alone withEquals => exact operator_lands h hc
  | slash =>
    obtain rfl := (cases_of_role c).1 hc
    exact slash_lands h
  | blank => exact blank_lands (Or.inl hc)
  | lineFeed => exact blank_lands (Or.inr hc)
  | quote =>
    obtain rfl := (cases_of_role c).2.2.1 hc
    exact string_lands h
  | digit => exact number_lands h hc
  | letter => exact word_lands h hc
  | stray => exact stray_lands hc

end Roles

/-! ## Whole scans -/

section Scans

variable {s t : ScanSession} {c : Char} {rest : List Char}

/-- Behind the first segment the text that it leaves is ahead. -/
theorem ahead_behind (h : s.ahead = c :: rest) :
    (s.behind (first c rest).1).ahead = (first c rest).2 := by
  rw [← text_first] at h
  exact ahead_through _ h

/-- **The segments of the text ahead are walked as they are read**, from every place in it. -/
theorem segments_land (s : ScanSession) : SegmentsWalk s ((segments s.ahead).foldl behind s) := by
  generalize hahead : s.ahead = text
  fun_induction segments text generalizing s with
  | case1 => exact .atEnd (by rw [isAtEnd_eq, hahead]; rfl)
  | case2 c rest ih =>
    have hc : s.chars[s.current]? = some c := by rw [getElem?_current, hahead]; rfl
    have hinside : s.isAtEnd = false := by rw [isAtEnd_eq, hahead]; rfl
    exact .next hinside (.read hc (first_lands hahead)) (ih _ (ahead_behind hahead))

/-- What a session holds behind some segments, but for the place of the last one. -/
theorem foldl_behind (s : ScanSession) (segs : List Segment) :
    let t := segs.foldl behind s
    t.source = s.source ∧ t.current = s.current + (segs.flatMap text).length ∧
      t.line = s.line + (segs.flatMap text).count '\n' ∧
      t.tokens = s.tokens ++ (withLines s.line segs).filterMap (fun e => e.2.token? e.1) ∧
      t.errors = s.errors ++ (withLines s.line segs).filterMap (fun e => e.2.error? e.1) := by
  induction segs generalizing s with
  | nil => simp [withLines]
  | cons seg segs ih =>
    obtain ⟨hsource, hcurrent, hline, htokens, herrors⟩ := ih (s.behind seg)
    refine ⟨hsource, ?_, ?_, ?_, ?_⟩
    · rw [List.foldl_cons, hcurrent, List.flatMap_cons, List.length_append, ← Nat.add_assoc]
      rfl
    · rw [List.foldl_cons, hline, List.flatMap_cons, List.count_append, ← Nat.add_assoc]
      rfl
    · rw [List.foldl_cons, htokens, withLines, List.filterMap_cons]
      cases htoken : seg.token? s.line <;> simp [behind, htoken]
    · rw [List.foldl_cons, herrors, withLines, List.filterMap_cons]
      cases herror : seg.error? s.line <;> simp [behind, herror]

/-- The place of the last segment, and its line. -/
theorem last_foldl_behind (s : ScanSession) (segs : List Segment) :
    let t := segs.foldl behind s
    (t.start, t.tokenLine) = ((withLines s.line segs).getLast?.map fun e =>
      (t.current - e.2.text.length, e.1)).getD (s.start, s.tokenLine) := by
  rcases List.eq_nil_or_concat segs with rfl | ⟨before, last, rfl⟩
  · rfl
  · obtain ⟨-, -, hline, -⟩ := foldl_behind s before
    rw [List.concat_eq_append, withLines_append, List.foldl_append]
    simp [withLines, behind, hline]

/-- **A scan is the reading of all segments from the start**, and then the end of the input. -/
theorem tokenize_eq (s : ScanSession) :
    let t := (segments s.chars).foldl behind s.reset
    s.tokenize = { t with tokens := t.tokens ++ [Token.endAt t.line] } := by
  have hlast := last_foldl_behind s.reset (segments s.chars)
  obtain ⟨hsource, hcurrent, hline, htokens, herrors⟩ := foldl_behind s.reset (segments s.chars)
  rw [flatMap_text_segments] at hcurrent hline
  generalize (segments s.chars).foldl behind s.reset = t at *
  obtain ⟨source, start, current, line, tokenLine, tokens, errors⟩ := t
  simp only [reset, Nat.zero_add, List.nil_append] at *
  subst hsource hcurrent hline htokens herrors
  simp only [tokenize, lastSegment?, Scan.ofChars, lastLine, chars] at *
  rw [← hlast]

/-- **A scan comes to one end, which is the session that is given**, whatever the session held. -/
theorem tokenizeWalk_iff : TokenizeWalk s t ↔ t = s.tokenize := by
  have hwalk := TokenizeWalk.scan (segments_land s.reset)
  rw [show s.reset.ahead = s.chars from List.drop_zero, ← tokenize_eq] at hwalk
  constructor
  · exact hwalk.deterministic
  · rintro rfl
    exact hwalk

end Scans

end LoxSyntax.ScanSession
