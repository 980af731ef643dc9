/-
# Sessions that scan again and again

A session may scan its source, get another one and scan again, in any order.  Each scan comes to an
end and finds what a new session finds in the same source; nothing that was there before it counts.
Only the line of the last segment stays where it was if there is no segment to replace it, and no
token and no error depends on it.
-/
import LoxSyntax.Proofs.ScanWalk

namespace LoxSyntax.ScanSession

/-! ## Runs as walks -/

/-- One step, and the session after it. -/
inductive StepWalk : ScanSession → Step → ScanSession → Prop
  | tokenize {s t : ScanSession} (h : TokenizeWalk s t) : StepWalk s .tokenize t
  | replaceSource {s : ScanSession} {source : String} :
      StepWalk s (.replaceSource source) { s with source := source }
  | idle {s : ScanSession} : StepWalk s .idle s

/-- Several steps, and the sessions after each of them. -/
inductive RunWalk : ScanSession → List Step → List ScanSession → Prop
  | nil {s : ScanSession} : RunWalk s [] []
  | cons {s t : ScanSession} {step : Step} {steps : List Step} {trail : List ScanSession}
      (h : StepWalk s step t) (hrest : RunWalk t steps trail) :
      RunWalk s (step :: steps) (t :: trail)

section Walks

variable {s t : ScanSession} {step : Step} {steps : List Step} {trail : List ScanSession}

/-- A step comes to one end only, which is the session after it. -/
theorem stepWalk_iff : StepWalk s step t ↔ t = s.after step := by
  constructor
  · rintro (h | _ | _)
    · exact tokenizeWalk_iff.1 h
    · rfl
    · rfl
  · rintro rfl
    cases step with
    | tokenize => exact .tokenize (tokenizeWalk_iff.2 rfl)
    | replaceSource source => exact .replaceSource
    | idle => exact .idle

/-- **A run comes to one end only**, which are the sessions after its steps. -/
theorem runWalk_iff : RunWalk s steps trail ↔ trail = s.run steps := by
  induction steps generalizing s trail with
  | nil =>
    constructor
    · rintro ⟨⟩
      rfl
    · rintro rfl
      exact .nil
  | cons step steps ih =>
    constructor
    · rintro (_ | ⟨h, hrest⟩)
      obtain rfl := stepWalk_iff.1 h
      rw [ih.1 hrest, run]
    · rintro rfl
      exact .cons (stepWalk_iff.2 rfl) (ih.2 rfl)

end Walks

/-! ## Scans that start afresh -/

/-- A new session. -/
def fresh (source : String) : ScanSession := { source }

/-- The second session is the first one after a scan that finds what a new session finds: the source
has been read to its end, and the last segment starts in it.  The line of that segment is the one
that a new session has if there is a segment, and otherwise the one from before. -/
structure ScansAfresh (s t : ScanSession) : Prop where
  source : t.source = s.source
  tokens : t.tokens = (fresh s.source).tokenize.tokens
  errors : t.errors = (fresh s.source).tokenize.errors
  start : t.start = (fresh s.source).tokenize.start
  current : t.current = (fresh s.source).tokenize.current
  line : t.line = (fresh s.source).tokenize.line
  atEnd : t.current = s.source.length
  startLe : t.start ≤ t.current
  tokenLine : s.source ≠ "" → t.tokenLine = (fresh s.source).tokenize.tokenLine
  tokenLineKept : s.source = "" → t.tokenLine = s.tokenLine

/-- Only an empty text has no last segment. -/
theorem lastSegment?_eq_none_iff {source : List Char} :
    lastSegment? source = none ↔ source = [] := by
  rw [lastSegment?, Option.map_eq_none_iff, List.getLast?_eq_none_iff]
  constructor
  · intro hnone
    have hsegments := Segment.flatMap_text_segments source
    rw [← map_snd_withLines 1 (Segment.segments source), hnone] at hsegments
    exact hsegments.symm
  · rintro rfl
    rw [Segment.segments]
    rfl

/-- The last segment starts in its text. -/
theorem start_le_of_lastSegment? {source : List Char} {start line : Nat}
    (h : lastSegment? source = some (start, line)) : start ≤ source.length := by
  obtain ⟨last, -, hstart⟩ := Option.map_eq_some_iff.1 h
  obtain ⟨rfl, -⟩ := Prod.mk.inj hstart
  exact Nat.sub_le _ _

/-- **A scan starts afresh.** -/
theorem scansAfresh_tokenize (s : ScanSession) : ScansAfresh s s.tokenize := by
  have hempty : lastSegment? s.source.toList = none ↔ s.source = "" := by
    rw [lastSegment?_eq_none_iff, String.toList_eq_nil_iff]
  -- the one thing that a scan takes over is the line of the last segment, if there is none
  cases hlast : lastSegment? s.source.toList with
  | none =>
    have hsource := hempty.1 hlast
    refine ⟨rfl, rfl, rfl, ?_, rfl, rfl, String.length_toList, ?_, fun hne => absurd hsource hne,
      fun _ => ?_⟩ <;> simp only [tokenize, fresh, hlast, Option.getD_none]
    exact Nat.zero_le _
  | some place =>
    obtain ⟨start, line⟩ := place
    have hsource : s.source ≠ "" := fun hsource => by
      rw [hempty.2 hsource] at hlast
      cases hlast
    refine ⟨rfl, rfl, rfl, ?_, rfl, rfl, String.length_toList, ?_, fun _ => ?_,
      fun heq => absurd heq hsource⟩ <;> simp only [tokenize, fresh, hlast, Option.getD_some]
    exact start_le_of_lastSegment? hlast

/-! ## Reused sessions -/

/-- The sessions of a run, the first one included. -/
def states (s : ScanSession) (steps : List Step) : List ScanSession := s :: s.run steps

/-- A run has a session for each step, and the first one. -/
theorem length_states (s : ScanSession) (steps : List Step) :
    (s.states steps).length = steps.length + 1 := by
  rw [states, List.length_cons]
  congr 1
  induction steps generalizing s with
  | nil => rfl
  | cons step steps ih => exact congrArg Nat.succ (ih (s.after step))

/-- From each session of a run to the next one leads the step between them. -/
theorem after_of_states {steps : List Step} (s : ScanSession) :
    ∀ (i : Nat) (step : Step) (t u : ScanSession), steps[i]? = some step →
      (s.states steps)[i]? = some t → (s.states steps)[i + 1]? = some u → u = t.after step := by
  induction steps generalizing s with
  | nil =>
    intro i step t u hstep
    cases hstep
  | cons first steps ih =>
    intro i step t u hstep ht hu
    cases i with
    | zero =>
      cases hstep
      cases ht
      cases hu
      rfl
    | succ i => exact ih (s.after first) i step t u hstep ht hu

/-- **A reused session scans like a new one.**  For every source and all steps, the walk of these
steps comes to one end only, so that every scan ends.  It is the run of the session, and wherever a
scan stands in it, the session behind the scan is the one before it scanned afresh. -/
theorem session_scans_afresh (source : String) (steps : List Step) :
    (∀ trail, RunWalk (fresh source) steps trail ↔ trail = (fresh source).run steps) ∧
      ((fresh source).states steps).length = steps.length + 1 ∧
      ∀ (i : Nat) (s t : ScanSession), steps[i]? = some .tokenize →
        ((fresh source).states steps)[i]? = some s →
          ((fresh source).states steps)[i + 1]? = some t → ScansAfresh s t := by
  refine ⟨fun trail => runWalk_iff, length_states _ steps, fun i s t hstep hs ht => ?_⟩
  obtain rfl := after_of_states (fresh source) i .tokenize s t hstep hs ht
  exact scansAfresh_tokenize s

/-- A session that scans an empty source keeps the line of the last segment from before. -/
theorem session_scans_afresh_empty :
    let steps : List Step := [.tokenize, .replaceSource "", .tokenize]
    let s : ScanSession := (fresh "1\n@").tokenize.replaceSource ""
    steps[2]? = some .tokenize ∧ ((fresh "1\n@").states steps)[2]? = some s ∧
      ((fresh "1\n@").states steps)[3]? = some s.tokenize ∧ ScansAfresh s s.tokenize ∧
      s.current = 3 ∧ s.tokenLine = 2 ∧ s.tokenize.tokenLine = 2 := by
  intro steps s
  have hstep : steps[2]? = some .tokenize := rfl
  have hs : ((fresh "1\n@").states steps)[2]? = some s := rfl
  have ht : ((fresh "1\n@").states steps)[3]? = some s.tokenize := rfl
  have hafresh := (session_scans_afresh "1\n@" steps).2.2 2 s s.tokenize hstep hs ht
  have hline : s.tokenLine = 2 := by decide +kernel
  exact ⟨hstep, hs, ht, hafresh, by decide +kernel, hline, (hafresh.tokenLineKept rfl).trans hline⟩

end LoxSyntax.ScanSession
