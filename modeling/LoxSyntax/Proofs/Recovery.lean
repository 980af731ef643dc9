/-
# Where reading goes on after an error

Positions count the tokens of an input from its start.  After an error reading goes on at the first
position behind the token at fault where a statement may start, with one exception: a token that
nests too deep has been read already when it is found at fault, and recovery passes over the token
behind it too, even if a statement starts with that one.
-/
import Mathlib.Order.Bounds.Basic
import LoxSyntax.Parsing.Session
import LoxSyntax.Proofs.Statements

namespace LoxSyntax.Grammar

open Parsing

variable {tokens rest behind before : List Token} {t u : Token} {f : Failure} {p q : Nat}

/-! ## Positions -/

/-- The position of the token in front of what is left of the tokens. -/
def position (tokens rest : List Token) : Nat := tokens.length - rest.length

theorem position_append (before rest : List Token) :
    position (before ++ rest) rest = before.length := by
  rw [position, List.length_append, Nat.add_sub_cancel]

/-- Less is left at the next position. -/
theorem position_tail (h : t :: rest <:+ tokens) :
    position tokens rest = position tokens (t :: rest) + 1 := by
  obtain ⟨before, rfl⟩ := h
  rw [position_append]
  simp [position]
  omega

theorem getElem?_position (h : rest <:+ tokens) : tokens[position tokens rest]? = rest.head? := by
  obtain ⟨before, rfl⟩ := h
  rw [position_append, List.getElem?_append_right (Nat.le_refl _), Nat.sub_self,
    List.head?_eq_getElem?]

/-- Reading may go on at a position: behind a semicolon, before a word that opens a statement, or at
the end of the tokens. -/
def IsResumption (tokens : List Token) (q : Nat) : Prop :=
  (∃ t, tokens[q - 1]? = some t ∧ t.kind = .semicolon) ∨
    (∃ t, tokens[q]? = some t ∧ t.kind ∈ statementStarts) ∨ q = tokens.length

/-- The position is the first one behind another at which reading may go on. -/
def ResumesBehind (tokens : List Token) (p q : Nat) : Prop :=
  IsLeast {q | p < q ∧ IsResumption tokens q} q

/-- A position where reading may not go on does not count. -/
theorem ResumesBehind.of_succ (h : ResumesBehind tokens (p + 1) q)
    (hnot : ¬ IsResumption tokens (p + 1)) : ResumesBehind tokens p q := by
  obtain ⟨⟨hlt, hq⟩, hleast⟩ := h
  refine ⟨⟨Nat.lt_of_succ_lt hlt, hq⟩, ?_⟩
  rintro r ⟨hr, hresume⟩
  have hne : r ≠ p + 1 := by
    rintro rfl
    exact hnot hresume
  exact hleast ⟨by omega, hresume⟩

/-- Where reading may go on, it does. -/
theorem resumesBehind_succ (h : IsResumption tokens (p + 1)) :
    ResumesBehind tokens p (p + 1) :=
  ⟨⟨Nat.lt_succ_self p, h⟩, fun _ hr => hr.1⟩

/-! ## Recovery -/

/-- Between two tokens reading may go on exactly at a boundary. -/
theorem isResumption_iff_isBoundary (h : t :: u :: rest <:+ tokens) :
    IsResumption tokens (position tokens (u :: rest)) ↔ isBoundary t u = true := by
  have hu := getElem?_position ((List.suffix_cons t (u :: rest)).trans h)
  have ht := getElem?_position h
  have hnext := position_tail h
  have hend : position tokens (u :: rest) ≠ tokens.length := by
    intro hend
    rw [hend, List.getElem?_length] at hu
    cases hu
  rw [IsResumption, hu, hnext, Nat.add_sub_cancel, ht, ← hnext]
  simp [isBoundary, hend]

/-- **Recovery stops at the first place** behind the token before it. -/
theorem skipFrom_resumes (h : t :: rest <:+ tokens) :
    ResumesBehind tokens (position tokens (t :: rest)) (position tokens (skipFrom t rest)) := by
  induction rest generalizing t with
  | nil =>
    have hnext := position_tail h
    have hend : position tokens [] = tokens.length := rfl
    rw [skipFrom, hnext]
    exact resumesBehind_succ (Or.inr (Or.inr (by rw [← hnext, hend])))
  | cons u others ih =>
    have hnext := position_tail h
    have hboundary := isResumption_iff_isBoundary h
    rw [hnext] at hboundary
    rw [skipFrom]
    split
    · rename_i hb
      rw [hnext]
      exact resumesBehind_succ (hboundary.2 hb)
    · rename_i hb
      have hrest := ih ((List.suffix_cons t (u :: others)).trans h)
      rw [hnext] at hrest
      exact hrest.of_succ (fun hresume => hb (hboundary.1 hresume))

/-- Behind a token that starts no statement and ends none, recovery may pass over one token more
without losing a place. -/
theorem synchronize_resumes (h : t :: rest <:+ tokens) (hk : t.kind ≠ .semicolon) :
    ResumesBehind tokens (position tokens (t :: rest)) (position tokens (synchronize rest)) ↔
      ¬ ∃ u, tokens[position tokens (t :: rest) + 1]? = some u ∧ u.kind ∈ statementStarts := by
  have hnext := position_tail h
  cases rest with
  | nil =>
    -- at the end of the tokens there is nothing to pass over
    have hskip := skipFrom_resumes h
    have hend := getElem?_position ((List.suffix_cons t []).trans h)
    rw [← hnext, hend]
    simpa [skipFrom, synchronize] using hskip
  | cons u others =>
    have hu := getElem?_position ((List.suffix_cons t (u :: others)).trans h)
    have hboundary := isResumption_iff_isBoundary h
    have hskip := skipFrom_resumes ((List.suffix_cons t (u :: others)).trans h)
    rw [hnext] at hboundary hu hskip
    have hstart : isBoundary t u = true ↔ u.kind ∈ statementStarts := by
      simp [isBoundary, hk]
    simp only [hu, List.head?_cons, Option.some.injEq, exists_eq_left', synchronize]
    rw [← hstart, ← hboundary]
    constructor
    · rintro hresumes hlost
      have hlate := hresumes.2 ⟨Nat.lt_succ_self _, hlost⟩
      have hbehind := hskip.1.1
      omega
    · exact hskip.of_succ

/-! ## Failures -/

/-- A token that nests too deep goes on with an expression under a wider limit, and so it is no
semicolon. -/
theorem found_of_tooDeep (h : expression.run tokens = .error f) (hf : f.fault = .tooDeep) :
    ∃ t behind, f.found = t :: behind ∧ t.kind ≠ .semicolon := by
  obtain ⟨used, rfl, hblames⟩ := expression_fails maxNesting tokens f h
  obtain ⟨t, ht, m, hm⟩ := hblames.deeper hf
  obtain ⟨behind, hfound⟩ := List.head?_eq_some_iff.1 ht
  refine ⟨t, behind, hfound, fun hk => hm.not_mem_strangers t (by simp) ?_⟩
  rw [hk]
  decide

/-- A semicolon may be missing from what was left. -/
theorem dropSemicolon_suffix (tokens : List Token) : dropSemicolon tokens <:+ tokens := by
  cases tokens with
  | nil => exact List.suffix_rfl
  | cons t rest =>
    rw [dropSemicolon]
    split
    · exact List.suffix_cons t rest
    · exact List.suffix_rfl

/-- What follows a failed attempt to read an expression or a statement: recovery goes on from the
failure, which lies inside of the tokens and nests too deep only where an expression does. -/
structure Recovers (tokens : List Token) (f : Failure) (rest : List Token) : Prop where
  rest : rest = synchronize f.rest
  found : f.found <:+ tokens
  tooDeep : f.fault = .tooDeep → expression.run tokens = .error f

/-- Reading to the end recovers from every failure. -/
theorem recovers_of_complete (h : (complete tokens).1 = .error f) :
    Recovers tokens f (complete tokens).2 := by
  simp only [complete] at h ⊢
  split at h <;> rename_i hrun
  · cases h
    exact ⟨rfl, expression.found_suffix hrun, fun _ => hrun⟩
  · split at h <;> rename_i hrest
    · cases h
    · cases h
      refine ⟨rfl, ?_, fun hf => by cases hf⟩
      rw [← hrest]
      exact (dropSemicolon_suffix _).trans (expression.rest_suffix hrun).suffix

/-- A statement recovers from every failure. -/
theorem recovers_of_statement (h : (statement tokens).1 = .error f) :
    Recovers tokens f (statement tokens).2 := by
  simp only [statement] at h ⊢
  split at h <;> rename_i hrun
  · cases h
    exact ⟨rfl, expression.found_suffix hrun, fun _ => hrun⟩
  · split at h <;> rename_i hsemicolon
    · cases h
      rw [expect_error hsemicolon]
      exact ⟨rfl, (expression.rest_suffix hrun).suffix, fun hf => by cases hf⟩
    · cases h

/-- The failure is a token that nests too deep, and a statement starts right behind it. -/
def LosesStart (tokens : List Token) (f : Failure) : Prop :=
  f.fault = .tooDeep ∧
    ∃ u, tokens[position tokens f.found + 1]? = some u ∧ u.kind ∈ statementStarts

/-- Reading goes on at the first place behind a failure, unless the start of a statement is lost. -/
theorem Recovers.resumes_iff {left : List Token} (h : Recovers left f rest)
    (hleft : left <:+ tokens) (hfound : f.found ≠ []) :
    ResumesBehind tokens (position tokens f.found) (position tokens rest) ↔
      ¬ LosesStart tokens f := by
  have hinside : f.found <:+ tokens := h.found.trans hleft
  rw [h.rest, LosesStart]
  by_cases hf : f.fault = .tooDeep
  · obtain ⟨t, behind, hcons, hk⟩ := found_of_tooDeep (h.tooDeep hf) hf
    rw [hcons] at hinside ⊢
    simp only [Failure.rest, hf, hcons, List.tail_cons, true_and]
    exact synchronize_resumes hinside hk
  · obtain ⟨t, behind, hcons⟩ := List.exists_cons_of_ne_nil hfound
    have hrest : f.rest = t :: behind := by
      rw [← hcons, Failure.rest]
      split
      · rename_i hdeep
        exact absurd hdeep hf
      · rfl
    rw [hcons] at hinside ⊢
    rw [hrest]
    exact iff_of_true (skipFrom_resumes hinside) (fun hlost => hf hlost.1)

/-- If the start of a statement is lost, then reading goes on at the first place behind that. -/
theorem Recovers.resumes_of_losesStart {left : List Token} (h : Recovers left f rest)
    (hleft : left <:+ tokens) (hlost : LosesStart tokens f) :
    ResumesBehind tokens (position tokens f.found + 1) (position tokens rest) := by
  obtain ⟨hf, u, hu, -⟩ := hlost
  obtain ⟨t, behind, hcons, -⟩ := found_of_tooDeep (h.tooDeep hf) hf
  have hinside : t :: behind <:+ tokens := hcons ▸ h.found.trans hleft
  have hbehind : behind <:+ tokens := (List.suffix_cons t behind).trans hinside
  rw [hcons, ← position_tail hinside] at hu
  rw [h.rest, hcons, ← position_tail hinside, Failure.rest, hf, hcons, List.tail_cons]
  rw [getElem?_position hbehind] at hu
  obtain ⟨others, rfl⟩ := List.head?_eq_some_iff.1 hu
  exact skipFrom_resumes hbehind

/-- **Where reading goes on after an error.**  A failure inside of the tokens names one of them, and
after it reading goes on at the first position behind this token that lies behind a semicolon,
before a word that opens a statement, or at the end; but if the token nests too deep and a statement
starts right behind it, then that start is passed over, and reading goes on at the next such
position. -/
theorem resumes_iff_not_losesStart (tokens : List Token) {left : List Token}
    (hleft : left <:+ (Input.ofTokens tokens).tokens)
    {attempt : List Token → Outcome × List Token} (ha : attempt ∈ [complete, statement])
    {f : Failure} (hfail : (attempt left).1 = .error f) (hfound : f.found ≠ []) :
    let input := Input.ofTokens tokens
    let p := position input.tokens f.found
    let q := position input.tokens (attempt left).2
    input.tokens[p]? = some (f.error input).token ∧
      (ResumesBehind input.tokens p q ↔ ¬ LosesStart input.tokens f) ∧
      (LosesStart input.tokens f → ResumesBehind input.tokens (p + 1) q) := by
  have hrecovers : Recovers left f (attempt left).2 := by
    simp only [List.mem_cons, List.not_mem_nil, or_false] at ha
    rcases ha with rfl | rfl
    · exact recovers_of_complete hfail
    · exact recovers_of_statement hfail
  refine ⟨?_, hrecovers.resumes_iff hleft hfound, hrecovers.resumes_of_losesStart hleft⟩
  rw [getElem?_position (hrecovers.found.trans hleft)]
  obtain ⟨t, behind, hcons⟩ := List.exists_cons_of_ne_nil hfound
  simp only [Failure.error, SyntaxFault.at, hcons, List.head?_cons, Option.getD_some]

/-- Behind an operand that is missing, reading goes on before the next statement. -/
theorem resumes_before_print :
    let tokens := [sample .plus, sample .number, sample .kwPrint]
    let input := Input.ofTokens tokens
    let f : Failure := ⟨.noExpression, tokens⟩
    tokens <:+ input.tokens ∧ statement ∈ [complete, statement] ∧
      (statement tokens).1 = .error f ∧ f.found ≠ [] ∧
      input.tokens[position input.tokens f.found]? = some (f.error input).token ∧
      (ResumesBehind input.tokens (position input.tokens f.found)
        (position input.tokens (statement tokens).2) ↔ ¬ LosesStart input.tokens f) ∧
      (LosesStart input.tokens f → ResumesBehind input.tokens
        (position input.tokens f.found + 1) (position input.tokens (statement tokens).2)) := by
  intro tokens input f
  have hsuffix : tokens <:+ input.tokens := List.suffix_rfl
  have hfail : (statement tokens).1 = .error f := by decide +kernel
  have hmem : statement ∈ [complete, statement] := by simp
  have hfound : f.found ≠ [] := List.cons_ne_nil _ _
  exact ⟨hsuffix, hmem, hfail, hfound,
    resumes_iff_not_losesStart tokens hsuffix hmem hfail hfound⟩

/-- A statement behind one unary operator too many is lost: recovery does not go on at the first
place behind the operator at fault, where the word of the statement stands. -/
theorem nesting_loses_print :
    let tokens := List.replicate (maxNesting + 1) (sample .minus) ++ [sample .kwPrint]
    (Input.ofTokens tokens).tokens = tokens ∧
      (complete tokens).1 = .error ⟨.tooDeep, [sample .minus, sample .kwPrint]⟩ ∧
      position tokens [sample .minus, sample .kwPrint] = 48 ∧
      position tokens (complete tokens).2 = 50 ∧ ResumesBehind tokens 48 49 ∧
      ¬ ResumesBehind tokens 48 50 := by
  intro tokens
  have hprint : ResumesBehind tokens 48 49 :=
    resumesBehind_succ (Or.inr (Or.inl ⟨sample .kwPrint, by decide, by decide⟩))
  refine ⟨by decide +kernel, by decide +kernel, by decide, by decide +kernel, hprint, ?_⟩
  intro hlate
  have hsame := hlate.unique hprint
  omega

end LoxSyntax.Grammar
