/-
# Statements stand for themselves

No rule reads past a semicolon, and recovery stops right behind the first one that it passes over.
So the statements up to a semicolon are parsed in the same way whatever follows, and what follows is
parsed as if it stood alone.
-/
import LoxSyntax.Proofs.Lookahead
import LoxSyntax.Proofs.Viability
import LoxSyntax.Parsing.Session

namespace LoxSyntax.Grammar

open Parsing

variable {tokens rest more : List Token} {e : Expr} {f : Failure}

/-! ## Tokens that end with a semicolon -/

/-- The last token is a semicolon. -/
def IsClosed (tokens : List Token) : Prop :=
  tokens.getLast?.map Token.kind = some .semicolon

theorem IsClosed.of_suffix (h : IsClosed tokens) (hs : rest <:+ tokens) (hne : rest ≠ []) :
    IsClosed rest := by
  obtain ⟨before, rfl⟩ := hs
  rw [IsClosed, List.getLast?_append_of_ne_nil _ hne] at h
  exact h

/-- If no stranger has been read, then something is left of closed tokens. -/
theorem IsClosed.ne_nil {read : List Token} (h : IsClosed (read ++ rest))
    (hread : ∀ t ∈ read, t.kind ∉ strangers) : rest ≠ [] := by
  rintro rfl
  rw [List.append_nil, IsClosed, Option.map_eq_some_iff] at h
  obtain ⟨t, ht, hk⟩ := h
  refine hread t (List.mem_of_getLast? ht) ?_
  rw [hk]
  decide

/-! ## What has been read is left alone -/

/-- A rule that succeeds has read no stranger. -/
theorem expression_ok_read (h : expression.run tokens = .ok (e, rest)) :
    ∃ read, tokens = read ++ rest ∧ ∀ t ∈ read, t.kind ∉ strangers := by
  obtain ⟨used, hused, hd, -⟩ := rule_sound maxNesting .expression (by decide) _ _ _ h
  exact ⟨used, hused, hd.not_mem_strangers⟩

theorem Completes.not_mem_strangers {n : Nat} {nt : Nonterminal} {ts : List Token}
    (h : Completes n nt ts) : ∀ t ∈ ts, t.kind ∉ strangers := by
  intro t ht
  obtain ⟨more, e, hd, -⟩ := h
  exact hd.not_mem_strangers t (List.mem_append_left more ht)

/-- A rule that fails has read no stranger, and neither has it found one that nests too deep. -/
theorem expression_error_read (h : expression.run tokens = .error f) :
    ∃ read, tokens = read ++ f.rest ∧ ∀ t ∈ read, t.kind ∉ strangers := by
  obtain ⟨used, rfl, hblames⟩ := expression_fails maxNesting tokens f h
  obtain ⟨kind, -, -, hwanted⟩ := hblames.wanted
  by_cases hf : f.fault = .tooDeep
  · obtain ⟨t, ht, m, hm⟩ := hblames.deeper hf
    obtain ⟨behind, hfound⟩ := List.head?_eq_some_iff.1 ht
    refine ⟨used ++ [t], ?_, hm.not_mem_strangers⟩
    simp only [Failure.rest, hf, hfound, List.tail_cons, List.append_assoc, List.singleton_append]
  · refine ⟨used, ?_, fun t ht => ?_⟩
    · unfold Failure.rest
      split
      · rename_i hdeep
        exact absurd hdeep hf
      · rfl
    · have hsample := hwanted (sample kind) (kind_sample kind)
      exact hsample.not_mem_strangers t (List.mem_append_left _ ht)

/-- The same failure with other tokens behind it. -/
def extendFailure (more : List Token) (f : Failure) : Failure := ⟨f.fault, f.found ++ more⟩

/-- A rule that has left something succeeds whatever follows. -/
theorem expression_ok_append (h : expression.run tokens = .ok (e, rest)) (hne : rest ≠ [])
    (more : List Token) : expression.run (tokens ++ more) = .ok (e, rest ++ more) := by
  obtain ⟨used, rfl, hagain⟩ :=
    rule_repeats_ok (Nat.le_refl maxNesting) .expression (by decide) h
  rw [List.append_assoc]
  exact hagain _ (Or.inl (List.head?_append_of_ne_nil rest hne))

/-- A rule that has found something fails whatever follows. -/
theorem expression_error_append (h : expression.run tokens = .error f) (hne : f.found ≠ [])
    (more : List Token) : expression.run (tokens ++ more) = .error (extendFailure more f) := by
  have hrepeats : Repeats True expression expression :=
    rule_repeats (Nat.le_refl maxNesting) (fun _ => rfl) .expression (by decide)
  obtain ⟨used, rfl, hagain⟩ := hrepeats.error _ _ h
  rw [List.append_assoc]
  exact hagain _ (Or.inl ⟨List.head?_append_of_ne_nil f.found hne, fun _ => trivial⟩)

/-! ## Recovery -/

/-- Recovery stops behind a semicolon, whatever follows. -/
theorem skipFrom_append (previous : Token) (tokens more : List Token)
    (h : IsClosed (previous :: tokens)) :
    skipFrom previous (tokens ++ more) = skipFrom previous tokens ++ more := by
  induction tokens generalizing previous with
  | nil =>
    -- recovery comes to the end of closed tokens only behind their semicolon
    have hk : previous.kind = .semicolon := by simpa [IsClosed] using h
    cases more with
    | nil => rfl
    | cons t others => simp [skipFrom, isBoundary, hk]
  | cons t others ih =>
    have hothers : IsClosed (t :: others) :=
      h.of_suffix (List.suffix_cons previous _) (List.cons_ne_nil t others)
    simp only [List.cons_append, skipFrom]
    split
    · rfl
    · exact ih t hothers

/-- Recovery in closed tokens is the same whatever follows. -/
theorem synchronize_append (h : IsClosed tokens) (more : List Token) :
    synchronize (tokens ++ more) = synchronize tokens ++ more := by
  cases tokens with
  | nil => cases h
  | cons t others => exact skipFrom_append t others more h

/-! ## Statements and batches -/

/-- The same outcome with other tokens behind it. -/
def extendOutcome (more : List Token) : Outcome → Outcome
  | .ok e => .ok e
  | .error f => .error (extendFailure more f)

/-- The outcome is no failure at the end of the tokens. -/
def FoundInside (outcome : Outcome) : Prop := ∀ f, outcome = .error f → f.found ≠ []

/-- A failure goes on from inside of closed tokens, and so it has been found there. -/
theorem found_ne_nil_of_rest (h : f.rest ≠ []) : f.found ≠ [] := by
  intro hfound
  refine h (List.eq_nil_of_suffix_nil ?_)
  rw [← hfound]
  exact f.rest_suffix

/-- Reading goes on at the same place. -/
theorem rest_extendFailure (hfound : f.found ≠ []) (more : List Token) :
    (extendFailure more f).rest = f.rest ++ more := by
  obtain ⟨fault, found⟩ := f
  cases fault with
  | tooDeep => exact List.tail_append_of_ne_nil hfound
  | missing | noExpression | trailing => rfl

/-- **A statement of closed tokens is the same whatever follows.** -/
theorem statement_append (h : IsClosed tokens) (more : List Token) :
    statement (tokens ++ more) =
        (extendOutcome more (statement tokens).1, (statement tokens).2 ++ more) ∧
      FoundInside (statement tokens).1 := by
  cases hrun : expression.run tokens with
  | error f =>
    obtain ⟨read, rfl, hread⟩ := expression_error_read hrun
    -- the semicolon at the end has not been read, so that the failure lies before it
    have hrest : f.rest ≠ [] := h.ne_nil hread
    have hfound : f.found ≠ [] := found_ne_nil_of_rest hrest
    have hmore := expression_error_append hrun hfound more
    have hextend := rest_extendFailure hfound more
    have hclosed : IsClosed f.rest := h.of_suffix (List.suffix_append read f.rest) hrest
    constructor
    · simp only [statement, hrun, hmore, hextend, synchronize_append hclosed, extendOutcome]
    · simp only [statement, hrun]
      rintro g ⟨⟩
      exact hfound
  | ok answer =>
    obtain ⟨e, rest⟩ := answer
    obtain ⟨read, rfl, hread⟩ := expression_ok_read hrun
    have hrest : rest ≠ [] := h.ne_nil hread
    have hmore := expression_ok_append hrun hrest more
    have hclosed : IsClosed rest := h.of_suffix (List.suffix_append read rest) hrest
    obtain ⟨t, others, rfl⟩ := List.exists_cons_of_ne_nil hrest
    by_cases hk : t.kind = .semicolon
    · constructor
      · simp only [statement, hrun, hmore, List.cons_append, expect, if_pos hk, extendOutcome]
      · simp only [statement, hrun, expect, if_pos hk]
        rintro g ⟨⟩
    · constructor
      · have hskip := synchronize_append hclosed more
        simp only [statement, hrun, hmore, List.cons_append, expect, if_neg hk, extendOutcome,
          extendFailure] at hskip ⊢
        rw [hskip]
      · simp only [statement, hrun, expect, if_neg hk]
        rintro g ⟨⟩
        exact List.cons_ne_nil t others

/-- What a statement leaves is a suffix. -/
theorem statement_suffix (tokens : List Token) : (statement tokens).2 <:+ tokens := by
  cases tokens with
  | nil =>
    have hrun : expression.run [] = .error ⟨.noExpression, []⟩ := by decide +kernel
    simp only [statement, hrun]
    exact List.suffix_rfl
  | cons t rest => exact (statement_rest t rest).suffix

/-- **A batch of closed tokens is the same whatever follows**, and what follows is a batch of its
own. -/
theorem batch_append (tokens more : List Token) (h : tokens = [] ∨ IsClosed tokens) :
    batch (tokens ++ more) = (batch tokens).map (extendOutcome more) ++ batch more ∧
      ∀ outcome ∈ batch tokens, FoundInside outcome := by
  fun_induction batch tokens with
  | case1 => simp
  | case2 t rest ih =>
    have hclosed : IsClosed (t :: rest) := h.resolve_left (List.cons_ne_nil t rest)
    obtain ⟨hstatement, hinside⟩ := statement_append hclosed more
    -- closed tokens are left by every statement, or none at all
    have hleft : (statement (t :: rest)).2 = [] ∨ IsClosed (statement (t :: rest)).2 := by
      by_cases hnil : (statement (t :: rest)).2 = []
      · exact Or.inl hnil
      · exact Or.inr (hclosed.of_suffix (statement_suffix _) hnil)
    obtain ⟨hbatch, houtcomes⟩ := ih hleft
    rw [List.cons_append] at hstatement
    constructor
    · rw [List.cons_append, batch, hstatement, hbatch]
      rfl
    · intro outcome houtcome
      rcases List.mem_cons.1 houtcome with rfl | houtcome
      · exact hinside
      · exact houtcomes outcome houtcome

/-! ## Inputs and their errors -/

section Inputs

variable {first : List Token} (hfirst : ∀ t ∈ first, t.isEnd = false)

include hfirst

theorem tokens_ofTokens_append (second : List Token) :
    (Input.ofTokens (first ++ second)).tokens = first ++ (Input.ofTokens second).tokens :=
  List.takeWhile_append_of_pos (by simpa using hfirst)

theorem tokens_ofTokens : (Input.ofTokens first).tokens = first := by
  have happend := tokens_ofTokens_append hfirst []
  rwa [List.append_nil, show (Input.ofTokens []).tokens = [] from rfl, List.append_nil] at happend

/-- The end of the input is the one of the tokens that come last. -/
theorem ending_ofTokens_append {second : List Token} (hne : second ≠ []) :
    (Input.ofTokens (first ++ second)).ending = (Input.ofTokens second).ending := by
  have hdrop : (first ++ second).dropWhile (! ·.isEnd) = second.dropWhile (! ·.isEnd) :=
    List.dropWhile_append_of_pos (by simpa using hfirst)
  have hline : finalLine (first ++ second) = finalLine second := by
    simp only [finalLine, List.getLast?_append_of_ne_nil first hne]
  simp only [Input.ofTokens, hdrop, hline]

end Inputs

theorem expressions_map_extend (outcomes : List Outcome) (more : List Token) :
    expressions (outcomes.map (extendOutcome more)) = expressions outcomes := by
  have hok (e : Expr) : extendOutcome more (.ok e) = .ok (id e) := rfl
  rw [expressions_map hok fun _ => ⟨_, rfl⟩, List.map_id]

theorem failures_map_extend (outcomes : List Outcome) (more : List Token) :
    failures (outcomes.map (extendOutcome more)) =
      (failures outcomes).map (extendFailure more) :=
  failures_map (fun e => ⟨e, rfl⟩) (fun _ => rfl) outcomes

theorem failures_append (outcomes others : List Outcome) :
    failures (outcomes ++ others) = failures outcomes ++ failures others :=
  List.filterMap_append

/-- A failure inside of the tokens makes the same error whatever follows and ends the input. -/
theorem error_extendFailure (hfound : f.found ≠ []) (more : List Token) (input input' : Input) :
    (extendFailure more f).error input' = f.error input := by
  obtain ⟨t, others, hcons⟩ := List.exists_cons_of_ne_nil hfound
  simp only [Failure.error, extendFailure, hcons, List.cons_append, List.head?_cons,
    Option.getD_some]

/-- The errors of a batch of closed tokens are the same whatever follows and ends the input. -/
theorem errors_map_extend {outcomes : List Outcome}
    (hinside : ∀ outcome ∈ outcomes, FoundInside outcome) (more : List Token)
    (input input' : Input) :
    (failures (outcomes.map (extendOutcome more))).map (·.error input') =
      (failures outcomes).map (·.error input) := by
  rw [failures_map_extend, List.map_map]
  refine List.map_congr_left fun f hf => ?_
  obtain ⟨outcome, hmem, hfailure⟩ := List.mem_filterMap.1 hf
  cases outcome with
  | ok e => cases hfailure
  | error g =>
    cases hfailure
    exact error_extendFailure (hinside _ hmem f rfl) more input input'

/-- The errors of the tokens that come last are the same whatever comes before them. -/
theorem errors_ofTokens_append {first : List Token} (hfirst : ∀ t ∈ first, t.isEnd = false)
    (second : List Token) :
    (failures (batch (Input.ofTokens second).tokens)).map
        (·.error (Input.ofTokens (first ++ second))) =
      (failures (batch (Input.ofTokens second).tokens)).map (·.error (Input.ofTokens second)) := by
  cases second with
  | nil =>
    have hnone : batch (Input.ofTokens []).tokens = [] := by
      rw [show (Input.ofTokens []).tokens = [] from rfl, batch]
    rw [hnone]
    rfl
  | cons t others =>
    refine List.map_congr_left fun f _ => ?_
    simp only [Failure.error, ending_ofTokens_append hfirst (List.cons_ne_nil t others)]

/-- **Statements are independent.**  The tokens up to a semicolon and any tokens behind them are
parsed in a batch as the two batches one after the other: the expressions, the errors with all that
they say, and the number of tokens read. -/
theorem parseBatch_append (A B : List Token) (hA : ∀ t ∈ A, t.isEnd = false)
    (hclosed : A.getLast?.map Token.kind = some .semicolon) :
    ∃ es es', ((Session.ofTokens A).step .parseBatch).1 = .expressions es ∧
      ((Session.ofTokens B).step .parseBatch).1 = .expressions es' ∧
      ((Session.ofTokens (A ++ B)).step .parseBatch).1 = .expressions (es ++ es') ∧
      ((Session.ofTokens (A ++ B)).step .parseBatch).2.errors =
        ((Session.ofTokens A).step .parseBatch).2.errors ++
          ((Session.ofTokens B).step .parseBatch).2.errors ∧
      ((Session.ofTokens (A ++ B)).step .parseBatch).2.current =
        A.length + ((Session.ofTokens B).step .parseBatch).2.current := by
  have hboth := tokens_ofTokens_append hA B
  have halone := tokens_ofTokens hA
  obtain ⟨hbatch, hinside⟩ := batch_append A (Input.ofTokens B).tokens (Or.inr hclosed)
  refine ⟨expressions (batch A), expressions (batch (Input.ofTokens B).tokens), ?_, rfl, ?_, ?_, ?_⟩
  · simp only [Session.step, Session.ofTokens, halone]
  · simp only [Session.step, Session.ofTokens, hboth, hbatch]
    rw [← expressions_map_extend (batch A) (Input.ofTokens B).tokens]
    simp only [expressions, List.filterMap_append]
  · simp only [Session.step, Session.ofTokens, Session.errors, Session.record, hboth, halone,
      hbatch, List.nil_append, failures_append, List.map_append]
    rw [errors_map_extend hinside _ (Input.ofTokens A), errors_ofTokens_append hA B]
  · simp only [Session.step, Session.ofTokens, Session.current, Session.record, hboth,
      List.length_append, List.length_nil, Nat.sub_zero]

/-- A statement without its first operand takes nothing from the statement behind it. -/
theorem parseBatch_append_missing_operand :
    let A := [sample .plus, sample .number, sample .semicolon]
    let B := [sample .number, sample .semicolon, Token.endAt 1]
    (∀ t ∈ A, t.isEnd = false) ∧ A.getLast?.map Token.kind = some .semicolon ∧
    ∃ es es', ((Session.ofTokens A).step .parseBatch).1 = .expressions es ∧
      ((Session.ofTokens B).step .parseBatch).1 = .expressions es' ∧
      ((Session.ofTokens (A ++ B)).step .parseBatch).1 = .expressions (es ++ es') ∧
      ((Session.ofTokens (A ++ B)).step .parseBatch).2.errors =
        ((Session.ofTokens A).step .parseBatch).2.errors ++
          ((Session.ofTokens B).step .parseBatch).2.errors ∧
      ((Session.ofTokens (A ++ B)).step .parseBatch).2.current =
        A.length + ((Session.ofTokens B).step .parseBatch).2.current :=
  ⟨by decide, by decide, parseBatch_append _ _ (by decide) (by decide)⟩

end LoxSyntax.Grammar
