/-
# A statement read in two ways

Tokens without a semicolon, with one behind them, are read alone or as a batch.  Both ways read the
same expression and recover in the same way.  They differ only in what they call the tokens that are
left behind an expression: alone the input should have ended there, and in a batch the statement.
-/
import LoxSyntax.Parsing.Source
import LoxSyntax.Proofs.Recovery

namespace LoxSyntax.Grammar

open Parsing

/-! ## Failures in a batch -/

/-- The same failure in a batch, where the end of the statement is missing if anything is left. -/
def inBatch (f : Failure) : Failure :=
  match f.fault with
  | .trailing => ⟨missingSemicolon, f.found⟩
  | _ => f

/-- The second error is the first one as a batch reports it: it names the same token with the same
message and code, but for the complaint about what is left. -/
def ReportedInBatch (e e' : SyntaxError) : Prop :=
  e'.token = e.token ∧
    if e.code? = some "P003" then
      e.message = "Expect end of expression." ∧ e'.message = "Expect ';' after expression." ∧
        e'.code? = some "P001"
    else e'.message = e.message ∧ e'.code? = e.code?

/-- A failure is reported in a batch as it should be. -/
theorem reportedInBatch_error (f : Failure) (input : Input) :
    ReportedInBatch (f.error input) ((inBatch f).error input) := by
  obtain ⟨fault, found⟩ := f
  cases fault with
  | trailing => exact ⟨rfl, rfl, rfl, rfl⟩
  | missing message => exact ⟨rfl, rfl, rfl⟩
  | noExpression => exact ⟨rfl, rfl, rfl⟩
  | tooDeep => exact ⟨rfl, rfl, rfl⟩

section Lone

variable {c rest : List Token} {s : Token} {e : Expr} {f : Failure}

/-- Where reading to the end succeeds, it has read all tokens. -/
theorem complete_rest_of_ok {tokens : List Token} (h : (complete tokens).1 = .ok e) :
    (complete tokens).2 = [] := by
  simp only [complete] at h ⊢
  split at h <;> rename_i hrun
  · cases h
  · split at h <;> rename_i hrest
    · rfl
    · cases h

/-! ## One statement -/

variable (hc : ∀ t ∈ c, t.kind ≠ .semicolon) (hs : s.kind = .semicolon)

include hs

/-- What an expression leaves of the tokens ends with the semicolon. -/
theorem exists_rest_of_run (hrun : expression.run (c ++ [s]) = .ok (e, rest)) :
    ∃ others, rest = others ++ [s] ∧ others <:+ c := by
  obtain ⟨read, hsplit, hread⟩ := expression_ok_read hrun
  have hclosed : IsClosed (read ++ rest) := by
    rw [← hsplit, IsClosed, List.getLast?_concat, Option.map_some, hs]
  have hrest : rest <:+ c ++ [s] := ⟨read, hsplit.symm⟩
  exact (List.suffix_concat_iff.1 hrest).resolve_left (hclosed.ne_nil hread)

include hc

/-- **Both ways read the same statement**, up to the complaint about what is left. -/
theorem statement_eq_complete :
    statement (c ++ [s]) =
      ((complete (c ++ [s])).1.mapError inBatch, (complete (c ++ [s])).2) := by
  cases hrun : expression.run (c ++ [s]) with
  | error f =>
    obtain ⟨used, -, hblames⟩ := expression_fails maxNesting _ f hrun
    have hsame : inBatch f = f := by
      unfold inBatch
      split
      · rename_i htrailing
        exact absurd htrailing hblames.inside
      · rfl
    simp only [statement, complete, hrun, Except.mapError, hsame]
  | ok answer =>
    obtain ⟨e, rest⟩ := answer
    obtain ⟨others, rfl, hothers⟩ := exists_rest_of_run hs hrun
    cases others with
    | nil =>
      simp only [statement, complete, hrun, List.nil_append, expect, dropSemicolon, if_pos hs,
        Except.mapError]
    | cons t others =>
      -- a token that is left is no semicolon, so that neither way reads on
      have ht : t.kind ≠ .semicolon := hc t (hothers.subset List.mem_cons_self)
      simp only [statement, complete, hrun, List.cons_append, expect, dropSemicolon, if_neg ht,
        Except.mapError, inBatch]

/-- A batch reads the statement and goes on where recovery does. -/
theorem batch_eq_cons :
    batch (c ++ [s]) =
      (complete (c ++ [s])).1.mapError inBatch :: batch (complete (c ++ [s])).2 := by
  have hne : c ++ [s] ≠ [] := List.append_ne_nil_of_right_ne_nil c (List.cons_ne_nil s [])
  obtain ⟨t, others, hcons⟩ := List.exists_cons_of_ne_nil hne
  rw [hcons, batch, ← hcons, statement_eq_complete hc hs]

omit hc hs in
/-- Without a boundary before the last token, recovery passes over all tokens. -/
theorem skipFrom_eq_nil {previous : Token} (hprevious : previous.kind ≠ .semicolon)
    (hc : ∀ t ∈ c, t.kind ≠ .semicolon) (hstarts : ∀ t ∈ c ++ [s], t.kind ∉ statementStarts) :
    skipFrom previous (c ++ [s]) = [] := by
  have hinside {t u : Token} (ht : t.kind ≠ .semicolon) (hu : u.kind ∉ statementStarts) :
      ¬ isBoundary t u = true := by
    simp [isBoundary, ht, hu]
  induction c generalizing previous with
  | nil =>
    have hs : s.kind ∉ statementStarts := hstarts s List.mem_cons_self
    rw [List.nil_append, skipFrom, if_neg (hinside hprevious hs), skipFrom]
  | cons t others ih =>
    have ht : t.kind ∉ statementStarts := hstarts t List.mem_cons_self
    rw [List.cons_append, skipFrom, if_neg (hinside hprevious ht)]
    apply ih (hc t List.mem_cons_self)
    · exact fun u hu => hc u (List.mem_cons_of_mem t hu)
    · exact fun u hu => hstarts u (List.mem_cons_of_mem t hu)

/-- If no word opens a statement, then nothing is left of the tokens. -/
theorem complete_rest_eq_nil (hstarts : ∀ t ∈ c, t.kind ∉ statementStarts) :
    (complete (c ++ [s])).2 = [] := by
  have hall : ∀ t ∈ c ++ [s], t.kind ∉ statementStarts := by
    rw [List.forall_mem_append, List.forall_mem_singleton, hs]
    exact ⟨hstarts, by decide⟩
  cases hread : (complete (c ++ [s])).1 with
  | ok e => exact complete_rest_of_ok hread
  | error f =>
    have hrecovers := recovers_of_complete hread
    have hinside : f.rest <:+ c ++ [s] := f.rest_suffix.trans hrecovers.found
    rw [hrecovers.rest]
    rcases List.suffix_concat_iff.1 hinside with hrest | ⟨others, hrest, hothers⟩ <;> rw [hrest]
    · rfl
    · cases others with
      | nil => rfl
      | cons t others =>
        rw [List.cons_append, synchronize]
        apply skipFrom_eq_nil (hc t (hothers.subset List.mem_cons_self))
        · exact fun u hu => hc u (hothers.subset (List.mem_cons_of_mem t hu))
        · intro u hu
          apply hall u
          rw [List.mem_append] at hu ⊢
          exact hu.imp_left fun hu => hothers.subset (List.mem_cons_of_mem t hu)

end Lone

/-! ## Both ways from the tokens on -/

/-- What a session reads as a batch from its start. -/
theorem parseBatch_ofTokens (tokens : List Token) :
    let batched := (Session.ofTokens tokens).step .parseBatch
    batched.1 = .expressions (expressions (batch (Input.ofTokens tokens).tokens)) ∧
      batched.2.errors = (failures (batch (Input.ofTokens tokens).tokens)).map
        (·.error (Input.ofTokens tokens)) := ⟨rfl, rfl⟩

section Lone

variable {c : List Token} {s z : Token} {e : Expr} {f : Failure}
  (hc : ∀ t ∈ c, t.kind ≠ .semicolon ∧ t.kind ≠ .endOfInput) (hs : s.kind = .semicolon)

include hc hs

/-- The end of input behind a statement is no token to read. -/
theorem tokens_ofTokens_lone (hz : z.kind = .endOfInput) :
    (Input.ofTokens (c ++ [s, z])).tokens = c ++ [s] := by
  have hinside : ∀ t ∈ c ++ [s], t.isEnd = false := by
    rw [List.forall_mem_append, List.forall_mem_singleton]
    exact ⟨fun t ht => by simpa [Token.isEnd] using (hc t ht).2, by simp [Token.isEnd, hs]⟩
  have hz' : (Input.ofTokens [z]).tokens = [] := by simp [Input.ofTokens, Token.isEnd, hz]
  have happend := tokens_ofTokens_append hinside [z]
  rwa [hz', List.append_nil, List.append_assoc] at happend

theorem batch_of_ok (hread : (complete (c ++ [s])).1 = .ok e) : batch (c ++ [s]) = [.ok e] := by
  rw [batch_eq_cons (fun t ht => (hc t ht).1) hs, hread, complete_rest_of_ok hread, batch]
  rfl

theorem batch_of_error (hread : (complete (c ++ [s])).1 = .error f) :
    batch (c ++ [s]) = .error (inBatch f) :: batch (complete (c ++ [s])).2 := by
  rw [batch_eq_cons (fun t ht => (hc t ht).1) hs, hread]
  rfl

end Lone

/-- **Parsing alone and in a batch agree.**  Take tokens without a semicolon and without an end of
input, and both of these behind them.  Parsing finds a tree exactly if the batch consists of that
tree, without errors.  If parsing fails, it records one error, and the batch reports that error
first.  If moreover no word opens a statement, then the batch is either one tree or one error. -/
theorem parse_agrees_with_batch (c : List Token) (s z : Token)
    (hc : ∀ t ∈ c, t.kind ≠ .semicolon ∧ t.kind ≠ .endOfInput) (hs : s.kind = .semicolon)
    (hz : z.kind = .endOfInput) :
    let tokens := c ++ [s, z]
    let batched := (Session.ofTokens tokens).step .parseBatch
    (∀ t, parse tokens = { tree? := some t } ↔
      batched.1 = .expressions [t] ∧ batched.2.errors = []) ∧
    ((parse tokens).tree? = none → ∃ e e' others,
      parse tokens = { tree? := none, syntactic := [e] } ∧ batched.2.errors = e' :: others ∧
        ReportedInBatch e e') ∧
    ((∀ t ∈ c, t.kind ∉ statementStarts) →
      (∃ t, batched.1 = .expressions [t] ∧ batched.2.errors = []) ∨
        batched.1 = .expressions [] ∧ ∃ e, batched.2.errors = [e]) := by
  intro tokens batched
  have hsemicolon : ∀ t ∈ c, t.kind ≠ .semicolon := fun t ht => (hc t ht).1
  have hinput : (Input.ofTokens tokens).tokens = c ++ [s] := tokens_ofTokens_lone hc hs hz
  obtain ⟨hyield, herrors⟩ := parseBatch_ofTokens tokens
  rw [hinput] at hyield herrors
  cases hread : (complete (c ++ [s])).1 with
  | ok e =>
    have hparse : parse tokens = { tree? := some e } := by simp only [parse, hinput, hread]
    rw [batch_of_ok hc hs hread] at hyield herrors
    refine ⟨fun t => ?_, fun hnone => ?_, fun _ => Or.inl ⟨e, hyield, herrors⟩⟩
    · rw [hparse, hyield, herrors]
      constructor
      · rintro ⟨⟩
        exact ⟨rfl, rfl⟩
      · rintro ⟨hsame, -⟩
        cases hsame
        rfl
    · rw [hparse] at hnone
      cases hnone
  | error f =>
    have hparse : parse tokens =
        { tree? := none, syntactic := [f.error (Input.ofTokens tokens)] } := by
      simp only [parse, hinput, hread]
    rw [batch_of_error hc hs hread] at hyield herrors
    refine ⟨fun t => ?_, fun _ => ?_, fun hstarts => Or.inr ?_⟩
    · rw [hparse, herrors]
      constructor
      · rintro ⟨⟩
      · rintro ⟨-, ⟨⟩⟩
    · exact ⟨_, _, _, hparse, herrors, reportedInBatch_error f _⟩
    · rw [complete_rest_eq_nil hsemicolon hs hstarts, batch] at hyield herrors
      exact ⟨hyield, _, herrors⟩

/-- A number too many is left behind an expression, and a statement starts behind it. -/
theorem parse_agrees_with_batch_trailing :
    let c := [sample .number, sample .number, sample .kwPrint, sample .number]
    let tokens := c ++ [sample .semicolon, sample .endOfInput]
    let batched := (Session.ofTokens tokens).step .parseBatch
    (∀ t ∈ c, t.kind ≠ .semicolon ∧ t.kind ≠ .endOfInput) ∧
      (sample .semicolon).kind = .semicolon ∧ (sample .endOfInput).kind = .endOfInput ∧
    (∀ t, parse tokens = { tree? := some t } ↔
      batched.1 = .expressions [t] ∧ batched.2.errors = []) ∧
    ((parse tokens).tree? = none → ∃ e e' others,
      parse tokens = { tree? := none, syntactic := [e] } ∧ batched.2.errors = e' :: others ∧
        ReportedInBatch e e') ∧
    ((∀ t ∈ c, t.kind ∉ statementStarts) →
      (∃ t, batched.1 = .expressions [t] ∧ batched.2.errors = []) ∨
        batched.1 = .expressions [] ∧ ∃ e, batched.2.errors = [e]) := by
  intro c tokens batched
  have hc : ∀ t ∈ c, t.kind ≠ .semicolon ∧ t.kind ≠ .endOfInput := by decide
  exact ⟨hc, rfl, rfl, parse_agrees_with_batch c _ _ hc rfl rfl⟩

end LoxSyntax.Grammar
