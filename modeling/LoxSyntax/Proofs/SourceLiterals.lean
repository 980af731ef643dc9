/-
# The literals of trees from source text

Whatever is wrong with a source and wherever recovery goes on, the trees that come out are taken
from its tokens.  So their literals are the reserved words, strings and numerals of the source, all
of which have a spelling, and both forms of every such tree can be written.
-/
import LoxSyntax.Proofs.Printing
import LoxSyntax.Proofs.SessionRun
import LoxSyntax.Proofs.SourceTrees

namespace LoxSyntax

open Parsing Grammar

/-! ## Trees that a session yields -/

section Taken

variable {tokens all : List Token} {e : Expr}

/-- The literals of a tree are the values of tokens it is taken from. -/
theorem Expr.TakenFrom.exists_token (h : e.TakenFrom all) :
    ∀ value ∈ e.literals, ∃ t ∈ all, literal? t = some value := by
  induction e with
  | binary left operator right ihLeft ihRight =>
    exact List.forall_mem_append.2 ⟨ihLeft h.2.1, ihRight h.2.2⟩
  | grouping inner ih => exact ih h
  | literal value => exact List.forall_mem_singleton.2 h
  | unary operator right ih => exact ih h.2
  | ternary condition thenBranch elseBranch ihCondition ihThen ihElse =>
    exact List.forall_mem_append.2
      ⟨List.forall_mem_append.2 ⟨ihCondition h.1, ihThen h.2.1⟩, ihElse h.2.2⟩

/-- An expression is taken from the tokens that are read for it. -/
theorem takenFrom_of_run {rest : List Token} (h : expression.run tokens = .ok (e, rest))
    (hall : tokens ⊆ all) : e.TakenFrom all := by
  obtain ⟨used, rfl, hd, -⟩ := rule_sound maxNesting .expression (by decide) _ _ _ h
  exact hd.takenFrom fun t ht => hall (List.mem_append_left rest ht)

/-- The tree of a whole input is taken from it. -/
theorem takenFrom_of_complete (h : (complete tokens).1 = .ok e) (hall : tokens ⊆ all) :
    e.TakenFrom all := by
  simp only [complete] at h
  split at h <;> rename_i hrun
  · cases h
  · split at h
    · cases h
      exact takenFrom_of_run hrun hall
    · cases h

/-- The tree of a statement is taken from it. -/
theorem takenFrom_of_statement (h : (statement tokens).1 = .ok e) (hall : tokens ⊆ all) :
    e.TakenFrom all := by
  simp only [statement] at h
  split at h <;> rename_i hrun
  · cases h
  · split at h
    · cases h
    · cases h
      exact takenFrom_of_run hrun hall

/-- The trees of a batch are taken from it, also those behind a broken statement. -/
theorem takenFrom_of_batch (h : .ok e ∈ batch tokens) (hall : tokens ⊆ all) :
    e.TakenFrom all := by
  fun_induction batch tokens with
  | case1 => cases h
  | case2 t rest ih =>
    rcases List.mem_cons.1 h with hfirst | hlater
    · exact takenFrom_of_statement hfirst.symm hall
    · exact ih hlater (List.Subset.trans (statement_rest t rest).suffix.subset hall)

variable {s : Session}

/-- **The trees that a step yields** are taken from the tokens of the session. -/
theorem Grammar.Reaches.takenFrom_of_step (h : Reaches tokens s) (step : Session.Step) :
    ∀ e ∈ (s.step step).1.trees, e.TakenFrom tokens := by
  have hall : s.rest ⊆ tokens :=
    List.Subset.trans h.rest.subset (List.takeWhile_prefix _).subset
  intro e he
  cases step with
  | parse =>
    have hoption : (complete s.rest).1.toOption = some e := Option.mem_toList.1 he
    cases hread : (complete s.rest).1 with
    | error f =>
      rw [hread] at hoption
      cases hoption
    | ok e' =>
      rw [hread] at hoption
      cases hoption
      exact takenFrom_of_complete hread hall
  | parseBatch =>
    obtain ⟨outcome, houtcome, hoption⟩ := List.mem_filterMap.1 he
    cases outcome with
    | error f => cases hoption
    | ok e' =>
      cases hoption
      exact takenFrom_of_batch houtcome hall
  | synchronize | idle => cases he

/-- **The trees that a run yields** are taken from the tokens of the session. -/
theorem Grammar.Reaches.takenFrom_of_run (h : Reaches tokens s) (steps : List Session.Step) :
    ∀ outcome ∈ s.run steps, ∀ e ∈ outcome.1.trees, e.TakenFrom tokens := by
  induction steps generalizing s with
  | nil =>
    intro outcome houtcome
    cases houtcome
  | cons step steps ih =>
    intro outcome houtcome
    rcases List.mem_cons.1 houtcome with rfl | hlater
    · exact h.takenFrom_of_step step
    · exact ih (h.step step) outcome hlater

end Taken

/-! ## Values of source text -/

/-- A value that a literal in the source may have: `nil`, a truth value, a text, or a number without
a sign, which is finite unless the scan reports a numeral that is too large. -/
def Value.InSource (source : String) : Value → Prop
  | nil | bool _ | text _ => True
  | number x => x.isNaN = false ∧ x.negative = false ∧
      ((∀ e ∈ (scan source).errors, e.code? ≠ some "L004") → x.isFinite = true)
  | foreign _ => False

section InSource

variable {source : String} {value : Value}

/-- A numeral of the source denotes a number that is in the source. -/
theorem Value.inSource_ofDecimal {whole fraction : List Char}
    (h : Segment.number whole fraction ∈ Segment.segments source.toList) :
    (number (.ofDecimal whole fraction)).InSource source := by
  refine ⟨Binary64.isNaN_nearest _ _, rfl, fun hnone => ?_⟩
  have hfinite : (Binary64.ofDecimal whole fraction).isInfinite = false := by
    rw [← Bool.not_eq_true]
    intro hinfinite
    have hfault : (Segment.number whole fraction).fault? =
        some (.numberTooLarge (Segment.number whole fraction).text) := if_pos hinfinite
    obtain ⟨e, he, hcode⟩ := Segment.exists_error_of_fault? h hfault
    exact hnone e he hcode
  exact Binary64.isFinite_nearest hfinite

/-- **The literal of a token** is a value of the source. -/
theorem Value.inSource_of_literal? {t : Token} (ht : t ∈ (scan source).tokens)
    (hvalue : literal? t = some value) : value.InSource source := by
  rcases literal_of_mem_tokens ht hvalue with
    rfl | ⟨b, rfl⟩ | ⟨-, body, rfl⟩ | ⟨whole, fraction, hmem, rfl⟩
  · trivial
  · trivial
  · trivial
  · exact inSource_ofDecimal hmem

/-- A value of the source has a spelling. -/
theorem Value.InSource.unrenderable?_eq_none (h : value.InSource source) :
    value.unrenderable? = none := by
  cases value with
  | foreign typeName => exact absurd h id
  | _ => rfl

end InSource

/-! ## Trees of source text have both forms -/

/-- The literals of the tree are values of the source, and the tree can be written in both forms. -/
structure Expr.Writable (source : String) (e : Expr) : Prop where
  inSource : ∀ value ∈ e.literals, value.InSource source
  prefixForm : ∃ text, e.prefixForm = .ok text
  postfixForm : ∃ text, e.postfixForm = .ok text

/-- **A tree taken from the tokens of a source can be written.** -/
theorem Expr.TakenFrom.writable {source : String} {e : Expr}
    (h : e.TakenFrom (scan source).tokens) : e.Writable source := by
  have hliterals : ∀ value ∈ e.literals, value.InSource source := by
    intro value hvalue
    obtain ⟨t, ht, hliteral⟩ := h.exists_token value hvalue
    exact Value.inSource_of_literal? ht hliteral
  have hforms := exists_forms fun value hvalue => (hliterals value hvalue).unrenderable?_eq_none
  exact ⟨hliterals, hforms.1, hforms.2⟩

/-- **All trees of source text can be written.**  Whatever errors a source has, the tree that it is
parsed to, if there is one, and every tree that a step of a session over its tokens yields, a batch
with broken statements included, has literals of the source only, and so it can be written in both
forms. -/
theorem trees_of_source_writable (source : String) :
    (∀ e, (parseSource source).tree? = some e → e.Writable source) ∧
      (∀ e ∈ ((Session.ofTokens (scan source).tokens).step .parseBatch).1.trees,
        e.Writable source) ∧
      ∀ steps : List Session.Step, ∀ outcome ∈ (Session.ofTokens (scan source).tokens).run steps,
        ∀ e ∈ outcome.1.trees, e.Writable source := by
  have hreaches := reaches_ofTokens (scan source).tokens
  refine ⟨fun e he => ?_, fun e he => ?_, fun steps outcome houtcome e he => ?_⟩
  · exact (takenFrom_of_parse he).writable
  · exact (hreaches.takenFrom_of_step .parseBatch e he).writable
  · exact (hreaches.takenFrom_of_run steps outcome houtcome e he).writable

/-- A broken statement, a stray character in the one behind it, and a string left open. -/
theorem trees_of_source_writable_broken :
    let source := "(2; nil ? \"a\" : @ 1; \"b"
    let trees := ((Session.ofTokens (scan source).tokens).step .parseBatch).1.trees
    trees = [.ternary (.literal .nil) (.literal (.text "a")) (.literal (.number .one))] ∧
      (scan source).errors.map (·.code?) = [some "L001", some "L002"] ∧
      ∀ e ∈ trees, e.Writable source := by
  intro source trees
  exact ⟨by decide +kernel, by decide +kernel, (trees_of_source_writable source).2.1⟩

end LoxSyntax
