/-
# The lines of a report

A report puts what it lists one below the other, so that the errors of a source take up one line
each unless one of them has a line feed inside.  Lexical errors never have one: they show single
characters and numerals only.  A syntax error shows the token at fault as it stands in the source,
and so it goes over several lines if that token is a string that does.
-/
import LoxSyntax.Proofs.FirstFault
import LoxSyntax.Proofs.Lines
import LoxSyntax.Proofs.ScannedTokens
import LoxSyntax.Proofs.TextLines
import LoxSyntax.Parsing.Source
import LoxSyntax.Report

namespace LoxSyntax

open Text Parsing

/-! ## Line feeds in a diagnostic -/

/-- An error has the line feeds of its place and its message. -/
theorem Diagnostic.lineFeeds_render {d : Diagnostic} (hseverity : d.severity = "error") :
    lineFeeds d.render = lineFeeds d.place + lineFeeds d.message := by
  have hword : lineFeeds (String.ofList (capitalize d.severity.toList)) = 0 := by
    rw [hseverity]
    decide +kernel
  have hplace : lineFeeds (if d.place.isEmpty then "" else s!" {d.place}") = lineFeeds d.place := by
    split
    · rename_i hempty
      rw [String.isEmpty_iff.1 hempty]
    · exact (lineFeeds_append " " d.place).trans (Nat.zero_add _)
  have hparts : lineFeeds d.render = 0 + lineFeeds (toString d.line) + 0 +
      lineFeeds (String.ofList (capitalize d.severity.toList)) +
        lineFeeds (if d.place.isEmpty then "" else s!" {d.place}") + 0 + lineFeeds d.message := by
    simp only [render, lineFeeds_append]
    rfl
  rw [hparts, hword, hplace, lineFeeds_toString d.line]
  omega

theorem LexicalError.lineFeeds_render (e : LexicalError) :
    lineFeeds e.render = lineFeeds e.message :=
  (Diagnostic.lineFeeds_render rfl).trans (Nat.zero_add _)

/-- The place of a token has the line feeds of its lexeme, unless it is the end of the input. -/
theorem Token.lineFeeds_place (t : Token) :
    lineFeeds t.place = if t.isEnd then 0 else lineFeeds t.lexeme := by
  unfold place
  split
  · rfl
  · simp only [lineFeeds_append]
    exact Nat.zero_add _

theorem SyntaxError.lineFeeds_render (e : SyntaxError) :
    lineFeeds e.render = lineFeeds e.token.place + lineFeeds e.message :=
  Diagnostic.lineFeeds_render rfl

/-! ## Lexical errors -/

section Lexical

variable {s : Segment} {rest : List Char} {fault : LexicalFault}

/-- An unexpected character is shown without a line feed. -/
theorem LexicalFault.lineFeeds_unexpected {c : Char} (hc : c ≠ '\n') :
    lineFeeds (message (.unexpected [c])) = 0 := by
  have hshown : lineFeeds (String.ofList [c]) = 0 :=
    lineFeeds_ofList (List.forall_mem_singleton.2 hc)
  show lineFeeds (unexpectedMessage [c]) = 0
  unfold unexpectedMessage
  split
  · simp only [lineFeeds_append]
    exact congrArg (0 + · + 0) hshown
  · simp only [lineFeeds_append]
    exact congrArg (0 + · + 0) (lineFeeds_hexadecimalCapital 4 _)

/-- A numeral without line feeds is shown without them, also if it is abridged. -/
theorem LexicalFault.lineFeeds_numberTooLarge {lexeme : List Char} (h : ∀ c ∈ lexeme, c ≠ '\n') :
    lineFeeds (message (.numberTooLarge lexeme)) = 0 := by
  have hshown : ∀ c ∈ abridged lexeme, c ≠ '\n' := by
    rw [abridged]
    split
    · have hdots : ∀ c ∈ ['.', '.', '.'], c ≠ '\n' := by simp
      exact List.forall_mem_append.2 ⟨fun c hc => h c (List.mem_of_mem_take hc), hdots⟩
    · exact h
  show lineFeeds ("Number literal '" ++ String.ofList (abridged lexeme) ++ "' is too large.") = 0
  rw [lineFeeds_append, lineFeeds_append, lineFeeds_ofList hshown]
  rfl

theorem Segment.ne_of_mem_text (h : s.lineFeeds = 0) : ∀ c ∈ s.text, c ≠ '\n' := by
  rintro c hc rfl
  exact List.count_eq_zero.1 h hc

/-- **What is wrong with a segment** is said without a line feed. -/
theorem Segment.lineFeeds_message (h : Munch s rest) (hfault : s.fault? = some fault) :
    Text.lineFeeds fault.message = 0 := by
  rcases s with _ | _ | ⟨whole, fraction⟩ | ⟨body, _ | _⟩ | _ | _ | ⟨body, _ | _⟩ | c <;>
    simp only [fault?, Option.some.injEq, reduceCtorEq, Option.ite_none_right_eq_some] at hfault
  case number =>
    obtain ⟨-, rfl⟩ := hfault
    have hnone := lineFeeds_of_isSolid h trivial
    exact LexicalFault.lineFeeds_numberTooLarge (ne_of_mem_text hnone)
  case string.false | blockComment.false =>
    subst hfault
    rfl
  case stray =>
    subst hfault
    have hnone := lineFeeds_of_isSolid h trivial
    exact LexicalFault.lineFeeds_unexpected (ne_of_mem_text hnone c (List.mem_singleton_self c))

/-- **No lexical error has a line feed.** -/
theorem lineFeeds_of_mem_errors {source : String} {e : LexicalError}
    (h : e ∈ (scan source).errors) : lineFeeds e.render = 0 := by
  obtain ⟨⟨line, s⟩, hentry, herror⟩ := List.mem_filterMap.1 h
  obtain ⟨rest, hmunch⟩ := Segment.munch_of_mem_withLines hentry
  obtain ⟨fault, hfault, rfl⟩ := Option.map_eq_some_iff.1 herror
  rw [LexicalError.lineFeeds_render]
  exact Segment.lineFeeds_message hmunch hfault

end Lexical

/-! ## Tokens -/

section Tokens

variable {source : String} {t : Token} {s : Segment} {rest : List Char} {kind : Token.Kind}

/-- A segment that makes a token is solid, unless the token is a string. -/
theorem Segment.isSolid_of_kind? (hkind : s.kind? = some kind) (hne : kind ≠ .string) :
    s.IsSolid := by
  cases s with
  | symbol | word | number => trivial
  | string => exact absurd (Option.some.inj hkind).symm hne
  | _ => cases hkind

/-- **The line feeds of a token's place** are those of its lexeme, and only strings have any. -/
theorem Token.lineFeeds_of_mem_tokens (h : t ∈ (scan source).tokens) :
    lineFeeds t.place = lineFeeds t.lexeme ∧ (t.kind ≠ .string → lineFeeds t.lexeme = 0) := by
  rw [lineFeeds_place]
  rcases List.mem_append.1 h with hmade | hlast
  · obtain ⟨⟨line, s⟩, hentry, htoken⟩ := List.mem_filterMap.1 hmade
    obtain ⟨rest, hmunch⟩ := Segment.munch_of_mem_withLines hentry
    obtain ⟨kind, hkind, rfl⟩ := Option.map_eq_some_iff.1 htoken
    have hend : kind ≠ .endOfInput := by
      rintro rfl
      exact Segment.kind?_ne_endOfInput hmunch hkind
    rw [Token.isEnd, if_neg (by simpa using hend)]
    refine ⟨rfl, fun hne => lineFeeds_ofList (Segment.ne_of_mem_text ?_)⟩
    exact Segment.lineFeeds_of_isSolid hmunch (Segment.isSolid_of_kind? hkind hne)
  · rw [List.mem_singleton.1 hlast]
    exact ⟨rfl, fun _ => rfl⟩

end Tokens

/-! ## Syntax errors -/

namespace Parsing

/-- What parsing finds wrong with an expression and with what is left behind it. -/
def expressionFaults : List SyntaxFault :=
  [missingColon, missingParenthesis, .noExpression, .trailing, .tooDeep]

/-- The rule fails with one of these faults only. -/
def FindsFaults (r : Rule) : Prop :=
  ∀ tokens f, r.run tokens = .error f → f.fault ∈ expressionFaults

section Faults

variable {operand branch inner : Rule} {operators : List Token.Kind} {tokens : List Token}
  {f : Failure}

/-- A chain finds the faults of its operands. -/
theorem chainFrom_findsFaults (h : FindsFaults operand) {left : Expr}
    (hrun : chainFrom operand operators left tokens = .error f) : f.fault ∈ expressionFaults := by
  fun_induction chainFrom operand operators left tokens with
  | case1 left => cases hrun
  | case2 left t others _ g run =>
    cases hrun
    exact h _ _ run
  | case3 left t others _ right after run ih => exact ih hrun
  | case4 left t others _ => cases hrun

/-- A level finds the faults of its operands. -/
theorem chain_findsFaults (h : FindsFaults operand) : FindsFaults (chain operand operators) := by
  intro tokens f hrun
  rcases chain_run_error hrun with hfirst | ⟨left, after, -, hbehind⟩
  · exact h _ _ hfirst
  · exact chainFrom_findsFaults h hbehind

/-- A conditional lacks its colon, or it finds the faults of its branches. -/
theorem conditional_findsFaults (h : FindsFaults branch) : FindsFaults (conditional branch) := by
  intro tokens f hrun
  rcases conditional_run_error hrun with hcondition | ⟨condition, t, after, -, -, hbranches⟩
  · exact h _ _ hcondition
  · rcases branches_eq_error_iff.1 hbranches with
      hfirst | ⟨first, middle, -, rfl, -⟩ | ⟨first, colon, middle, -, -, hsecond⟩
    · exact h _ _ hfirst
    · exact List.mem_cons_self
    · exact h _ _ hsecond

theorem expressionOf_findsFaults (h : FindsFaults inner) : FindsFaults (expressionOf inner) :=
  conditional_findsFaults
    (chain_findsFaults (chain_findsFaults (chain_findsFaults (chain_findsFaults h))))

/-- An operand is missing, nested too deep or not closed, or one inside it is at fault. -/
theorem unary_findsFaults_of_inner {n : Nat} (hinner : ∀ m < n, FindsFaults (unary m)) :
    FindsFaults (unary n) := by
  have hnone : SyntaxFault.noExpression ∈ expressionFaults := by decide
  have hdeep : SyntaxFault.tooDeep ∈ expressionFaults := by decide
  intro tokens f hrun
  cases tokens with
  | nil =>
    rw [unary_run_nil] at hrun
    cases hrun
    exact hnone
  | cons t rest =>
    rcases unary_run_cases n t rest with ⟨v, -, hcase⟩ | ⟨m, rfl, -, hcase⟩ |
      ⟨m, rfl, -, hcase⟩ | ⟨-, -, hcase⟩ | ⟨-, -, hcase⟩ <;> rw [hcase] at hrun
    · cases hrun
    · exact hinner m (Nat.lt_succ_self m) _ _ (negated_eq_error_iff.1 hrun)
    · rcases parenthesized_eq_error_iff.1 hrun with hbody | ⟨body, after, -, rfl, -⟩
      · exact expressionOf_findsFaults (hinner m (Nat.lt_succ_self m)) _ _ hbody
      · exact List.mem_cons_of_mem _ List.mem_cons_self
    · cases hrun
      exact hdeep
    · cases hrun
      exact hnone

/-- Operands find these faults at every depth of nesting. -/
theorem unary_findsFaults (n : Nat) : FindsFaults (unary n) := by
  induction n using Nat.strongRecOn with
  | ind n ih => exact unary_findsFaults_of_inner ih

/-- **Reading to the end** finds these faults only. -/
theorem fault_mem_of_complete (h : (complete tokens).1 = .error f) :
    f.fault ∈ expressionFaults := by
  simp only [complete] at h
  split at h <;> rename_i hrun
  · cases h
    exact expressionOf_findsFaults (unary_findsFaults maxNesting) tokens f hrun
  · split at h
    · cases h
    · have htrailing : SyntaxFault.trailing ∈ expressionFaults := by decide
      cases h
      exact htrailing

/-- **An error of parsing** names one of the tokens, and its message is that of one of
the faults. -/
theorem error_of_mem_syntactic {e : SyntaxError} (hend : ∃ t ∈ tokens, t.isEnd = true)
    (h : e ∈ (parse tokens).syntactic) :
    e.token ∈ tokens ∧ ∃ fault ∈ expressionFaults, e.message = fault.message := by
  simp only [parse] at h
  split at h
  · cases h
  · rename_i f hcomplete
    rw [List.mem_singleton.1 h]
    refine ⟨?_, f.fault, fault_mem_of_complete hcomplete, rfl⟩
    obtain ⟨used, hused, -⟩ := Grammar.located_of_complete hcomplete
    show f.found.head?.getD (Input.ofTokens tokens).ending ∈ tokens
    cases hfound : f.found with
    | nil =>
      obtain ⟨others, hcons⟩ := Input.dropWhile_eq_cons hend
      exact (List.dropWhile_suffix _).subset (hcons ▸ List.mem_cons_self)
    | cons t rest =>
      have hmem : t ∈ (Input.ofTokens tokens).tokens := by
        rw [hused, hfound]
        exact List.mem_append_right used List.mem_cons_self
      exact (List.takeWhile_prefix _).subset hmem

end Faults

end Parsing

theorem lineFeeds_message_of_mem : ∀ fault ∈ expressionFaults, lineFeeds fault.message = 0 := by
  simp only [expressionFaults, List.forall_mem_cons]
  exact ⟨rfl, rfl, rfl, rfl, rfl, List.forall_mem_nil _⟩

/-- **A syntax error has the line feeds of its token**, which is a token of the source, and only
strings have any. -/
theorem lineFeeds_of_mem_syntactic {source : String} {e : SyntaxError}
    (h : e ∈ (parseSource source).syntactic) :
    e.token ∈ (scan source).tokens ∧ lineFeeds e.render = lineFeeds e.token.lexeme ∧
      (e.token.kind ≠ .string → lineFeeds e.token.lexeme = 0) := by
  obtain ⟨hmem, fault, hfault, hmessage⟩ := error_of_mem_syntactic (exists_isEnd_scan source) h
  obtain ⟨hplace, hkind⟩ := Token.lineFeeds_of_mem_tokens hmem
  refine ⟨hmem, ?_, hkind⟩
  rw [SyntaxError.lineFeeds_render, hmessage, lineFeeds_message_of_mem fault hfault, hplace,
    Nat.add_zero]

/-! ## The report of a source -/

/-- The errors of a source as they are listed. -/
def Parsed.items (p : Parsed) : List Item := Item.ofErrors p.lexical p.syntactic

/-- The line feeds of the errors are those of the tokens that syntax errors name. -/
theorem sum_lineFeeds_items (source : String) :
    (((parseSource source).items.map Item.render).map lineFeeds).sum =
      ((parseSource source).syntactic.map fun e => lineFeeds e.token.lexeme).sum := by
  have hlexical : ((parseSource source).lexical.map fun e => lineFeeds e.render).sum = 0 := by
    rw [List.sum_eq_zero_iff_forall_eq_nat, List.forall_mem_map]
    exact fun e he => lineFeeds_of_mem_errors he
  have hsyntactic : (parseSource source).syntactic.map (fun e => lineFeeds e.render) =
      (parseSource source).syntactic.map fun e => lineFeeds e.token.lexeme :=
    List.map_congr_left fun e he => (lineFeeds_of_mem_syntactic he).2.1
  simp only [Parsed.items, Item.ofErrors, List.map_append, List.map_map, List.sum_append_nat,
    Function.comp_def, Item.render, hlexical, hsyntactic, Nat.zero_add]

/-- **The lines of a report.**  The lines of the report of a source are those of its errors, in
order.  A lexical error is one line.  A syntax error has one line more than the token that it names
has line feeds, and only a string has any.  So there is one line for each error, which is the error
as it is rendered, exactly if no syntax error names a string that goes over several lines. -/
theorem lines_report (source : String) (herrors : (parseSource source).items ≠ []) :
    let p := parseSource source
    lines (report p.items) = p.items.flatMap (fun item => lines item.render) ∧
      (∀ e ∈ p.lexical, lines e.render = [e.render]) ∧
      (∀ e ∈ p.syntactic, (lines e.render).length = lineFeeds e.token.lexeme + 1 ∧
        e.token ∈ (scan source).tokens ∧
          (e.token.kind ≠ .string → lineFeeds e.token.lexeme = 0)) ∧
      (lines (report p.items)).length =
        p.items.length + (p.syntactic.map fun e => lineFeeds e.token.lexeme).sum ∧
      (lines (report p.items) = p.items.map Item.render ↔
        ∀ e ∈ p.syntactic, lineFeeds e.token.lexeme = 0) := by
  intro p
  have hlines : lines (report p.items) = (p.items.map Item.render).flatMap lines :=
    lines_intercalate fun hnil => herrors (List.map_eq_nil_iff.1 hnil)
  have hsum := sum_lineFeeds_items source
  refine ⟨?_, fun e he => lines_eq_singleton (lineFeeds_of_mem_errors he), fun e he => ?_, ?_, ?_⟩
  · rw [hlines, List.flatMap_map]
  · obtain ⟨hmem, hfeeds, hkind⟩ := lineFeeds_of_mem_syntactic he
    exact ⟨by rw [length_lines, hfeeds], hmem, hkind⟩
  · rw [hlines, length_flatMap_lines, hsum, List.length_map]
  · rw [hlines, flatMap_lines_eq_iff, hsum, List.sum_eq_zero_iff_forall_eq_nat,
      List.forall_mem_map]

/-- A stray character and a missing operand make a line each. -/
theorem lines_report_stray :
    let p := parseSource "@ +"
    p.items ≠ [] ∧ lines (report p.items) = p.items.map Item.render ∧
      p.items.map Item.render = ["[line 1] Error: Unexpected character '@'.",
        "[line 1] Error at '+': Expect expression."] := by
  intro p
  have herrors : p.items ≠ [] := by decide +kernel
  have honly : ∀ e ∈ p.syntactic, lineFeeds e.token.lexeme = 0 := by decide +kernel
  exact ⟨herrors, (lines_report "@ +" herrors).2.2.2.2.2 honly, by decide +kernel⟩

/-- **One error may take up two lines**: a string over two lines is shown as it stands. -/
theorem exists_error_over_lines : ∃ source, (parseSource source).items.length = 1 ∧
    lines (report (parseSource source).items) =
      ["[line 1] Error at '\"a", "b\"': Expect end of expression."] :=
  ⟨"1 \"a\nb\"", by decide +kernel, by decide +kernel⟩

end LoxSyntax
