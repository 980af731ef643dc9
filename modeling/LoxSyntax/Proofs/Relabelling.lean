/-
# Exchanged tokens

The parser decides by the kinds of tokens and takes the literals from them; it never looks at a
lexeme or at a line.  So if the tokens of a list are exchanged for others of the same kinds with the
same literals, then every step of a session does the same as before, with the tokens exchanged.  The
tokens of two sources that differ only in layout and comments become the same ones when their lines
are taken away.
-/
import LoxSyntax.Expr.Postfix
import LoxSyntax.Expr.Prefix
import LoxSyntax.Proofs.Translation

namespace LoxSyntax

/-! ## Exchanging tokens -/

/-- The tree with its operators exchanged. -/
def Expr.mapOperators (f : Token → Token) : Expr → Expr
  | binary left operator right => .binary (left.mapOperators f) (f operator) (right.mapOperators f)
  | grouping inner => .grouping (inner.mapOperators f)
  | literal value => .literal value
  | unary operator right => .unary (f operator) (right.mapOperators f)
  | ternary condition thenBranch elseBranch =>
    .ternary (condition.mapOperators f) (thenBranch.mapOperators f) (elseBranch.mapOperators f)

namespace Parsing

/-- The function exchanges each token for one of the same kind with the same literal. -/
structure Relabels (f : Token → Token) : Prop where
  kind : ∀ t, (f t).kind = t.kind
  literal : ∀ t, (f t).literal = t.literal

/-- The outcome with the tokens of its tree, or those found, exchanged. -/
def mapOutcome (f : Token → Token) : Outcome → Outcome
  | .ok e => .ok (e.mapOperators f)
  | .error g => .error (g.mapTokens f)

theorem Relabels.translates {f : Token → Token} (h : Relabels f) : Translates f id :=
  ⟨h.kind, h.literal, rfl, fun _ => rfl⟩

/-- A tree whose literals stay is translated by exchanging its operators. -/
theorem translate_id (f : Token → Token) (e : Expr) : e.translate f id = e.mapOperators f := by
  induction e with
  | binary left operator right ihLeft ihRight =>
    rw [Expr.translate, Expr.mapOperators, ihLeft, ihRight]
  | grouping inner ih => rw [Expr.translate, Expr.mapOperators, ih]
  | literal value => rfl
  | unary operator right ih => rw [Expr.translate, Expr.mapOperators, ih]
  | ternary condition thenBranch elseBranch ihCondition ihThen ihElse =>
    rw [Expr.translate, Expr.mapOperators, ihCondition, ihThen, ihElse]

theorem translateOutcome_id (f : Token → Token) : translateOutcome f id = mapOutcome f := by
  funext outcome
  cases outcome with
  | ok e => exact congrArg Except.ok (translate_id f e)
  | error failure => rfl

/-! ## Sessions -/

/-- The session with all its tokens exchanged. -/
def Session.mapTokens (f : Token → Token) (s : Session) : Session where
  input := ⟨s.input.tokens.map f, f s.input.ending⟩
  rest := s.rest.map f
  failures := s.failures.map (·.mapTokens f)

/-- What a step yields, with the operators of its trees exchanged. -/
def Session.Yield.mapOperators (f : Token → Token) : Session.Yield → Session.Yield
  | nothing => .nothing
  | expression e? => .expression (e?.map (·.mapOperators f))
  | expressions es => .expressions (es.map (·.mapOperators f))

section Sessions

variable {f : Token → Token} {tokens : List Token}

theorem expressions_map_outcome (f : Token → Token) (outcomes : List Outcome) :
    expressions (outcomes.map (mapOutcome f)) =
      (expressions outcomes).map (·.mapOperators f) :=
  expressions_map (fun _ => rfl) (fun _ => ⟨_, rfl⟩) outcomes

theorem failures_map_outcome (f : Token → Token) (outcomes : List Outcome) :
    failures (outcomes.map (mapOutcome f)) = (failures outcomes).map (·.mapTokens f) :=
  failures_map (fun _ => ⟨_, rfl⟩) (fun _ => rfl) outcomes

/-- A session over exchanged tokens starts as the session with its tokens exchanged, if the list has
a token for its end. -/
theorem ofTokens_map (h : Relabels f) (hend : ∃ t ∈ tokens, t.isEnd = true) :
    Session.ofTokens (tokens.map f) = (Session.ofTokens tokens).mapTokens f := by
  unfold Session.ofTokens Session.mapTokens
  rw [input_map h.translates hend]
  rfl

theorem current_mapTokens (f : Token → Token) (s : Session) :
    (s.mapTokens f).current = s.current := by
  simp only [Session.current, Session.mapTokens, List.length_map]

theorem errors_mapTokens (f : Token → Token) (s : Session) :
    (s.mapTokens f).errors = s.errors.map (·.mapToken f) := by
  simp only [Session.errors, Session.mapTokens, List.map_map]
  exact List.map_congr_left fun failure _ => failure.error_mapTokens f s.input

/-- What is recorded are the exchanged outcomes. -/
theorem record_mapTokens (f : Token → Token) (s : Session) (outcomes : List Outcome)
    (rest : List Token) : (s.mapTokens f).record (outcomes.map (mapOutcome f)) (rest.map f) =
      (s.record outcomes rest).mapTokens f := by
  unfold Session.record
  rw [failures_map_outcome]
  simp only [Session.mapTokens, List.map_append]

/-- **Every step does the same with exchanged tokens.** -/
theorem step_mapTokens (h : Relabels f) (s : Session) (step : Session.Step) :
    (s.mapTokens f).step step =
      ((s.step step).1.mapOperators f, (s.step step).2.mapTokens f) := by
  have hrest : (s.mapTokens f).rest = s.rest.map f := rfl
  cases step with
  | parse =>
    simp only [Session.step, hrest, complete_map h.translates, translateOutcome_id]
    rw [← record_mapTokens]
    cases (complete s.rest).1 <;> rfl
  | parseBatch =>
    simp only [Session.step, hrest, batch_map h.translates, translateOutcome_id]
    rw [expressions_map_outcome, ← record_mapTokens]
    rfl
  | synchronize =>
    simp only [Session.step, hrest, synchronize_map h.translates]
    rw [← record_mapTokens]
    rfl
  | idle => rfl

/-- **Every run does the same with exchanged tokens.** -/
theorem run_mapTokens (h : Relabels f) (s : Session) (steps : List Session.Step) :
    (s.mapTokens f).run steps =
      (s.run steps).map fun (y, s') => (y.mapOperators f, s'.mapTokens f) := by
  induction steps generalizing s with
  | nil => rfl
  | cons step steps ih =>
    rw [Session.run, Session.run, step_mapTokens h, ih, List.map_cons]

end Sessions

/-! ## Sources that differ in layout -/

/-- The two forms in which an expression is printed. -/
abbrev forms (e : Expr) : Except Value.Unrenderable String × Except Value.Unrenderable String :=
  (e.prefixForm, e.postfixForm)

/-- What an error says apart from its line. -/
abbrev complaint (e : SyntaxError) : String × Option String × String :=
  (e.message, e.code?, e.token.place)

/-- The token without its line. -/
def withoutLine (t : Token) : Token := { t with line := 0 }

theorem relabels_withoutLine : Relabels withoutLine := ⟨fun _ => rfl, fun _ => rfl⟩

/-- The prefix form shows the lexemes of operators only. -/
theorem prefixForm_mapOperators {f : Token → Token} (hf : ∀ t, (f t).lexeme = t.lexeme) (e : Expr) :
    (e.mapOperators f).prefixForm = e.prefixForm := by
  induction e with
  | binary left operator right ihLeft ihRight =>
    simp only [Expr.mapOperators, Expr.prefixForm, ihLeft, ihRight, hf]
  | grouping inner ih => simp only [Expr.mapOperators, Expr.prefixForm, ih]
  | literal value => rfl
  | unary operator right ih => simp only [Expr.mapOperators, Expr.prefixForm, ih, hf]
  | ternary condition thenBranch elseBranch ihCondition ihThen ihElse =>
    simp only [Expr.mapOperators, Expr.prefixForm, ihCondition, ihThen, ihElse]

/-- The postfix form shows the lexemes of operators only. -/
theorem postfixForm_mapOperators {f : Token → Token} (hf : ∀ t, (f t).lexeme = t.lexeme)
    (e : Expr) : (e.mapOperators f).postfixForm = e.postfixForm := by
  induction e with
  | binary left operator right ihLeft ihRight =>
    simp only [Expr.mapOperators, Expr.postfixForm, ihLeft, ihRight, hf]
  | grouping inner ih => simp only [Expr.mapOperators, Expr.postfixForm, ih]
  | literal value => rfl
  | unary operator right ih => simp only [Expr.mapOperators, Expr.postfixForm, ih, hf]
  | ternary condition thenBranch elseBranch ihCondition ihThen ihElse =>
    simp only [Expr.mapOperators, Expr.postfixForm, ihCondition, ihThen, ihElse]

/-- The forms of an expression show no lines. -/
theorem forms_withoutLine (e : Expr) : forms (e.mapOperators withoutLine) = forms e := by
  have hlexeme : ∀ t, (withoutLine t).lexeme = t.lexeme := fun _ => rfl
  rw [forms, prefixForm_mapOperators hlexeme, postfixForm_mapOperators hlexeme]

/-- The trees that a step yields have the same forms without lines. -/
theorem forms_trees_withoutLine (y : Session.Yield) :
    (y.mapOperators withoutLine).trees.map forms = y.trees.map forms := by
  cases y with
  | nothing => rfl
  | expression e? =>
    cases e? with
    | none => rfl
    | some e => exact congrArg (fun form => [form]) (forms_withoutLine e)
  | expressions es =>
    simp only [Session.Yield.mapOperators, Session.Yield.trees, List.map_map]
    exact List.map_congr_left fun e _ => forms_withoutLine e

/-- Parsing a list of tokens is the first step of a session over it. -/
theorem step_parse_ofTokens (tokens : List Token) :
    ((Session.ofTokens tokens).step .parse).1 = .expression (parse tokens).tree? ∧
      ((Session.ofTokens tokens).step .parse).2.errors = (parse tokens).syntactic := by
  simp only [Session.step, Session.ofTokens, parse]
  cases (complete (Input.ofTokens tokens).tokens).1 with
  | error f => exact ⟨rfl, rfl⟩
  | ok e => exact ⟨rfl, rfl⟩

/-- What a session shows after each of several steps, but for lines: the forms of the trees, the
number of tokens read, and what the errors say. -/
abbrev shown (s : Session) (steps : List Session.Step) :=
  (s.run steps).map fun (y, s') => (y.trees.map forms, s'.current, s'.errors.map complaint)

/-- A session without lines shows the same. -/
theorem shown_withoutLine (s : Session) (steps : List Session.Step) :
    shown (s.mapTokens withoutLine) steps = shown s steps := by
  unfold shown
  rw [run_mapTokens relabels_withoutLine, List.map_map]
  apply List.map_congr_left
  rintro ⟨y, s'⟩ -
  have herrors : (s'.mapTokens withoutLine).errors.map complaint = s'.errors.map complaint := by
    rw [errors_mapTokens, List.map_map]
    rfl
  simp only [Function.comp_apply, forms_trees_withoutLine, current_mapTokens, herrors]

/-- **Sources whose tokens differ in their lines only** show the same in a session. -/
theorem shown_eq_of_tokens {source source' : String}
    (h : (scan source).tokens.map (fun t => (t.kind, t.lexeme, t.literal)) =
      (scan source').tokens.map fun t => (t.kind, t.lexeme, t.literal))
    (steps : List Session.Step) :
    shown (Session.ofTokens (scan source).tokens) steps =
      shown (Session.ofTokens (scan source').tokens) steps := by
  have hsame : (scan source).tokens.map withoutLine = (scan source').tokens.map withoutLine := by
    have hread :=
      congrArg (List.map fun (kind, lexeme, literal) => Token.mk kind lexeme literal 0) h
    rwa [List.map_map, List.map_map] at hread
  have hsession (source : String) : shown (Session.ofTokens (scan source).tokens) steps =
      shown (Session.ofTokens ((scan source).tokens.map withoutLine)) steps := by
    rw [ofTokens_map relabels_withoutLine (exists_isEnd_scan source), shown_withoutLine]
  rw [hsession source, hsession source', hsame]

/-- What parsing a source shows is what the first step of a session shows. -/
theorem shown_parse (tokens : List Token) :
    (shown (Session.ofTokens tokens) [.parse]).map (fun (trees, _, errors) => (trees, errors)) =
      [((parse tokens).tree?.toList.map forms, (parse tokens).syntactic.map complaint)] := by
  obtain ⟨htree, herrors⟩ := step_parse_ofTokens tokens
  rw [← herrors]
  simp only [shown, Session.run, List.map_cons, List.map_nil, htree, Session.Yield.trees]

/-- **A session looks at kinds and literals only.**  If the tokens of a list with an end are
exchanged for others of the same kinds with the same literals, then after every step the same number
of tokens has been read, the trees are the same ones with their operators exchanged, and the errors
are the same ones with their tokens exchanged.  Hence two sources that are scanned to the same
kinds, lexemes and literals are parsed to trees with the same forms or to errors that say the same
but for their lines, in whatever steps they are parsed.  (A comment left open is an error of the
scan, and so it is no matter of the parser.) -/
theorem session_run_exchanged :
    (∀ f : Token → Token, Relabels f → ∀ tokens : List Token, (∃ t ∈ tokens, t.isEnd = true) →
      ∀ steps : List Session.Step,
        ((Session.ofTokens (tokens.map f)).run steps).map (fun (y, s) => (y, s.current, s.errors)) =
          ((Session.ofTokens tokens).run steps).map fun (y, s) =>
            (y.mapOperators f, s.current, s.errors.map (·.mapToken f))) ∧
    ∀ source source' : String, (scan source).tokens.map (fun t => (t.kind, t.lexeme, t.literal)) =
        (scan source').tokens.map (fun t => (t.kind, t.lexeme, t.literal)) →
      (parseSource source).tree?.map forms = (parseSource source').tree?.map forms ∧
      (parseSource source).syntactic.map complaint = (parseSource source').syntactic.map complaint ∧
      ∀ steps : List Session.Step, shown (Session.ofTokens (scan source).tokens) steps =
        shown (Session.ofTokens (scan source').tokens) steps := by
  constructor
  · intro f h tokens hend steps
    rw [ofTokens_map h hend, run_mapTokens h, List.map_map]
    apply List.map_congr_left
    rintro ⟨y, s⟩ -
    simp only [Function.comp_apply, current_mapTokens, errors_mapTokens]
  · intro source source' hsame
    have hshown := shown_eq_of_tokens hsame
    have hparse := congrArg (List.map fun (trees, _, errors) => (trees, errors)) (hshown [.parse])
    rw [shown_parse, shown_parse, List.singleton_inj, Prod.mk.injEq] at hparse
    have hforms := congrArg List.head? hparse.1
    rw [List.head?_map, List.head?_map, Option.head?_toList, Option.head?_toList] at hforms
    exact ⟨hforms, hparse.2, hshown⟩

/-- Operators renamed and moved to another line, and a comment and a line feed put into a source. -/
theorem session_run_exchanged_comment :
    let f : Token → Token := fun t => { t with lexeme := "word", line := 7 }
    let tokens := [⟨.minus, "-", .nil, 1⟩, ⟨.number, "1", .number .one, 1⟩, ⟨.plus, "+", .nil, 2⟩,
      Token.endAt 2]
    let steps := [Session.Step.parse, .parseBatch]
    Relabels f ∧ (∃ t ∈ tokens, t.isEnd = true) ∧
      ((Session.ofTokens (tokens.map f)).run steps).map (fun (y, s) => (y, s.current, s.errors)) =
        ((Session.ofTokens tokens).run steps).map (fun (y, s) =>
          (y.mapOperators f, s.current, s.errors.map (·.mapToken f))) ∧
      (scan "1 + 2").tokens.map (fun t => (t.kind, t.lexeme, t.literal)) =
        (scan "1 /* one */\n+ 2").tokens.map (fun t => (t.kind, t.lexeme, t.literal)) ∧
      (parseSource "1 + 2").tree?.map forms = (parseSource "1 /* one */\n+ 2").tree?.map forms := by
  intro f tokens steps
  have h : Relabels f := ⟨fun _ => rfl, fun _ => rfl⟩
  have hend : ∃ t ∈ tokens, t.isEnd = true := ⟨Token.endAt 2, by decide, rfl⟩
  have hsame : (scan "1 + 2").tokens.map (fun t => (t.kind, t.lexeme, t.literal)) =
      (scan "1 /* one */\n+ 2").tokens.map fun t => (t.kind, t.lexeme, t.literal) := by
    decide +kernel
  exact ⟨h, hend, session_run_exchanged.1 f h tokens hend steps, hsame,
    (session_run_exchanged.2 _ _ hsame).1⟩

end Parsing

end LoxSyntax
