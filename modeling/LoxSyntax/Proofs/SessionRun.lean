/-
# Whole runs of a session

The steps of a session as walks over the list of tokens, and what they keep.  However the steps are
mixed, each of them comes to one end only, the cursor stays before the first token that ends the
input and never goes back, no level of nesting stays open, and the errors are added at the end, each
at a token behind those named before.
-/
import LoxSyntax.Proofs.Walk

namespace LoxSyntax.Grammar

open Parsing

/-! ## Steps as walks -/

section Walks

variable (tokens : List Token)

/-- Recovery goes on up to a boundary or to the end of the input. -/
inductive SkipWalk : Nat → Nat → Prop
  | atEnd {k : Nat} {t : Token} (ht : ahead? tokens k = some t) (hend : t.isEnd = true) :
      SkipWalk k k
  | boundary {k : Nat} {t u : Token} (ht : ahead? tokens k = some t) (hend : t.isEnd = false)
      (hu : behind? tokens k = some u) (hb : isBoundary u t = true) : SkipWalk k k
  | next {k l m : Nat} {t u v : Token} (ht : ahead? tokens k = some t) (hend : t.isEnd = false)
      (hu : behind? tokens k = some u) (hb : isBoundary u t = false)
      (hp : pass? tokens k = some (v, l)) (h : SkipWalk l m) : SkipWalk k m

/-- Recovery goes over one token before it looks for a boundary. -/
inductive RecoveryWalk : Nat → Nat → Prop
  | skip {k l m : Nat} {t : Token} (hp : pass? tokens k = some (t, l)) (h : SkipWalk tokens l m) :
      RecoveryWalk k m

/-- The place behind a semicolon, if there is one ahead. -/
def dropSemicolon? (k : Nat) : Option Nat :=
  (accept? tokens [.semicolon] k).map fun read => (read.map Prod.snd).getD k

/-- What an expression has to be: all of the input, or a statement. -/
inductive Mode where
  | complete
  | statement

/-- An expression is read as all of the input or as a statement, or an error is reported and
followed by recovery. -/
inductive AttemptWalk : Mode → Nat → Except Report Expr → Cursor → Prop
  | fails {mode : Mode} {k l : Nat} {r : Report} {c : Cursor}
      (h : Walk tokens (.phrase .expression) ⟨k, 0⟩ (.error r) c)
      (hs : RecoveryWalk tokens c.place l) : AttemptWalk mode k (.error r) ⟨l, c.depth⟩
  | complete {k l : Nat} {e : Expr} {c : Cursor} {t : Token}
      (h : Walk tokens (.phrase .expression) ⟨k, 0⟩ (.ok e) c)
      (hl : dropSemicolon? tokens c.place = some l) (ht : ahead? tokens l = some t)
      (hend : t.isEnd = true) : AttemptWalk .complete k (.ok e) ⟨l, c.depth⟩
  | trailing {k l m : Nat} {e : Expr} {c : Cursor} {t : Token} {r : Report}
      (h : Walk tokens (.phrase .expression) ⟨k, 0⟩ (.ok e) c)
      (hl : dropSemicolon? tokens c.place = some l) (ht : ahead? tokens l = some t)
      (hend : t.isEnd = false) (hr : reportAhead? tokens .trailing l = some r)
      (hs : RecoveryWalk tokens l m) : AttemptWalk .complete k (.error r) ⟨m, c.depth⟩
  | statement {k l : Nat} {e : Expr} {c : Cursor} {t : Token}
      (h : Walk tokens (.phrase .expression) ⟨k, 0⟩ (.ok e) c)
      (hl : accept? tokens [.semicolon] c.place = some (some (t, l))) :
      AttemptWalk .statement k (.ok e) ⟨l, c.depth⟩
  | semicolonMissing {k l : Nat} {e : Expr} {c : Cursor} {r : Report}
      (h : Walk tokens (.phrase .expression) ⟨k, 0⟩ (.ok e) c)
      (hl : accept? tokens [.semicolon] c.place = some none)
      (hr : reportAhead? tokens missingSemicolon c.place = some r)
      (hs : RecoveryWalk tokens c.place l) : AttemptWalk .statement k (.error r) ⟨l, c.depth⟩

/-- Statements are read up to the end of the input. -/
inductive BatchWalk : Cursor → List (Except Report Expr) → Cursor → Prop
  | atEnd {c : Cursor} {t : Token} (ht : ahead? tokens c.place = some t) (hend : t.isEnd = true) :
      BatchWalk c [] c
  | next {c c₁ c' : Cursor} {t : Token} {r : Except Report Expr} {rs : List (Except Report Expr)}
      (ht : ahead? tokens c.place = some t) (hend : t.isEnd = false)
      (h : AttemptWalk tokens .statement c.place r c₁) (hrest : BatchWalk c₁ rs c') :
      BatchWalk c (r :: rs) c'

/-- A cursor, and the errors reported so far. -/
structure State where
  cursor : Cursor
  reports : List Report

/-- The state before the first step. -/
def State.start : State := ⟨⟨0, 0⟩, []⟩

/-- The state with more errors and another cursor. -/
def State.record (s : State) (rs : List (Except Report Expr)) (c : Cursor) : State :=
  ⟨c, s.reports ++ rs.filterMap fun
    | .error r => some r
    | .ok _ => none⟩

/-- One step, what it yields, and the state after it. -/
inductive StepWalk : State → Session.Step → Session.Yield → State → Prop
  | parse {s : State} {r : Except Report Expr} {c : Cursor}
      (h : AttemptWalk tokens .complete s.cursor.place r c) :
      StepWalk s .parse (.expression r.toOption) (s.record [r] c)
  | parseBatch {s : State} {rs : List (Except Report Expr)} {c : Cursor}
      (h : BatchWalk tokens s.cursor rs c) :
      StepWalk s .parseBatch (.expressions (rs.filterMap Except.toOption)) (s.record rs c)
  | synchronize {s : State} {l : Nat} (h : RecoveryWalk tokens s.cursor.place l) :
      StepWalk s .synchronize .nothing (s.record [] ⟨l, s.cursor.depth⟩)
  | idle {s : State} : StepWalk s .idle .nothing s

/-- Several steps, with what each of them yields and the state after it. -/
inductive RunWalk : State → List Session.Step → List (Session.Yield × State) → Prop
  | nil {s : State} : RunWalk s [] []
  | cons {s s' : State} {step : Session.Step} {y : Session.Yield} {steps : List Session.Step}
      {trail : List (Session.Yield × State)} (h : StepWalk tokens s step y s')
      (hrest : RunWalk s' steps trail) : RunWalk s (step :: steps) ((y, s') :: trail)

end Walks

/-! ## One end for each step -/

section Deterministic

variable {tokens : List Token}

/-- Recovery comes to one end only. -/
theorem SkipWalk.deterministic {k l : Nat} (h : SkipWalk tokens k l) :
    ∀ {l'}, SkipWalk tokens k l' → l' = l := by
  induction h with
  | _ =>
    intro l' h'
    cases h' <;> grind

/-- Recovery comes to one end only, also with its first token. -/
theorem RecoveryWalk.deterministic {k l l' : Nat} (h : RecoveryWalk tokens k l)
    (h' : RecoveryWalk tokens k l') : l' = l := by
  obtain ⟨hp, h⟩ := h
  obtain ⟨hp', h'⟩ := h'
  rw [hp] at hp'
  cases hp'
  exact h.deterministic h'

/-- An attempt comes to one end only. -/
theorem AttemptWalk.deterministic {mode : Mode} {k : Nat} {r r' : Except Report Expr}
    {c c' : Cursor} (h : AttemptWalk tokens mode k r c) (h' : AttemptWalk tokens mode k r' c') :
    r' = r ∧ c' = c := by
  cases h <;> cases h' <;> grind [Walk.deterministic, RecoveryWalk.deterministic]

/-- A batch comes to one end only. -/
theorem BatchWalk.deterministic {c c' : Cursor} {rs : List (Except Report Expr)}
    (h : BatchWalk tokens c rs c') :
    ∀ {rs' c''}, BatchWalk tokens c rs' c'' → rs' = rs ∧ c'' = c' := by
  induction h with
  | _ =>
    intro rs' c'' h'
    cases h' <;> grind [AttemptWalk.deterministic]

/-- A step comes to one end only. -/
theorem StepWalk.deterministic {s s₁ s₂ : State} {step : Session.Step} {y₁ y₂ : Session.Yield}
    (h : StepWalk tokens s step y₁ s₁) (h' : StepWalk tokens s step y₂ s₂) :
    y₂ = y₁ ∧ s₂ = s₁ := by
  cases h <;> cases h' <;>
    grind [AttemptWalk.deterministic, BatchWalk.deterministic, RecoveryWalk.deterministic]

/-- **A run comes to one end only.** -/
theorem RunWalk.deterministic {s : State} {steps : List Session.Step}
    {trail : List (Session.Yield × State)} (h : RunWalk tokens s steps trail) :
    ∀ {trail'}, RunWalk tokens s steps trail' → trail' = trail := by
  induction h with
  | nil =>
    intro trail' h'
    cases h'
    rfl
  | cons h hrest ih =>
    intro trail' h'
    cases h' with
    | cons h' hrest' =>
      obtain ⟨rfl, rfl⟩ := h.deterministic h'
      rw [ih hrest']

end Deterministic

/-! ## The walk of a session -/

section Lands

variable {tokens rest : List Token} {t : Token}

/-- Recovery is walked as it is read. -/
theorem skip_lands (h : t :: rest <:+ (Input.ofTokens tokens).tokens) :
    SkipWalk tokens (position (Input.ofTokens tokens).tokens rest)
      (position (Input.ofTokens tokens).tokens (skipFrom t rest)) := by
  have hrest := (List.suffix_cons t rest).trans h
  have hahead := ahead?_position hrest
  have hbehind := behind?_position h
  induction rest generalizing t with
  | nil => exact .atEnd hahead (isEnd_ending tokens)
  | cons u others ih =>
    have hu := not_isEnd_of_left hrest
    rw [skipFrom]
    split
    · rename_i hb
      exact .boundary hahead hu hbehind hb
    · rename_i hb
      have hothers := (List.suffix_cons u others).trans hrest
      exact .next hahead hu hbehind (Bool.eq_false_iff.2 hb) (pass?_cons hrest)
        (ih hrest hothers (ahead?_position hothers) (behind?_position hrest))

/-- Recovery is walked as it is read, also with its first token. -/
theorem recovery_lands (h : rest <:+ (Input.ofTokens tokens).tokens) :
    RecoveryWalk tokens (position (Input.ofTokens tokens).tokens rest)
      (position (Input.ofTokens tokens).tokens (synchronize rest)) := by
  cases rest with
  | nil =>
    obtain ⟨t, hp⟩ := pass?_nil tokens
    exact .skip hp (.atEnd (ahead?_position h) (isEnd_ending tokens))
  | cons t others => exact .skip (pass?_cons h) (skip_lands h)

/-- The place behind an optional semicolon is the one of what is left there. -/
theorem dropSemicolon?_position (h : rest <:+ (Input.ofTokens tokens).tokens) :
    dropSemicolon? tokens (position (Input.ofTokens tokens).tokens rest) =
      some (position (Input.ofTokens tokens).tokens (dropSemicolon rest)) := by
  rcases front_cases .semicolon rest with ⟨t, others, rfl, hk⟩ | hnone
  · simp [dropSemicolon?, accept?_kind h hk, dropSemicolon, hk]
  · have hsame : dropSemicolon rest = rest := by
      cases rest with
      | nil => rfl
      | cons t others => simp [dropSemicolon, hnone t rfl]
    simp [dropSemicolon?, accept?_other_kind h hnone, hsame]

/-- What an outcome reports. -/
def reported (tokens : List Token) (outcome : Outcome) : Except Report Expr :=
  outcome.mapError (failureReport (Input.ofTokens tokens))

theorem expression_lands (h : rest <:+ (Input.ofTokens tokens).tokens) :
    Lands tokens (.phrase .expression) 0 rest (expression.run rest) :=
  rule_follows (n := maxNesting) rfl .expression (by decide) rest h

/-- If the expression fails, then so does the attempt, and recovery follows. -/
theorem failure_lands {mode : Mode} {f : Failure} (h : rest <:+ (Input.ofTokens tokens).tokens)
    (hrun : expression.run rest = .error f) :
    AttemptWalk tokens mode (position (Input.ofTokens tokens).tokens rest)
      (reported tokens (.error f)) (cursorAt tokens 0 (synchronize f.rest)) := by
  have hwalk := expression_lands h
  rw [hrun] at hwalk
  have hinside := f.rest_suffix.trans ((expression.found_suffix hrun).trans h)
  exact .fails hwalk (recovery_lands hinside)

/-- Reading to the end is walked as it is read. -/
theorem complete_lands (h : rest <:+ (Input.ofTokens tokens).tokens) :
    AttemptWalk tokens .complete (position (Input.ofTokens tokens).tokens rest)
      (reported tokens (complete rest).1) (cursorAt tokens 0 (complete rest).2) := by
  simp only [complete]
  split <;> rename_i hrun
  · exact failure_lands h hrun
  · have hwalk := expression_lands h
    rw [hrun] at hwalk
    have hafter := (expression.rest_suffix hrun).suffix.trans h
    have hplace := dropSemicolon?_position hafter
    have hahead := ahead?_position ((dropSemicolon_suffix _).trans hafter)
    have hbehind := (dropSemicolon_suffix _).trans hafter
    split <;> rename_i hleft <;> rw [hleft] at hplace hahead hbehind
    · exact .complete hwalk hplace hahead (isEnd_ending tokens)
    · exact .trailing hwalk hplace hahead (not_isEnd_of_left hbehind)
        (reportAhead?_position hbehind)
        (recovery_lands hbehind)

/-- A statement is walked as it is read. -/
theorem statement_lands (h : rest <:+ (Input.ofTokens tokens).tokens) :
    AttemptWalk tokens .statement (position (Input.ofTokens tokens).tokens rest)
      (reported tokens (statement rest).1) (cursorAt tokens 0 (statement rest).2) := by
  simp only [statement]
  split <;> rename_i hrun
  · exact failure_lands h hrun
  · have hwalk := expression_lands h
    rw [hrun] at hwalk
    have hafter := (expression.rest_suffix hrun).suffix.trans h
    split <;> rename_i hsemicolon
    · obtain ⟨rfl, hnone⟩ := expect_eq_error_iff.1 hsemicolon
      exact .semicolonMissing hwalk (accept?_other_kind hafter hnone)
        (reportAhead?_position hafter) (recovery_lands hafter)
    · obtain ⟨t, hk, rfl⟩ := expect_eq_ok_iff.1 hsemicolon
      exact .statement hwalk (accept?_kind hafter hk)

/-- A batch is walked as it is read. -/
theorem batch_lands (h : rest <:+ (Input.ofTokens tokens).tokens) :
    BatchWalk tokens (cursorAt tokens 0 rest) ((batch rest).map (reported tokens))
      (cursorAt tokens 0 []) := by
  fun_induction batch rest with
  | case1 => exact .atEnd (ahead?_position h) (isEnd_ending tokens)
  | case2 t rest ih =>
    exact .next (ahead?_position h) (not_isEnd_of_left h) (statement_lands h)
      (ih ((statement_rest t rest).suffix.trans h))

end Lands

/-! ## Failures in order -/

/-- The failures lie between two places: each one at what was left at the first place or behind it,
and if it is not at the end of the input, then before the second place and before all failures that
come after it. -/
structure Between (fs : List Failure) (before after : List Token) : Prop where
  found : ∀ f ∈ fs, f.found <:+ before
  passed : ∀ f ∈ fs, f.found ≠ [] → after.length < f.found.length
  ordered : fs.Pairwise fun f g => f.found ≠ [] → g.found ≠ [] → g.found.length < f.found.length

section Between

variable {before middle after tokens rest : List Token} {fs gs : List Failure} {f : Failure}

theorem between_nil (before after : List Token) : Between [] before after :=
  ⟨by simp, by simp, .nil⟩

/-- Failures between two places and the failures behind them. -/
theorem Between.append (h : Between fs before middle) (h' : Between gs middle after)
    (hmiddle : middle <:+ before) (hafter : after <:+ middle) :
    Between (fs ++ gs) before after := by
  refine ⟨?_, ?_, List.pairwise_append.2 ⟨h.ordered, h'.ordered, ?_⟩⟩
  · intro f hf
    rcases List.mem_append.1 hf with hf | hf
    · exact h.found f hf
    · exact (h'.found f hf).trans hmiddle
  · intro f hf hne
    rcases List.mem_append.1 hf with hf | hf
    · exact Nat.lt_of_le_of_lt hafter.length_le (h.passed f hf hne)
    · exact h'.passed f hf hne
  · intro f hf g hg hne _
    exact Nat.lt_of_le_of_lt (h'.found g hg).length_le (h.passed f hf hne)

/-- Recovery goes on behind the token at fault. -/
theorem Recovers.between (h : Recovers tokens f rest) : Between [f] tokens rest := by
  refine ⟨by simpa using h.found, ?_, List.pairwise_singleton _ _⟩
  simp only [List.mem_singleton, forall_eq]
  intro hne
  obtain ⟨t, behind, hcons⟩ := List.exists_cons_of_ne_nil hne
  have hstep : f.rest = behind ∨ f.rest = t :: behind := by
    rw [Failure.rest, hcons]
    split
    · exact Or.inl rfl
    · exact Or.inr rfl
  rw [h.rest, hcons]
  rcases hstep with hstep | hstep <;> rw [hstep]
  · exact Nat.lt_succ_of_le (synchronize_suffix behind).length_le
  · exact (synchronize_cons t behind).length_lt

/-- What reading to the end leaves is a suffix, and less than there was. -/
theorem complete_rest (t : Token) (rest : List Token) :
    ProperSuffix (complete (t :: rest)).2 (t :: rest) := by
  simp only [complete]
  split <;> rename_i hrun
  · exact synchronize_rest (List.cons_ne_nil t rest) hrun
  · rename_i e after
    have hread := expression.rest_suffix hrun
    split <;> rename_i hleft
    · exact .of_suffix List.nil_suffix hread
    · have hbehind := dropSemicolon_suffix after
      rw [hleft] at hbehind
      exact .of_suffix ((synchronize_suffix _).trans hbehind) hread

/-- What reading to the end leaves is a suffix. -/
theorem complete_suffix (tokens : List Token) : (complete tokens).2 <:+ tokens := by
  cases tokens with
  | nil =>
    have hrun : expression.run [] = .error ⟨.noExpression, []⟩ := by decide +kernel
    simp only [complete, hrun]
    exact List.suffix_rfl
  | cons t rest => exact (complete_rest t rest).suffix

/-- Reading to the end fails between the two places, if it fails. -/
theorem complete_between (tokens : List Token) :
    Between (failures [(complete tokens).1]) tokens (complete tokens).2 := by
  cases h : (complete tokens).1 with
  | ok e => exact between_nil _ _
  | error f => exact (recovers_of_complete h).between

/-- A statement fails between the two places, if it fails. -/
theorem statement_between (tokens : List Token) :
    Between (failures [(statement tokens).1]) tokens (statement tokens).2 := by
  cases h : (statement tokens).1 with
  | ok e => exact between_nil _ _
  | error f => exact (recovers_of_statement h).between

/-- The failures of a batch lie between its place and the end of the input. -/
theorem batch_between (tokens : List Token) : Between (failures (batch tokens)) tokens [] := by
  fun_induction batch tokens with
  | case1 => exact between_nil _ _
  | case2 t rest ih =>
    rw [← List.singleton_append, failures_append]
    exact (statement_between (t :: rest)).append ih (statement_suffix _) List.nil_suffix

end Between

/-! ## Sessions and their states -/

/-- The state of a session: its cursor, and its failures with their places. -/
def stateOf (s : Session) : State :=
  ⟨⟨s.current, s.depth⟩, s.failures.map (failureReport s.input)⟩

/-- The session reads the list, and it has failed at tokens that it has gone over only, in order. -/
structure Reaches (tokens : List Token) (s : Session) : Prop where
  input : s.input = Input.ofTokens tokens
  rest : s.rest <:+ (Input.ofTokens tokens).tokens
  between : Between s.failures (Input.ofTokens tokens).tokens s.rest

section Sessions

variable {tokens rest : List Token} {s : Session} {outcomes : List Outcome}

theorem reaches_ofTokens (tokens : List Token) : Reaches tokens (Session.ofTokens tokens) :=
  ⟨rfl, List.suffix_rfl, between_nil _ _⟩

theorem stateOf_ofTokens (tokens : List Token) : stateOf (Session.ofTokens tokens) = .start := by
  simp [stateOf, Session.ofTokens, Session.current, Session.depth, State.start]

/-- A session that goes on from where it stands reads on. -/
theorem Reaches.record (h : Reaches tokens s) (hrest : rest <:+ s.rest)
    (hfailures : Between (failures outcomes) s.rest rest) :
    Reaches tokens (s.record outcomes rest) :=
  ⟨h.input, hrest.trans h.rest, h.between.append hfailures h.rest hrest⟩

/-- **What a step does to a session**: it records what came out and goes on to a later place, to the
end of the input after a batch, and it takes a token at least unless it is idle or none is left. -/
theorem step_eq_record (s : Session) (step : Session.Step) :
    ∃ outcomes rest, (s.step step).2 = s.record outcomes rest ∧ rest <:+ s.rest ∧
      Between (failures outcomes) s.rest rest ∧
      (step ≠ .idle → s.rest ≠ [] → ProperSuffix rest s.rest) ∧
        (step = .parseBatch → rest = []) := by
  cases step with
  | parse =>
    refine ⟨_, _, rfl, complete_suffix s.rest, complete_between s.rest, fun _ hne => ?_, ?_⟩
    · obtain ⟨t, others, hcons⟩ := List.exists_cons_of_ne_nil hne
      rw [hcons]
      exact complete_rest t others
    · rintro ⟨⟩
  | parseBatch =>
    refine ⟨_, _, rfl, List.nil_suffix, batch_between s.rest, fun _ hne => ?_, fun _ => rfl⟩
    obtain ⟨t, others, hcons⟩ := List.exists_cons_of_ne_nil hne
    exact ⟨t, others, hcons, List.nil_suffix⟩
  | synchronize =>
    refine ⟨_, _, rfl, synchronize_suffix s.rest, between_nil _ _, fun _ hne => ?_, ?_⟩
    · obtain ⟨t, others, hcons⟩ := List.exists_cons_of_ne_nil hne
      rw [hcons]
      exact synchronize_cons t others
    · rintro ⟨⟩
  | idle =>
    refine ⟨[], s.rest, ?_, List.suffix_rfl, between_nil _ _, ?_, ?_⟩
    · simp [Session.step, Session.record, failures]
    · exact fun hidle => absurd rfl hidle
    · rintro ⟨⟩

/-- **Every step of a session reads on.** -/
theorem Reaches.step (h : Reaches tokens s) (step : Session.Step) :
    Reaches tokens (s.step step).2 := by
  obtain ⟨outcomes, rest, hstep, hrest, hbetween, -⟩ := step_eq_record s step
  rw [hstep]
  exact h.record hrest hbetween

/-- A failure is reported with its place. -/
theorem filterMap_reported (tokens : List Token) (outcomes : List Outcome) :
    ((outcomes.map (reported tokens)).filterMap fun
      | .error r => some r
      | .ok _ => none) = (failures outcomes).map (failureReport (Input.ofTokens tokens)) := by
  rw [failures, List.filterMap_map, List.map_filterMap]
  congr 1
  funext outcome
  cases outcome <;> rfl

theorem toOption_reported (tokens : List Token) (outcome : Outcome) :
    (reported tokens outcome).toOption = outcome.toOption := by
  cases outcome <;> rfl

/-- The expressions of a batch are yielded as they are. -/
theorem filterMap_toOption_reported (tokens : List Token) (outcomes : List Outcome) :
    (outcomes.map (reported tokens)).filterMap Except.toOption = expressions outcomes := by
  simp only [expressions, List.filterMap_map, Function.comp_def, toOption_reported]

/-- The state of a session with more failures and less left. -/
theorem stateOf_record (h : Reaches tokens s) (outcomes : List Outcome) (rest : List Token) :
    (stateOf s).record (outcomes.map (reported tokens)) (cursorAt tokens 0 rest) =
      stateOf (s.record outcomes rest) := by
  rw [State.record, filterMap_reported]
  simp only [stateOf, Session.record, Session.current, Session.depth, h.input, List.map_append,
    cursorAt, position]

theorem cursor_stateOf (h : Reaches tokens s) : (stateOf s).cursor = cursorAt tokens 0 s.rest := by
  simp only [stateOf, Session.current, Session.depth, h.input, cursorAt, position]

/-- **Every step of a session is a walk.** -/
theorem Reaches.step_lands (h : Reaches tokens s) (step : Session.Step) :
    StepWalk tokens (stateOf s) step (s.step step).1 (stateOf (s.step step).2) := by
  have hcursor := cursor_stateOf h
  have hplace : (stateOf s).cursor.place = position (Input.ofTokens tokens).tokens s.rest :=
    congrArg Cursor.place hcursor
  cases step with
  | parse =>
    have hwalk := complete_lands h.rest
    rw [← hplace] at hwalk
    have hstep := StepWalk.parse hwalk
    rw [toOption_reported, ← List.map_singleton, stateOf_record h] at hstep
    exact hstep
  | parseBatch =>
    have hwalk := batch_lands h.rest
    rw [← hcursor] at hwalk
    have hstep := StepWalk.parseBatch hwalk
    rw [filterMap_toOption_reported, stateOf_record h] at hstep
    exact hstep
  | synchronize =>
    have hwalk := recovery_lands h.rest
    rw [← hplace] at hwalk
    have hstep := StepWalk.synchronize hwalk
    have hrecord := stateOf_record h [] (synchronize s.rest)
    rw [hcursor] at hstep
    exact hrecord ▸ hstep
  | idle => exact .idle

/-- **Every run of a session is a walk.** -/
theorem Reaches.run_lands (h : Reaches tokens s) (steps : List Session.Step) :
    RunWalk tokens (stateOf s) steps ((s.run steps).map fun (y, s') => (y, stateOf s')) := by
  induction steps generalizing s with
  | nil => exact .nil
  | cons step steps ih => exact .cons (h.step_lands step) (ih (h.step step))

end Sessions

/-! ## What a run keeps -/

/-- What holds between two steps: the cursor stands in the list and not behind the first token that
ends the input, no level of nesting is open, and every error names the token at its place; the
places of those that do not name the end of the input have been passed, each one after the one
before. -/
structure WellPlaced (tokens : List Token) (s : State) : Prop where
  inside : s.cursor.place ≤ tokens.length
  beforeEnd : s.cursor.place ≤ tokens.findIdx Token.isEnd
  depth : s.cursor.depth = 0
  named : ∀ r ∈ s.reports, ahead? tokens r.place = some r.error.token
  passed : ∀ r ∈ s.reports, r.error.token.isEnd = false → r.place < s.cursor.place
  increasing : ((s.reports.filter (! ·.error.token.isEnd)).map Report.place).Pairwise (· < ·)

/-- What a step does to a state: the cursor does not go back, and it goes on unless it stands at the
end of the input, to which a batch always comes; errors are added behind those before. -/
structure Advances (tokens : List Token) (step : Session.Step) (s s' : State) : Prop where
  monotone : s.cursor.place ≤ s'.cursor.place
  reports : s.reports <+: s'.reports
  progress : step ≠ .idle → s.cursor.place < tokens.findIdx Token.isEnd →
    s.cursor.place < s'.cursor.place
  batch : step = .parseBatch → s'.cursor.place = tokens.findIdx Token.isEnd

section Invariant

variable {tokens rest : List Token} {f : Failure} {s : Session}

/-- The input ends at the first token that ends it, or with the list. -/
theorem length_ofTokens (tokens : List Token) :
    (Input.ofTokens tokens).tokens.length = tokens.findIdx Token.isEnd := by
  induction tokens with
  | nil => rfl
  | cons t others ih =>
    rw [List.findIdx_cons]
    cases ht : t.isEnd with
    | true => simp [Input.ofTokens, ht]
    | false =>
      simp only [Input.ofTokens, List.takeWhile_cons, ht, Bool.not_false, if_true,
        List.length_cons, cond_false] at ih ⊢
      rw [ih]

/-- A failure is reported at the end of the input exactly if no token was found. -/
theorem isEnd_failureReport (h : f.found <:+ (Input.ofTokens tokens).tokens) :
    (failureReport (Input.ofTokens tokens) f).error.token.isEnd = false ↔ f.found ≠ [] := by
  rcases f with ⟨fault, _ | ⟨t, behind⟩⟩
  · simp [failureReport, Failure.error, SyntaxFault.at, isEnd_ending]
  · simpa [failureReport, Failure.error, SyntaxFault.at] using not_isEnd_of_left h

/-- Less is left at a later place. -/
theorem position_lt_iff {other : List Token} (h : rest <:+ tokens) (h' : other <:+ tokens) :
    position tokens rest < position tokens other ↔ other.length < rest.length := by
  have hle := h.length_le
  have hle' := h'.length_le
  simp only [position]
  omega

/-- **A session is well placed wherever it comes to.** -/
theorem Reaches.wellPlaced (h : Reaches tokens s) : WellPlaced tokens (stateOf s) := by
  have hlength := length_ofTokens tokens
  have hle : tokens.findIdx Token.isEnd ≤ tokens.length := List.findIdx_le_length
  have hplace : (stateOf s).cursor.place = position (Input.ofTokens tokens).tokens s.rest :=
    congrArg Cursor.place (cursor_stateOf h)
  have hend : position (Input.ofTokens tokens).tokens s.rest ≤ tokens.findIdx Token.isEnd := by
    rw [← hlength]
    exact Nat.sub_le _ _
  have hreports : (stateOf s).reports =
      s.failures.map (failureReport (Input.ofTokens tokens)) := by
    rw [stateOf, h.input]
  refine ⟨by omega, by omega, rfl, ?_, ?_, ?_⟩
  · intro r hr
    rw [hreports] at hr
    obtain ⟨f, hf, rfl⟩ := List.mem_map.1 hr
    exact ahead?_position (h.between.found f hf)
  · intro r hr hinside
    rw [hreports] at hr
    obtain ⟨f, hf, rfl⟩ := List.mem_map.1 hr
    have hfound := h.between.found f hf
    rw [hplace]
    exact (position_lt_iff hfound h.rest).2
      (h.between.passed f hf ((isEnd_failureReport hfound).1 hinside))
  · rw [hreports, List.pairwise_map, List.pairwise_filter, List.pairwise_map]
    refine h.between.ordered.imp_of_mem ?_
    intro f g hf hg hordered hf' hg'
    have hfound := h.between.found f hf
    have hfound' := h.between.found g hg
    simp only [Bool.not_eq_true'] at hf' hg'
    exact (position_lt_iff hfound hfound').2 (hordered ((isEnd_failureReport hfound).1 hf')
      ((isEnd_failureReport hfound').1 hg'))

/-- **Every step of a session advances.** -/
theorem Reaches.advances (h : Reaches tokens s) (step : Session.Step) :
    Advances tokens step (stateOf s) (stateOf (s.step step).2) := by
  have hlength := length_ofTokens tokens
  have hplace : (stateOf s).cursor.place = position (Input.ofTokens tokens).tokens s.rest :=
    congrArg Cursor.place (cursor_stateOf h)
  have hplace' : (stateOf (s.step step).2).cursor.place =
      position (Input.ofTokens tokens).tokens (s.step step).2.rest :=
    congrArg Cursor.place (cursor_stateOf (h.step step))
  have hle := h.rest.length_le
  obtain ⟨outcomes, rest, hstep, hrest, -, hprogress, hbatch⟩ := step_eq_record s step
  have hleft : (s.step step).2.rest = rest := by rw [hstep, Session.record]
  rw [hleft] at hplace'
  refine ⟨?_, ?_, ?_, ?_⟩
  · have hshorter := hrest.length_le
    rw [hplace, hplace', position, position]
    omega
  · rw [hstep]
    exact ⟨_, (List.map_append ..).symm⟩
  · intro hidle hinside
    have hne : s.rest ≠ [] := by
      intro hnil
      rw [hplace, hnil, position, ← hlength] at hinside
      exact Nat.lt_irrefl _ hinside
    rw [hplace, hplace']
    exact (position_lt_iff h.rest (hrest.trans h.rest)).2 (hprogress hidle hne).length_lt
  · intro hb
    rw [hplace', hbatch hb, ← hlength]
    rfl

/-- The states of a run, the first one included. -/
def statesOf (s : Session) (steps : List Session.Step) : List State :=
  stateOf s :: (s.run steps).map fun (_, s') => stateOf s'

/-- Wherever a run comes to, it is well placed. -/
theorem Reaches.run_wellPlaced (h : Reaches tokens s) (steps : List Session.Step) :
    ∀ state ∈ statesOf s steps, WellPlaced tokens state := by
  induction steps generalizing s with
  | nil => simpa [statesOf, Session.run] using h.wellPlaced
  | cons step steps ih =>
    intro state hstate
    rcases List.mem_cons.1 hstate with rfl | hstate
    · exact h.wellPlaced
    · exact ih (h.step step) state hstate

/-- From each state of a run to the next one the step advances. -/
theorem Reaches.run_advances (h : Reaches tokens s) (steps : List Session.Step) :
    ∀ (i : Nat) (step : Session.Step) (state state' : State), steps[i]? = some step →
      (statesOf s steps)[i]? = some state → (statesOf s steps)[i + 1]? = some state' →
        Advances tokens step state state' := by
  induction steps generalizing s with
  | nil =>
    intro i step state state' hstep
    cases hstep
  | cons step steps ih =>
    intro i step' state state' hstep hstate hstate'
    cases i with
    | zero =>
      cases hstep
      cases hstate
      cases hstate'
      exact h.advances step
    | succ i => exact ih (h.step step) i step' state state' hstep hstate hstate'

/-- A run has a state for each step, and the first one. -/
theorem length_statesOf (s : Session) (steps : List Session.Step) :
    (statesOf s steps).length = steps.length + 1 := by
  rw [statesOf, List.length_cons, List.length_map]
  congr 1
  induction steps generalizing s with
  | nil => rfl
  | cons step steps ih => exact congrArg Nat.succ (ih (s.step step).2)

end Invariant

/-- **What a session keeps over a whole run.**  For every list of tokens and all steps, the walk of
these steps over the list comes to one end only, so that every step ends and no token is looked up
outside of the list.  It is the run of the session; every state in it is well placed, and every step
advances. -/
theorem session_run_invariant (tokens : List Token) (steps : List Session.Step) :
    let session := Session.ofTokens tokens
    let states := statesOf session steps
    (∀ trail, RunWalk tokens .start steps trail ↔
      trail = (session.run steps).map fun (y, s) => (y, stateOf s)) ∧
      states.head? = some .start ∧ states.length = steps.length + 1 ∧
      (∀ state ∈ states, WellPlaced tokens state) ∧
      ∀ (i : Nat) (step : Session.Step) (state state' : State), steps[i]? = some step →
        states[i]? = some state → states[i + 1]? = some state' →
          Advances tokens step state state' := by
  intro session states
  have hreaches := reaches_ofTokens tokens
  have hwalk := hreaches.run_lands steps
  rw [stateOf_ofTokens] at hwalk
  refine ⟨fun trail => ⟨hwalk.deterministic, ?_⟩, ?_, length_statesOf session steps,
    hreaches.run_wellPlaced steps, hreaches.run_advances steps⟩
  · rintro rfl
    exact hwalk
  · rw [← stateOf_ofTokens tokens]
    rfl

end LoxSyntax.Grammar
