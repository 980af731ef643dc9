/-
# Walking over the tokens

The rules of the grammar once more, as a walk over the list of tokens itself, in which nothing is
cut off or handed on: a cursor counts the tokens read and the open levels of nesting, the tokens are
looked up by their place in the list, and a look-up outside of the list gives nothing, so that the
walk cannot go on.  A walk that comes to an end has found every token that it looked for.

Walks and rules agree: from a place before the end of the input a walk comes to one end only, which
is the answer of the rule on the tokens that are left there (`walk_phrase_iff`).
-/
import LoxSyntax.Proofs.FirstFault
import LoxSyntax.Proofs.Recovery

namespace LoxSyntax.Grammar

open Parsing

/-! ## Looking at the list -/

section Lookup

variable (tokens : List Token)

/-- The token ahead of a place.  Behind the last token the input ends, on the line of that token. -/
def ahead? (k : Nat) : Option Token :=
  if k < tokens.length then tokens[k]? else some (Token.endAt (finalLine tokens))

/-- The token before a place; at the start of the list the one ahead. -/
def behind? (k : Nat) : Option Token := if k = 0 then ahead? tokens k else tokens[k - 1]?

/-- Goes over the token ahead, unless the input ends there: the token that is behind now, and the
new place. -/
def pass? (k : Nat) : Option (Token × Nat) := do
  let t ← ahead? tokens k
  let next := if t.isEnd then k else k + 1
  let read ← behind? tokens next
  return (read, next)

/-- Goes over the token ahead if it is of one of the kinds. -/
def accept? (kinds : List Token.Kind) (k : Nat) : Option (Option (Token × Nat)) := do
  let t ← ahead? tokens k
  if t.isEnd = false ∧ t.kind ∈ kinds then
    let read ← pass? tokens k
    return some read
  else return none

end Lookup

/-- An error and the place in the list where its token was found. -/
structure Report where
  place : Nat
  error : SyntaxError
  deriving DecidableEq, Repr

/-- The fault of the token ahead. -/
def reportAhead? (tokens : List Token) (fault : SyntaxFault) (k : Nat) : Option Report :=
  (ahead? tokens k).map fun t => ⟨k, fault.at t⟩

/-- The fault of the token before a place. -/
def reportBehind? (tokens : List Token) (fault : SyntaxFault) (k : Nat) : Option Report :=
  (behind? tokens k).map fun t => ⟨k - 1, fault.at t⟩

/-- The report of a failure, with the place of the token found. -/
def failureReport (input : Input) (f : Failure) : Report :=
  ⟨position input.tokens f.found, f.error input⟩

section Places

variable {tokens rest : List Token} {t : Token} {kinds : List Token.Kind} {fault : SyntaxFault}

theorem eq_append_dropWhile (tokens : List Token) :
    tokens = (Input.ofTokens tokens).tokens ++ tokens.dropWhile (! ·.isEnd) :=
  List.takeWhile_append_dropWhile.symm

/-- Before the end of the input the list holds the tokens of the input. -/
theorem getElem?_before_end {k : Nat} (hk : k < (Input.ofTokens tokens).tokens.length) :
    k < tokens.length ∧ tokens[k]? = (Input.ofTokens tokens).tokens[k]? := by
  have hlength := congrArg List.length (eq_append_dropWhile tokens)
  rw [List.length_append] at hlength
  refine ⟨by omega, ?_⟩
  conv_lhs => rw [eq_append_dropWhile tokens]
  exact List.getElem?_append_left hk

/-- At the end of the input the list holds the token that ends it, or has come to its own end. -/
theorem ahead?_end {k : Nat} (hk : k = (Input.ofTokens tokens).tokens.length) :
    ahead? tokens k = some (Input.ofTokens tokens).ending := by
  have hlength := congrArg List.length (eq_append_dropWhile tokens)
  have hfound : tokens[k]? = (tokens.dropWhile (! ·.isEnd)).head? := by
    conv_lhs => rw [eq_append_dropWhile tokens]
    rw [List.getElem?_append_right (Nat.le_of_eq hk.symm), hk, Nat.sub_self,
      List.head?_eq_getElem?]
  rw [List.length_append] at hlength
  rw [ahead?, hfound]
  cases hdrop : tokens.dropWhile (! ·.isEnd) with
  | nil =>
    rw [hdrop, List.length_nil] at hlength
    rw [if_neg (by omega)]
    simp [Input.ofTokens, hdrop]
  | cons t behind =>
    rw [hdrop, List.length_cons] at hlength
    rw [if_pos (by omega)]
    simp [Input.ofTokens, hdrop]

/-- The token ahead of a place is the first one left there, or the end of the input. -/
theorem ahead?_position (h : rest <:+ (Input.ofTokens tokens).tokens) :
    ahead? tokens (position (Input.ofTokens tokens).tokens rest) =
      some (rest.head?.getD (Input.ofTokens tokens).ending) := by
  cases rest with
  | nil => exact ahead?_end rfl
  | cons t others =>
    have hplace := getElem?_position h
    obtain ⟨hlt, hsame⟩ := getElem?_before_end (List.getElem?_eq_some_iff.1 hplace).1
    rw [ahead?, if_pos hlt, hsame, hplace]
    rfl

/-- The token before a place has been read last. -/
theorem behind?_position (h : t :: rest <:+ (Input.ofTokens tokens).tokens) :
    behind? tokens (position (Input.ofTokens tokens).tokens rest) = some t := by
  have hplace := getElem?_position h
  obtain ⟨-, hsame⟩ := getElem?_before_end (List.getElem?_eq_some_iff.1 hplace).1
  rw [position_tail h, behind?, if_neg (Nat.succ_ne_zero _), Nat.add_sub_cancel, hsame, hplace]
  rfl

theorem not_isEnd_of_left (h : t :: rest <:+ (Input.ofTokens tokens).tokens) : t.isEnd = false :=
  not_isEnd_of_mem_input tokens t (h.mem List.mem_cons_self)

/-- The token ahead is gone over. -/
theorem pass?_cons (h : t :: rest <:+ (Input.ofTokens tokens).tokens) :
    pass? tokens (position (Input.ofTokens tokens).tokens (t :: rest)) =
      some (t, position (Input.ofTokens tokens).tokens rest) := by
  have hahead : ahead? tokens (position (Input.ofTokens tokens).tokens (t :: rest)) = some t :=
    ahead?_position h
  simp [pass?, hahead, not_isEnd_of_left h, ← position_tail h, behind?_position h]

/-- At the end of the input the walk stays where it is. -/
theorem pass?_nil (tokens : List Token) :
    ∃ t, pass? tokens (position (Input.ofTokens tokens).tokens []) =
      some (t, position (Input.ofTokens tokens).tokens []) := by
  have hahead : ahead? tokens (position (Input.ofTokens tokens).tokens []) =
      some (Input.ofTokens tokens).ending := ahead?_position List.nil_suffix
  have hbehind : ∃ t, behind? tokens (position (Input.ofTokens tokens).tokens []) = some t := by
    rcases List.eq_nil_or_concat (Input.ofTokens tokens).tokens with hnil | ⟨before, t, hlast⟩
    · -- nothing has been read before the end
      have hzero : position (Input.ofTokens tokens).tokens [] = 0 := by rw [hnil]; rfl
      rw [hzero] at hahead ⊢
      exact ⟨_, by rw [behind?, if_pos rfl, hahead]⟩
    · exact ⟨t, behind?_position ⟨before, by rw [hlast, List.concat_eq_append]⟩⟩
  obtain ⟨t, hbehind⟩ := hbehind
  exact ⟨t, by simp [pass?, hahead, isEnd_ending, hbehind]⟩

/-- The token ahead is not gone over if it is none of the kinds. -/
theorem accept?_eq_none_iff (h : rest <:+ (Input.ofTokens tokens).tokens) :
    accept? tokens kinds (position (Input.ofTokens tokens).tokens rest) = some none ↔
      ∀ t ∈ rest.head?, t.kind ∉ kinds := by
  have hahead := ahead?_position h
  cases rest with
  | nil => simp [accept?, hahead, isEnd_ending]
  | cons t others =>
    by_cases hk : t.kind ∈ kinds
    · simp [accept?, hahead, hk, not_isEnd_of_left h, pass?_cons h]
    · simp [accept?, hahead, hk]

/-- The token ahead is gone over exactly if it is one of the kinds. -/
theorem accept?_eq_some_iff (h : rest <:+ (Input.ofTokens tokens).tokens) {k : Nat} :
    accept? tokens kinds (position (Input.ofTokens tokens).tokens rest) = some (some (t, k)) ↔
      t.kind ∈ kinds ∧
        ∃ others, rest = t :: others ∧ k = position (Input.ofTokens tokens).tokens others := by
  have hahead := ahead?_position h
  cases rest with
  | nil => simp [accept?, hahead, isEnd_ending]
  | cons u others =>
    by_cases hk : u.kind ∈ kinds
    · simp only [accept?, hahead, hk, not_isEnd_of_left h, pass?_cons h, List.head?_cons,
        Option.getD_some, Option.bind_eq_bind, Option.bind_some, true_and, if_true]
      constructor
      · rintro ⟨⟩
        exact ⟨hk, others, rfl, rfl⟩
      · rintro ⟨-, _, ⟨⟩, rfl⟩
        rfl
    · simp only [accept?, hahead, hk, List.head?_cons, Option.getD_some, Option.bind_eq_bind,
        Option.bind_some, and_false, if_false]
      constructor
      · rintro ⟨⟩
      · rintro ⟨hk', _, ⟨⟩, -⟩
        exact absurd hk' hk

theorem accept?_of_mem (h : t :: rest <:+ (Input.ofTokens tokens).tokens) (hk : t.kind ∈ kinds) :
    accept? tokens kinds (position (Input.ofTokens tokens).tokens (t :: rest)) =
      some (some (t, position (Input.ofTokens tokens).tokens rest)) :=
  (accept?_eq_some_iff h).2 ⟨hk, rest, rfl, rfl⟩

theorem accept?_kind (h : t :: rest <:+ (Input.ofTokens tokens).tokens) {kind : Token.Kind}
    (hk : t.kind = kind) :
    accept? tokens [kind] (position (Input.ofTokens tokens).tokens (t :: rest)) =
      some (some (t, position (Input.ofTokens tokens).tokens rest)) :=
  accept?_of_mem h (List.mem_singleton.2 hk)

theorem accept?_other_kind (h : rest <:+ (Input.ofTokens tokens).tokens) {kind : Token.Kind}
    (hnone : ∀ t ∈ rest.head?, t.kind ≠ kind) :
    accept? tokens [kind] (position (Input.ofTokens tokens).tokens rest) = some none :=
  (accept?_eq_none_iff h).2 fun t ht hmem => hnone t ht (List.mem_singleton.1 hmem)

/-- The fault of the token ahead is the one of a failure there. -/
theorem reportAhead?_position (h : rest <:+ (Input.ofTokens tokens).tokens) :
    reportAhead? tokens fault (position (Input.ofTokens tokens).tokens rest) =
      some (failureReport (Input.ofTokens tokens) ⟨fault, rest⟩) := by
  simp [reportAhead?, ahead?_position h, failureReport, Failure.error]

/-- The fault of the token read last is the one of a failure at it. -/
theorem reportBehind?_position (h : t :: rest <:+ (Input.ofTokens tokens).tokens) :
    reportBehind? tokens fault (position (Input.ofTokens tokens).tokens rest) =
      some (failureReport (Input.ofTokens tokens) ⟨fault, t :: rest⟩) := by
  have hnext := position_tail h
  rw [reportBehind?, behind?_position h]
  simp [failureReport, Failure.error, hnext]

end Places

/-! ## Walks -/

/-- A place in the list, with the number of levels of nesting that are open there. -/
structure Cursor where
  place : Nat
  depth : Nat
  deriving DecidableEq, Repr

/-- What is to be read: a phrase, a phrase one level deeper, or what goes on with the left operand
of a level of operators. -/
inductive Task where
  | phrase (nt : Nonterminal)
  | nested (nt : Nonterminal)
  | chainFrom (level : Level) (left : Expr)

/-- The kinds of tokens that are literals by themselves. -/
def literalKinds : List Token.Kind := [.kwFalse, .kwTrue, .kwNil, .number, .string]

/-- **A walk** over the list, from one cursor to another, that reads what is to be read or reports
an error. -/
inductive Walk (tokens : List Token) : Task → Cursor → Except Report Expr → Cursor → Prop
  | expression {c c' : Cursor} {r : Except Report Expr}
      (h : Walk tokens (.phrase .ternary) c r c') : Walk tokens (.phrase .expression) c r c'
  | conditionFails {c c' : Cursor} {r : Report}
      (h : Walk tokens (.phrase (.chain .equality)) c (.error r) c') :
      Walk tokens (.phrase .ternary) c (.error r) c'
  | plain {c c' : Cursor} {e : Expr}
      (h : Walk tokens (.phrase (.chain .equality)) c (.ok e) c')
      (hq : accept? tokens [.question] c'.place = some none) :
      Walk tokens (.phrase .ternary) c (.ok e) c'
  | thenFails {c c₁ c' : Cursor} {e : Expr} {t : Token} {k : Nat} {r : Report}
      (h : Walk tokens (.phrase (.chain .equality)) c (.ok e) c₁)
      (hq : accept? tokens [.question] c₁.place = some (some (t, k)))
      (hthen : Walk tokens (.phrase (.chain .equality)) ⟨k, c₁.depth⟩ (.error r) c') :
      Walk tokens (.phrase .ternary) c (.error r) c'
  | colonMissing {c c₁ c' : Cursor} {e e₁ : Expr} {t : Token} {k : Nat} {r : Report}
      (h : Walk tokens (.phrase (.chain .equality)) c (.ok e) c₁)
      (hq : accept? tokens [.question] c₁.place = some (some (t, k)))
      (hthen : Walk tokens (.phrase (.chain .equality)) ⟨k, c₁.depth⟩ (.ok e₁) c')
      (hc : accept? tokens [.colon] c'.place = some none)
      (hr : reportAhead? tokens missingColon c'.place = some r) :
      Walk tokens (.phrase .ternary) c (.error r) c'
  | elseFails {c c₁ c₂ c' : Cursor} {e e₁ : Expr} {t u : Token} {k l : Nat} {r : Report}
      (h : Walk tokens (.phrase (.chain .equality)) c (.ok e) c₁)
      (hq : accept? tokens [.question] c₁.place = some (some (t, k)))
      (hthen : Walk tokens (.phrase (.chain .equality)) ⟨k, c₁.depth⟩ (.ok e₁) c₂)
      (hc : accept? tokens [.colon] c₂.place = some (some (u, l)))
      (helse : Walk tokens (.phrase (.chain .equality)) ⟨l, c₂.depth⟩ (.error r) c') :
      Walk tokens (.phrase .ternary) c (.error r) c'
  | conditional {c c₁ c₂ c' : Cursor} {e e₁ e₂ : Expr} {t u : Token} {k l : Nat}
      (h : Walk tokens (.phrase (.chain .equality)) c (.ok e) c₁)
      (hq : accept? tokens [.question] c₁.place = some (some (t, k)))
      (hthen : Walk tokens (.phrase (.chain .equality)) ⟨k, c₁.depth⟩ (.ok e₁) c₂)
      (hc : accept? tokens [.colon] c₂.place = some (some (u, l)))
      (helse : Walk tokens (.phrase (.chain .equality)) ⟨l, c₂.depth⟩ (.ok e₂) c') :
      Walk tokens (.phrase .ternary) c (.ok (.ternary e e₁ e₂)) c'
  | firstFails {level : Level} {c c' : Cursor} {r : Report}
      (h : Walk tokens (.phrase level.operand) c (.error r) c') :
      Walk tokens (.phrase (.chain level)) c (.error r) c'
  | first {level : Level} {c c₁ c' : Cursor} {left : Expr} {r : Except Report Expr}
      (h : Walk tokens (.phrase level.operand) c (.ok left) c₁)
      (hfrom : Walk tokens (.chainFrom level left) c₁ r c') :
      Walk tokens (.phrase (.chain level)) c r c'
  | stop {level : Level} {left : Expr} {c : Cursor}
      (ho : accept? tokens level.operators c.place = some none) :
      Walk tokens (.chainFrom level left) c (.ok left) c
  | operandFails {level : Level} {left : Expr} {c c' : Cursor} {t : Token} {k : Nat} {r : Report}
      (ho : accept? tokens level.operators c.place = some (some (t, k)))
      (h : Walk tokens (.phrase level.operand) ⟨k, c.depth⟩ (.error r) c') :
      Walk tokens (.chainFrom level left) c (.error r) c'
  | link {level : Level} {left right : Expr} {c c₁ c' : Cursor} {t : Token} {k : Nat}
      {r : Except Report Expr}
      (ho : accept? tokens level.operators c.place = some (some (t, k)))
      (h : Walk tokens (.phrase level.operand) ⟨k, c.depth⟩ (.ok right) c₁)
      (hfrom : Walk tokens (.chainFrom level (.binary left t right)) c₁ r c') :
      Walk tokens (.chainFrom level left) c r c'
  | negationFails {c c' : Cursor} {t : Token} {k : Nat} {r : Report}
      (ho : accept? tokens [.bang, .minus] c.place = some (some (t, k)))
      (h : Walk tokens (.nested .unary) ⟨k, c.depth⟩ (.error r) c') :
      Walk tokens (.phrase .unary) c (.error r) c'
  | negation {c c' : Cursor} {t : Token} {k : Nat} {right : Expr}
      (ho : accept? tokens [.bang, .minus] c.place = some (some (t, k)))
      (h : Walk tokens (.nested .unary) ⟨k, c.depth⟩ (.ok right) c') :
      Walk tokens (.phrase .unary) c (.ok (.unary t right)) c'
  | primary {c c' : Cursor} {r : Except Report Expr}
      (ho : accept? tokens [.bang, .minus] c.place = some none)
      (h : Walk tokens (.phrase .primary) c r c') : Walk tokens (.phrase .unary) c r c'
  | literal {c : Cursor} {t : Token} {k : Nat} {v : Value}
      (hl : accept? tokens literalKinds c.place = some (some (t, k))) (hv : literal? t = some v) :
      Walk tokens (.phrase .primary) c (.ok (.literal v)) ⟨k, c.depth⟩
  | bodyFails {c c' : Cursor} {t : Token} {k : Nat} {r : Report}
      (hl : accept? tokens literalKinds c.place = some none)
      (ho : accept? tokens [.leftParen] c.place = some (some (t, k)))
      (h : Walk tokens (.nested .expression) ⟨k, c.depth⟩ (.error r) c') :
      Walk tokens (.phrase .primary) c (.error r) c'
  | parenthesisMissing {c c' : Cursor} {t : Token} {k : Nat} {e : Expr} {r : Report}
      (hl : accept? tokens literalKinds c.place = some none)
      (ho : accept? tokens [.leftParen] c.place = some (some (t, k)))
      (h : Walk tokens (.nested .expression) ⟨k, c.depth⟩ (.ok e) c')
      (hc : accept? tokens [.rightParen] c'.place = some none)
      (hr : reportAhead? tokens missingParenthesis c'.place = some r) :
      Walk tokens (.phrase .primary) c (.error r) c'
  | grouping {c c' : Cursor} {t u : Token} {k l : Nat} {e : Expr}
      (hl : accept? tokens literalKinds c.place = some none)
      (ho : accept? tokens [.leftParen] c.place = some (some (t, k)))
      (h : Walk tokens (.nested .expression) ⟨k, c.depth⟩ (.ok e) c')
      (hc : accept? tokens [.rightParen] c'.place = some (some (u, l))) :
      Walk tokens (.phrase .primary) c (.ok (.grouping e)) ⟨l, c'.depth⟩
  | noExpression {c : Cursor} {r : Report}
      (hl : accept? tokens literalKinds c.place = some none)
      (ho : accept? tokens [.leftParen] c.place = some none)
      (hr : reportAhead? tokens .noExpression c.place = some r) :
      Walk tokens (.phrase .primary) c (.error r) c
  | limit {nt : Nonterminal} {c : Cursor} {r : Report} (hd : maxNesting ≤ c.depth)
      (hr : reportBehind? tokens .tooDeep c.place = some r) :
      Walk tokens (.nested nt) c (.error r) c
  | deeper {nt : Nonterminal} {c c' : Cursor} {r : Except Report Expr} (hd : c.depth < maxNesting)
      (h : Walk tokens (.phrase nt) ⟨c.place, c.depth + 1⟩ r c') :
      Walk tokens (.nested nt) c r ⟨c'.place, c'.depth - 1⟩

/-! ## What a walk should come to -/

section Landing

variable (tokens : List Token)

/-- The cursor in front of what is left of the input. -/
def cursorAt (depth : Nat) (rest : List Token) : Cursor :=
  ⟨position (Input.ofTokens tokens).tokens rest, depth⟩

/-- What a walk gives if the rule answers so. -/
def resultOf : Answer → Except Report Expr
  | .ok (e, _) => .ok e
  | .error f => .error (failureReport (Input.ofTokens tokens) f)

/-- Where a walk ends if the rule answers so. -/
def cursorOf (depth : Nat) : Answer → Cursor
  | .ok (_, rest) => cursorAt tokens depth rest
  | .error f => cursorAt tokens depth f.rest

/-- The walk from what is left gives the answer and ends behind it. -/
def Lands (task : Task) (depth : Nat) (rest : List Token) (answer : Answer) : Prop :=
  Walk tokens task (cursorAt tokens depth rest) (resultOf tokens answer)
    (cursorOf tokens depth answer)

/-- From every place before the end of the input the walk lands where the rule does. -/
def Follows (depth : Nat) (nt : Nonterminal) (r : Rule) : Prop :=
  ∀ rest, rest <:+ (Input.ofTokens tokens).tokens →
    Lands tokens (.phrase nt) depth rest (r.run rest)

end Landing

section Follows

variable {tokens : List Token} {depth n : Nat} {level : Level} {operand branch : Rule}

/-- Behind its first operand a chain is walked as it is read. -/
theorem chainFrom_lands (hop : Follows tokens depth level.operand operand) (left : Expr)
    {rest : List Token} (hrest : rest <:+ (Input.ofTokens tokens).tokens) :
    Lands tokens (.chainFrom level left) depth rest
      (chainFrom operand level.operators left rest) := by
  fun_induction chainFrom operand level.operators left rest with
  | case1 left => exact .stop ((accept?_eq_none_iff hrest).2 (by simp))
  | case2 left t others hk f run =>
    have hothers : others <:+ (Input.ofTokens tokens).tokens :=
      (List.suffix_cons t others).trans hrest
    have hwalk := hop others hothers
    rw [run] at hwalk
    exact .operandFails (accept?_of_mem hrest (by simpa using hk)) hwalk
  | case3 left t others hk right after run ih =>
    have hothers : others <:+ (Input.ofTokens tokens).tokens :=
      (List.suffix_cons t others).trans hrest
    have hwalk := hop others hothers
    rw [run] at hwalk
    exact .link (accept?_of_mem hrest (by simpa using hk)) hwalk
      (ih ((operand.rest_suffix run).suffix.trans hothers))
  | case4 left t others hk =>
    refine .stop ((accept?_eq_none_iff hrest).2 ?_)
    rintro _ ⟨⟩
    simpa using hk

/-- A level is walked as it is read. -/
theorem chain_follows (hop : Follows tokens depth level.operand operand) :
    Follows tokens depth (.chain level) (chain operand level.operators) := by
  intro rest hrest
  have hwalk := hop rest hrest
  cases hrun : operand.run rest with
  | error f =>
    rw [hrun] at hwalk
    rw [chain_run_of_error hrun]
    exact .firstFails hwalk
  | ok answer =>
    obtain ⟨left, after⟩ := answer
    rw [hrun] at hwalk
    rw [chain_run_of_ok hrun]
    exact .first hwalk (chainFrom_lands hop left ((operand.rest_suffix hrun).suffix.trans hrest))

/-- A token of a kind stands in front of what is left, or none does. -/
theorem front_cases (kind : Token.Kind) (rest : List Token) :
    (∃ t others, rest = t :: others ∧ t.kind = kind) ∨ ∀ t ∈ rest.head?, t.kind ≠ kind := by
  cases rest with
  | nil => simp
  | cons t others =>
    by_cases hk : t.kind = kind
    · exact Or.inl ⟨t, others, rfl, hk⟩
    · simpa using Or.inr hk

/-- Behind a question mark the branches are walked as they are read. -/
theorem branches_lands (hb : Follows tokens depth (.chain .equality) branch)
    {rest after : List Token}
    {condition : Expr} {q : Token} (hafter : q :: after <:+ (Input.ofTokens tokens).tokens)
    (hq : q.kind = .question)
    (hcondition :
      Lands tokens (.phrase (.chain .equality)) depth rest (.ok (condition, q :: after))) :
    Lands tokens (.phrase .ternary) depth rest (branches branch condition after) := by
  have hbehind : after <:+ (Input.ofTokens tokens).tokens := (List.suffix_cons q after).trans hafter
  have hquestion := accept?_kind hafter hq
  have hthen := hb after hbehind
  cases hfirst : branch.run after with
  | error f =>
    rw [hfirst] at hthen
    rw [branches_eq_error_iff.2 (Or.inl hfirst)]
    exact .thenFails hcondition hquestion hthen
  | ok answer =>
    obtain ⟨thenBranch, middle⟩ := answer
    rw [hfirst] at hthen
    have hmiddle : middle <:+ (Input.ofTokens tokens).tokens :=
      (branch.rest_suffix hfirst).suffix.trans hbehind
    rcases front_cases .colon middle with ⟨colon, others, rfl, hk⟩ | hnone
    · have hcolon := accept?_kind hmiddle hk
      have helse := hb others ((List.suffix_cons colon others).trans hmiddle)
      cases hsecond : branch.run others with
      | error f =>
        rw [hsecond] at helse
        rw [branches_eq_error_iff.2 (Or.inr (Or.inr ⟨_, colon, others, hfirst, hk, hsecond⟩))]
        exact .elseFails hcondition hquestion hthen hcolon helse
      | ok answer =>
        obtain ⟨elseBranch, last⟩ := answer
        rw [hsecond] at helse
        rw [branches_eq_ok_iff.2 ⟨_, colon, others, _, hfirst, hk, hsecond, rfl⟩]
        exact .conditional hcondition hquestion hthen hcolon helse
    · have hmissing := accept?_other_kind hmiddle hnone
      rw [branches_eq_error_iff.2 (Or.inr (Or.inl ⟨_, middle, hfirst, rfl, hnone⟩))]
      exact .colonMissing hcondition hquestion hthen hmissing (reportAhead?_position hmiddle)

/-- A conditional is walked as it is read. -/
theorem conditional_follows (hb : Follows tokens depth (.chain .equality) branch) :
    Follows tokens depth .ternary (conditional branch) := by
  intro rest hrest
  have hwalk := hb rest hrest
  cases hrun : branch.run rest with
  | error f =>
    rw [hrun] at hwalk
    rw [conditional_run_of_error hrun]
    exact .conditionFails hwalk
  | ok answer =>
    obtain ⟨condition, after⟩ := answer
    rw [hrun] at hwalk
    have hafter : after <:+ (Input.ofTokens tokens).tokens :=
      (branch.rest_suffix hrun).suffix.trans hrest
    rcases front_cases .question after with ⟨q, others, rfl, hk⟩ | hnone
    · rw [conditional_run_of_question hrun hk]
      exact branches_lands hb hafter hk hwalk
    · rw [conditional_run_of_stop hrun hnone]
      exact .plain hwalk (accept?_other_kind hafter hnone)

theorem mem_literalKinds_iff {t : Token} : t.kind ∈ literalKinds ↔ literal? t ≠ none := by
  rcases t with ⟨kind, lexeme, literal, line⟩
  cases kind <;> simp [literalKinds, literal?]

/-- One level deeper the walk goes on as on this level, and comes back to it. -/
theorem nested_lands {nt : Nonterminal} {r : Rule} (h : Follows tokens (depth + 1) nt r)
    (hdepth : depth < maxNesting) {rest : List Token}
    (hrest : rest <:+ (Input.ofTokens tokens).tokens) :
    Lands tokens (.nested nt) depth rest (r.run rest) := by
  have hwalk := Walk.deeper (c := cursorAt tokens depth rest) hdepth (h rest hrest)
  cases hrun : r.run rest <;> rw [hrun] at hwalk <;> exact hwalk

/-- At the limit of the nesting the walk stops behind the token that should be nested. -/
theorem nested_lands_limit (nt : Nonterminal) {t : Token} {rest : List Token}
    (hrest : t :: rest <:+ (Input.ofTokens tokens).tokens) :
    Walk tokens (.nested nt) (cursorAt tokens maxNesting rest)
      (.error (failureReport (Input.ofTokens tokens) ⟨.tooDeep, t :: rest⟩))
      (cursorAt tokens maxNesting rest) :=
  .limit (Nat.le_refl _) (reportBehind?_position hrest)

section Operands

variable {t : Token} {others : List Token} (hrest : t :: others <:+ (Input.ofTokens tokens).tokens)

include hrest

/-- Behind a unary operator the walk goes on one level deeper. -/
theorem negated_lands (hk : t.kind = .bang ∨ t.kind = .minus) {r : Rule}
    (h : Lands tokens (.nested .unary) depth others (r.run others)) :
    Lands tokens (.phrase .unary) depth (t :: others) (negated t r others) := by
  have hmem : t.kind ∈ [Token.Kind.bang, .minus] := by simpa using hk
  have hoperator := accept?_of_mem hrest hmem
  cases hrun : r.run others with
  | error f =>
    rw [hrun] at h
    rw [negated_eq_error_iff.2 hrun]
    exact .negationFails hoperator h
  | ok answer =>
    obtain ⟨right, after⟩ := answer
    rw [hrun] at h
    rw [negated_eq_ok_iff.2 ⟨right, hrun, rfl⟩]
    exact .negation hoperator h

/-- An operand with none of the unary operators in front is a primary. -/
theorem primary_lands (hk : t.kind ≠ .bang ∧ t.kind ≠ .minus) {answer : Answer}
    (h : Lands tokens (.phrase .primary) depth (t :: others) answer) :
    Lands tokens (.phrase .unary) depth (t :: others) answer :=
  .primary ((accept?_eq_none_iff hrest).2 (by simpa using hk)) h

/-- A literal is gone over. -/
theorem literal_lands {v : Value} (hv : literal? t = some v) :
    Lands tokens (.phrase .unary) depth (t :: others) (.ok (.literal v, others)) := by
  have hmem : t.kind ∈ literalKinds := mem_literalKinds_iff.2 (by simp [hv])
  refine primary_lands hrest ?_ ?_
  · constructor <;> (intro hk; rw [hk] at hmem; revert hmem; decide)
  · exact .literal (accept?_of_mem hrest hmem) hv

/-- A token with another one in its place is gone over. -/
theorem accept?_opening (hk : t.kind = .leftParen) (depth : Nat) :
    accept? tokens [.bang, .minus] (cursorAt tokens depth (t :: others)).place = some none ∧
      accept? tokens literalKinds (cursorAt tokens depth (t :: others)).place = some none ∧
      accept? tokens [.leftParen] (cursorAt tokens depth (t :: others)).place =
        some (some (t, position (Input.ofTokens tokens).tokens others)) := by
  refine ⟨(accept?_eq_none_iff hrest).2 ?_, (accept?_eq_none_iff hrest).2 ?_,
    accept?_kind hrest hk⟩ <;>
    (rintro _ ⟨⟩; rw [hk]; decide)

/-- Behind an opening parenthesis the walk goes on one level deeper. -/
theorem parenthesized_lands (hk : t.kind = .leftParen) {r : Rule}
    (h : Lands tokens (.nested .expression) depth others ((expressionOf r).run others)) :
    Lands tokens (.phrase .unary) depth (t :: others) (parenthesized r others) := by
  obtain ⟨hunary, hliteral, hopening⟩ := accept?_opening hrest hk depth
  cases hrun : (expressionOf r).run others with
  | error f =>
    rw [hrun] at h
    rw [parenthesized_eq_error_iff.2 (Or.inl hrun)]
    exact .primary hunary (.bodyFails hliteral hopening h)
  | ok answer =>
    obtain ⟨body, after⟩ := answer
    rw [hrun] at h
    have hafter : after <:+ (Input.ofTokens tokens).tokens :=
      ((expressionOf r).rest_suffix hrun).suffix.trans ((List.suffix_cons t others).trans hrest)
    rcases front_cases .rightParen after with ⟨closing, behind, rfl, hc⟩ | hnone
    · rw [parenthesized_eq_ok_iff.2 ⟨body, closing, hrun, hc, rfl⟩]
      exact .primary hunary (.grouping hliteral hopening h
        (accept?_kind hafter hc))
    · rw [parenthesized_eq_error_iff.2 (Or.inr ⟨body, after, hrun, rfl, hnone⟩)]
      exact .primary hunary (.parenthesisMissing hliteral hopening h
        (accept?_other_kind hafter hnone) (reportAhead?_position hafter))

/-- At the limit of the nesting the token that would go deeper is gone over and reported. -/
theorem limit_lands (hk : IsNesting t) :
    Lands tokens (.phrase .unary) maxNesting (t :: others) (.error ⟨.tooDeep, t :: others⟩) := by
  rcases hk with hk | hk | hk
  · exact .negationFails (accept?_of_mem hrest (by simp [hk])) (nested_lands_limit _ hrest)
  · exact .negationFails (accept?_of_mem hrest (by simp [hk])) (nested_lands_limit _ hrest)
  · obtain ⟨hunary, hliteral, hopening⟩ := accept?_opening hrest hk maxNesting
    exact .primary hunary (.bodyFails hliteral hopening (nested_lands_limit _ hrest))

end Operands

/-- Where no operand starts the walk reports the token ahead. -/
theorem noExpression_lands {rest : List Token} (hrest : rest <:+ (Input.ofTokens tokens).tokens)
    (h : ∀ t ∈ rest.head?, literal? t = none ∧ ¬ IsNesting t) :
    Lands tokens (.phrase .unary) depth rest (.error ⟨.noExpression, rest⟩) := by
  have hkinds : ∀ t ∈ rest.head?, t.kind ∉ [.bang, .minus] ∧ t.kind ∉ literalKinds ∧
      t.kind ∉ [.leftParen] := by
    intro t ht
    obtain ⟨hl, hn⟩ := h t ht
    have hliteral : t.kind ∉ literalKinds := fun hmem => mem_literalKinds_iff.1 hmem hl
    simp only [IsNesting, not_or] at hn
    simpa using ⟨⟨hn.1, hn.2.1⟩, hliteral, hn.2.2⟩
  exact .primary ((accept?_eq_none_iff hrest).2 fun t ht => (hkinds t ht).1)
    (.noExpression ((accept?_eq_none_iff hrest).2 fun t ht => (hkinds t ht).2.1)
      ((accept?_eq_none_iff hrest).2 fun t ht => (hkinds t ht).2.2) (reportAhead?_position hrest))

/-- Every nonterminal above the operands is walked as it is read if operands are. -/
theorem rule_follows_of_unary (hop : Follows tokens depth .unary (unary n)) (nt : Nonterminal)
    (hnt : nt ≠ .primary) : Follows tokens depth nt (rule n nt) := by
  induction nt using Nonterminal.byPrecedence with
  | primary => exact absurd rfl hnt
  | unary => exact hop
  | chain level ih =>
    rw [rule_chain]
    exact chain_follows (ih level.operand_ne_primary)
  | ternary ih => exact conditional_follows (ih (by decide))
  | expression ih => exact fun rest hrest => .expression (ih (by decide) rest hrest)

/-- Operands are walked as they are read if those one level deeper are. -/
theorem unary_follows_of_inner (h : n + depth = maxNesting)
    (hinner : ∀ m, n = m + 1 → Follows tokens (depth + 1) .unary (unary m)) :
    Follows tokens depth .unary (unary n) := by
  intro rest hrest
  cases rest with
  | nil =>
    rw [unary_run_nil]
    exact noExpression_lands hrest (by simp)
  | cons t others =>
    have hothers : others <:+ (Input.ofTokens tokens).tokens :=
      (List.suffix_cons t others).trans hrest
    rcases unary_run_cases n t others with ⟨v, hv, hrun⟩ | ⟨m, rfl, hk, hrun⟩ |
      ⟨m, rfl, hk, hrun⟩ | ⟨rfl, hk, hrun⟩ | ⟨hl, hk, hrun⟩ <;> rw [hrun]
    · exact literal_lands hrest hv
    · exact negated_lands hrest hk (nested_lands (hinner m rfl) (by omega) hothers)
    · have hbody : Follows tokens (depth + 1) .expression (expressionOf (unary m)) :=
        rule_follows_of_unary (hinner m rfl) .expression (by decide)
      exact parenthesized_lands hrest hk (nested_lands hbody (by omega) hothers)
    · obtain rfl : depth = maxNesting := by omega
      exact limit_lands hrest hk
    · refine noExpression_lands hrest ?_
      rintro _ ⟨⟩
      exact ⟨hl, hk⟩

/-- Operands are walked as they are read: the room left for nesting and the open levels are always
the limit together. -/
theorem unary_follows (h : n + depth = maxNesting) : Follows tokens depth .unary (unary n) := by
  induction n generalizing depth with
  | zero => exact unary_follows_of_inner h (fun m hm => by cases hm)
  | succ n ih =>
    refine unary_follows_of_inner h (fun m hm => ?_)
    obtain rfl := Nat.succ.inj hm
    exact ih (by omega)

/-- **Every rule has a walk** from each place before the end of the input, with the same answer. -/
theorem rule_follows (h : n + depth = maxNesting) (nt : Nonterminal) (hnt : nt ≠ .primary) :
    Follows tokens depth nt (rule n nt) :=
  rule_follows_of_unary (unary_follows h) nt hnt

end Follows

/-! ## One end for each walk -/

/-- **A walk comes to one end only.** -/
theorem Walk.deterministic {tokens : List Token} {task : Task} {c c' : Cursor}
    {r : Except Report Expr} (h : Walk tokens task c r c') :
    ∀ {r' c''}, Walk tokens task c r' c'' → r' = r ∧ c'' = c' := by
  -- the token ahead decides how a walk goes on, so that only like steps can follow each other
  induction h with
  | _ =>
    intro r' c'' h'
    cases h' <;> grind

/-- **Walks and rules agree**: from each place before the end of the input the only end that a walk
comes to is the one of the rule. -/
theorem walk_phrase_iff {tokens rest : List Token} {n depth : Nat} (h : n + depth = maxNesting)
    {nt : Nonterminal} (hnt : nt ≠ .primary) (hrest : rest <:+ (Input.ofTokens tokens).tokens)
    {r : Except Report Expr} {c : Cursor} :
    Walk tokens (.phrase nt) (cursorAt tokens depth rest) r c ↔
      r = resultOf tokens ((rule n nt).run rest) ∧
        c = cursorOf tokens depth ((rule n nt).run rest) := by
  have hwalk := rule_follows h nt hnt rest hrest
  constructor
  · exact hwalk.deterministic
  · rintro ⟨rfl, rfl⟩
    exact hwalk

end LoxSyntax.Grammar
