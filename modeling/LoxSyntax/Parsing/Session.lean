/-
# Parsing sessions

A session reads a list of tokens step by step, and collects what failed.  The first token that ends
the input ends it, whatever follows; a list without one is taken to end on the line of its last
token.
-/
import LoxSyntax.Parsing.Statement

namespace LoxSyntax.Parsing

/-! ## Input -/

/-- The tokens to read, and the token that ends them. -/
structure Input where
  tokens : List Token
  ending : Token
  deriving DecidableEq, Repr

/-- The line on which a list of tokens ends that has no token for its end. -/
def finalLine (tokens : List Token) : Int := (tokens.getLast?.map Token.line).getD 1

/-- The input that a list of tokens makes. -/
def Input.ofTokens (tokens : List Token) : Input where
  tokens := tokens.takeWhile (! ·.isEnd)
  ending := ((tokens.dropWhile (! ·.isEnd)).head?).getD (Token.endAt (finalLine tokens))

/-- The first token that ends the input is the ending, if there is one. -/
theorem Input.dropWhile_eq_cons {tokens : List Token} (hend : ∃ t ∈ tokens, t.isEnd = true) :
    ∃ others, tokens.dropWhile (! ·.isEnd) = (Input.ofTokens tokens).ending :: others := by
  rw [ofTokens]
  cases hdrop : tokens.dropWhile (! ·.isEnd) with
  | nil =>
    obtain ⟨t, ht, hend⟩ := hend
    have hall := List.takeWhile_append_dropWhile (p := (! ·.isEnd)) (l := tokens)
    rw [hdrop, List.append_nil] at hall
    have hnone := List.all_eq_true.1 List.all_takeWhile t (hall.symm ▸ ht)
    rw [hend] at hnone
    cases hnone
  | cons first others => exact ⟨others, rfl⟩

/-- The error of a failure, at the token found or at the end of the input. -/
def Failure.error (input : Input) (f : Failure) : SyntaxError :=
  f.fault.at (f.found.head?.getD input.ending)

/-! ## Sessions -/

/-- The tokens still to read and the failures so far. -/
structure Session where
  input : Input
  rest : List Token
  failures : List Failure := []
  deriving DecidableEq, Repr

namespace Session

/-- A session at the start of its input. -/
def ofTokens (tokens : List Token) : Session :=
  { input := .ofTokens tokens, rest := (Input.ofTokens tokens).tokens }

/-- The number of tokens read. -/
def current (s : Session) : Nat := s.input.tokens.length - s.rest.length

/-- The nesting at which a session stands between two steps: every level that was entered has been
left again. -/
def depth (_s : Session) : Nat := 0

/-- The errors so far. -/
def errors (s : Session) : List SyntaxError := s.failures.map (·.error s.input)

/-- The session after some outcomes, with other tokens still to read. -/
def record (s : Session) (outcomes : List Outcome) (rest : List Token) : Session :=
  { s with rest, failures := s.failures ++ Parsing.failures outcomes }

/-- What a step does. -/
inductive Step where
  | parse
  | parseBatch
  | synchronize
  | idle
  deriving DecidableEq, Repr

/-- What a step yields. -/
inductive Yield where
  | nothing
  | expression (e? : Option Expr)
  | expressions (es : List Expr)
  deriving DecidableEq, Repr

/-- The trees among what a step yields. -/
def Yield.trees : Yield → List Expr
  | nothing => []
  | expression e? => e?.toList
  | expressions es => es

/-- One step of a session. -/
def step (s : Session) : Step → Yield × Session
  | .parse =>
    let (outcome, rest) := complete s.rest
    (.expression outcome.toOption, s.record [outcome] rest)
  | .parseBatch =>
    let outcomes := batch s.rest
    (.expressions (Parsing.expressions outcomes), s.record outcomes [])
  | .synchronize => (.nothing, s.record [] (Parsing.synchronize s.rest))
  | .idle => (.nothing, s)

/-- What each of several steps yields, and the session after it. -/
def run (s : Session) : List Step → List (Yield × Session)
  | [] => []
  | step :: steps => s.step step :: (s.step step).2.run steps

end Session

end LoxSyntax.Parsing
