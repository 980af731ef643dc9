/-
# The end of the input

A list of tokens may end with a token that says so, or it may just end, and tokens may still follow
behind the one that ends the input.  No step of a session can tell: the walks over the list look up
the same token at its end, and they never look behind it.
-/
import LoxSyntax.Proofs.SessionRun
import LoxSyntax.Proofs.Statements

namespace LoxSyntax.Grammar

open Parsing

/-! ## Lists that steps cannot tell apart -/

/-- No steps tell the two lists apart.  The sessions over them yield the same at every step and
stand at the same place with the same errors behind it; and the walks over the lists themselves,
which look the tokens up by their places, come to the same ends. -/
structure RunsAlike (tokens tokens' : List Token) : Prop where
  session : ∀ steps, (Session.ofTokens tokens).run steps = (Session.ofTokens tokens').run steps
  walk : ∀ steps trail, RunWalk tokens .start steps trail ↔ RunWalk tokens' .start steps trail

variable {tokens tokens' before : List Token} {ending : Token}

/-- The walks over a list come to the end that its session comes to, and to no other one. -/
theorem runWalk_start_iff (tokens : List Token) (steps : List Session.Step)
    (trail : List (Session.Yield × State)) :
    RunWalk tokens .start steps trail ↔
      trail = ((Session.ofTokens tokens).run steps).map fun (y, s) => (y, stateOf s) := by
  have hwalk := (reaches_ofTokens tokens).run_lands steps
  rw [stateOf_ofTokens] at hwalk
  constructor
  · exact hwalk.deterministic
  · rintro rfl
    exact hwalk

/-- Lists that make the same input are not told apart. -/
theorem runsAlike_of_input (h : Input.ofTokens tokens = Input.ofTokens tokens') :
    RunsAlike tokens tokens' := by
  have hsession : Session.ofTokens tokens = Session.ofTokens tokens' := by
    simp only [Session.ofTokens, h]
  refine ⟨fun steps => by rw [hsession], fun steps trail => ?_⟩
  rw [runWalk_start_iff, runWalk_start_iff, hsession]

/-! ## Where the input ends -/

/-- The first token that ends the input is its ending, whatever follows. -/
theorem ofTokens_append_cons (hbefore : ∀ t ∈ before, t.isEnd = false) (hend : ending.isEnd = true)
    (after : List Token) : Input.ofTokens (before ++ ending :: after) = ⟨before, ending⟩ := by
  have htokens := tokens_ofTokens_append hbefore (ending :: after)
  have hending := ending_ofTokens_append hbefore (List.cons_ne_nil ending after)
  simp only [Input.ofTokens, List.takeWhile_cons, List.dropWhile_cons, hend, Bool.not_true,
    Bool.false_eq_true, if_false, List.append_nil, List.head?_cons, Option.getD_some]
    at htokens hending ⊢
  rw [htokens, hending]

/-- A list without a token that ends the input ends on the line of its last token. -/
theorem ofTokens_of_none (hnone : ∀ t ∈ tokens, t.isEnd = false) :
    Input.ofTokens tokens = ⟨tokens, Token.endAt (finalLine tokens)⟩ := by
  have hdrop : tokens.dropWhile (! ·.isEnd) = [] := by
    rw [← List.append_nil tokens, List.dropWhile_append_of_pos (by simpa using hnone)]
    rfl
  have htokens := tokens_ofTokens hnone
  simp only [Input.ofTokens, hdrop, List.head?_nil, Option.getD_none] at htokens ⊢
  rw [htokens]

/-- **The token at the end may be left out.** -/
theorem ofTokens_append_endAt (hnone : ∀ t ∈ tokens, t.isEnd = false) :
    Input.ofTokens tokens = Input.ofTokens (tokens ++ [Token.endAt (finalLine tokens)]) := by
  rw [ofTokens_of_none hnone, ofTokens_append_cons hnone rfl]

/-- **What follows the first token at the end may be cut off.** -/
theorem ofTokens_take (tokens : List Token) :
    Input.ofTokens tokens = Input.ofTokens (tokens.take (tokens.findIdx Token.isEnd + 1)) := by
  by_cases hend : ∃ t ∈ tokens, t.isEnd = true
  · obtain ⟨before, ending, after, rfl, hbefore, hending⟩ :
        ∃ before ending after, tokens = before ++ ending :: after ∧
          (∀ t ∈ before, t.isEnd = false) ∧ ending.isEnd = true := by
      obtain ⟨after, hdrop⟩ := Input.dropWhile_eq_cons hend
      refine ⟨_, _, after, ?_, not_isEnd_of_mem_input tokens, isEnd_ending tokens⟩
      rw [← hdrop]
      exact eq_append_dropWhile tokens
    have hlength := length_ofTokens (before ++ ending :: after)
    rw [ofTokens_append_cons hbefore hending] at hlength
    rw [← hlength, List.take_length_add_append, List.take_succ_cons, List.take_zero,
      ofTokens_append_cons hbefore hending, ofTokens_append_cons hbefore hending]
  · have hall : tokens.length ≤ tokens.findIdx Token.isEnd := by
      rw [List.findIdx_eq_length_of_false fun t ht => Bool.eq_false_iff.2 fun h => hend ⟨t, ht, h⟩]
    rw [List.take_of_length_le (Nat.le_succ_of_le hall)]

/-- **The end of the input may be left out, and nothing follows it.**  If no token of a list ends
the input, then no steps tell the list apart from the one with the token behind it that does, on the
line of its last token, or on line one if it has none.  And no steps tell any list apart from its
tokens up to the first one that ends the input. -/
theorem session_run_ending (tokens : List Token) :
    ((∀ t ∈ tokens, t.isEnd = false) →
      RunsAlike tokens (tokens ++
        [⟨.endOfInput, "", .nil, (tokens.getLast?.map Token.line).getD 1⟩])) ∧
    RunsAlike tokens (tokens.take (tokens.findIdx Token.isEnd + 1)) :=
  ⟨fun hnone => runsAlike_of_input (ofTokens_append_endAt hnone),
    runsAlike_of_input (ofTokens_take tokens)⟩

/-- An open group on two lines ends on the second line, and what follows its end is not read. -/
theorem session_run_ending_open_group :
    let group : List Token := [⟨.leftParen, "(", .nil, 1⟩, ⟨.number, "1", .number .one, 2⟩]
    let more : List Token := [⟨.rightParen, ")", .nil, 2⟩, Token.endAt 3]
    (∀ t ∈ group, t.isEnd = false) ∧ RunsAlike group (group ++ [Token.endAt 2]) ∧
      RunsAlike (group ++ Token.endAt 2 :: more) (group ++ [Token.endAt 2]) := by
  intro group more
  have hnone : ∀ t ∈ group, t.isEnd = false := by decide
  exact ⟨hnone, (session_run_ending group).1 hnone,
    (session_run_ending (group ++ Token.endAt 2 :: more)).2⟩

end LoxSyntax.Grammar
