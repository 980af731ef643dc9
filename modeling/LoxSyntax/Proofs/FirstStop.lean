/-
# Where recovery stops

Recovery passes over the token at the cursor, and then it stops as soon as it may: at a boundary
between two tokens, or at the end of the input.  So nothing is passed over at which it could have
stopped.  It reports nothing, and it leaves the nesting as it stands.
-/
import LoxSyntax.Proofs.SessionRun

namespace LoxSyntax.Grammar

open Parsing

variable {tokens rest : List Token} {c q : Nat}

/-! ## Stops -/

/-- Recovery may stop at a place: the input ends there, or a statement ends with the token before it
or starts with the token behind it. -/
def IsStop (tokens : List Token) (q : Nat) : Prop :=
  q = tokens.findIdx Token.isEnd ∨
    ∃ t u, tokens[q - 1]? = some t ∧ tokens[q]? = some u ∧ isBoundary t u = true

/-- The place to which recovery comes from another one: the first stop behind it, but from the end
of the input that end again. -/
structure StopsAt (tokens : List Token) (c q : Nat) : Prop where
  stays : c = tokens.findIdx Token.isEnd → q = c
  first : c < tokens.findIdx Token.isEnd → IsLeast {q | c < q ∧ IsStop tokens q} q

/-- Up to the end of the input, recovery may stop exactly where reading may go on. -/
theorem isStop_iff_isResumption (hpos : 0 < q) (hq : q ≤ tokens.findIdx Token.isEnd) :
    IsStop tokens q ↔ IsResumption (Input.ofTokens tokens).tokens q := by
  have hlength := length_ofTokens tokens
  rcases Nat.lt_or_eq_of_le hq with hlt | heq
  · -- both tokens around the place are in the input, so that there is one boundary to speak of
    have hu : q < (Input.ofTokens tokens).tokens.length := by omega
    have ht : q - 1 < (Input.ofTokens tokens).tokens.length := by omega
    have hne : q ≠ tokens.findIdx Token.isEnd := Nat.ne_of_lt hlt
    have hne' : q ≠ (Input.ofTokens tokens).tokens.length := Nat.ne_of_lt hu
    rw [IsStop, IsResumption, (getElem?_before_end hu).2, (getElem?_before_end ht).2,
      List.getElem?_eq_getElem hu, List.getElem?_eq_getElem ht]
    simp [isBoundary, hne, hne']
  · exact iff_of_true (Or.inl heq) (Or.inr (Or.inr (by omega)))

/-- The first place where reading may go on is the first stop. -/
theorem ResumesBehind.isLeast_isStop (h : ResumesBehind (Input.ofTokens tokens).tokens c q)
    (hc : c < tokens.findIdx Token.isEnd) : IsLeast {q | c < q ∧ IsStop tokens q} q := by
  obtain ⟨⟨hlt, hresume⟩, hleast⟩ := h
  have hend : q ≤ tokens.findIdx Token.isEnd :=
    hleast ⟨hc, Or.inr (Or.inr (length_ofTokens tokens).symm)⟩
  refine ⟨⟨hlt, (isStop_iff_isResumption (by omega) hend).2 hresume⟩, ?_⟩
  rintro r ⟨hr, hstop⟩
  rcases Nat.le_total r (tokens.findIdx Token.isEnd) with hinside | hbehind
  · exact hleast ⟨hr, (isStop_iff_isResumption (by omega) hinside).1 hstop⟩
  · exact hend.trans hbehind

/-- Recovery comes to the first stop behind the place of what is left. -/
theorem stopsAt_synchronize (h : rest <:+ (Input.ofTokens tokens).tokens) :
    StopsAt tokens (position (Input.ofTokens tokens).tokens rest)
      (position (Input.ofTokens tokens).tokens (synchronize rest)) := by
  have hlength := length_ofTokens tokens
  cases rest with
  | nil =>
    have hend : position (Input.ofTokens tokens).tokens [] = tokens.findIdx Token.isEnd := hlength
    exact ⟨fun _ => rfl, fun hlt => absurd hend (Nat.ne_of_lt hlt)⟩
  | cons t others =>
    have hinside : position (Input.ofTokens tokens).tokens (t :: others) <
        tokens.findIdx Token.isEnd := by
      have hle := h.length_le
      rw [List.length_cons] at hle
      rw [position, List.length_cons]
      omega
    exact ⟨fun hend => absurd hend (Nat.ne_of_lt hinside),
      (skipFrom_resumes h).isLeast_isStop⟩

/-! ## Sessions anywhere in their input -/

/-- A session that has gone over the first tokens of a list, with some failures so far. -/
def standing (tokens : List Token) (c : Nat) (fs : List Failure) : Session :=
  ⟨.ofTokens tokens, (Input.ofTokens tokens).tokens.drop c, fs⟩

/-- The session has gone over as many tokens as it says. -/
theorem current_standing (hc : c ≤ tokens.findIdx Token.isEnd) (fs : List Failure) :
    (standing tokens c fs).current = c := by
  have hlength := length_ofTokens tokens
  simp only [Session.current, standing, List.length_drop]
  omega

/-- Recovery moves a session to the place of what it leaves, and changes nothing else. -/
theorem step_synchronize_standing (tokens : List Token) (c : Nat) (fs : List Failure) :
    (standing tokens c fs).step .synchronize =
      (.nothing, standing tokens (position (Input.ofTokens tokens).tokens
        (synchronize ((Input.ofTokens tokens).tokens.drop c))) fs) := by
  have hleft : synchronize ((Input.ofTokens tokens).tokens.drop c) <:+
      (Input.ofTokens tokens).tokens :=
    (synchronize_suffix _).trans (List.drop_suffix c _)
  have hrest := List.suffix_iff_eq_drop.1 hleft
  simp only [standing, Session.step, Session.record, position]
  rw [← hrest]
  simp [failures]

/-- **Recovery stops at the first place where it may.**  From every cursor up to the end of the
input, a session recovers to one place: the end of the input if it stands there, and otherwise the
first stop behind the cursor.  Its errors and its nesting stay the same.  The walk over the list
comes to that place as well, and to no other, whatever was reported and however deep the nesting. -/
theorem synchronize_stops_first (tokens : List Token) {c : Nat}
    (hc : c ≤ tokens.findIdx Token.isEnd) :
    ∃ q, StopsAt tokens c q ∧
      (∀ fs : List Failure,
        let s := standing tokens c fs
        let s' := (s.step .synchronize).2
        s.current = c ∧ s'.current = q ∧ s'.errors = s.errors ∧ s'.depth = s.depth ∧
          s' = standing tokens q fs) ∧
      ∀ (depth : Nat) (reports : List Report) (y : Session.Yield) (state : State),
        StepWalk tokens ⟨⟨c, depth⟩, reports⟩ .synchronize y state ↔
          y = .nothing ∧ state = ⟨⟨q, depth⟩, reports⟩ := by
  have hlength := length_ofTokens tokens
  have hrest : (Input.ofTokens tokens).tokens.drop c <:+ (Input.ofTokens tokens).tokens :=
    List.drop_suffix c _
  have hplace :
      position (Input.ofTokens tokens).tokens ((Input.ofTokens tokens).tokens.drop c) = c :=
    current_standing hc []
  have hstops := stopsAt_synchronize hrest
  have hwalk := recovery_lands hrest
  rw [hplace] at hstops hwalk
  refine ⟨_, hstops, fun fs => ?_, fun depth reports y state => ⟨fun h => ?_, ?_⟩⟩
  · have hstep := congrArg Prod.snd (step_synchronize_standing tokens c fs)
    refine ⟨current_standing hc fs, rfl, ?_, rfl, hstep⟩
    rw [hstep]
    rfl
  · obtain ⟨rfl, rfl⟩ := (StepWalk.synchronize (s := ⟨⟨c, depth⟩, reports⟩) hwalk).deterministic h
    exact ⟨rfl, by simp [State.record]⟩
  · rintro ⟨rfl, rfl⟩
    have hstep := StepWalk.synchronize (s := ⟨⟨c, depth⟩, reports⟩) hwalk
    simpa [State.record] using hstep

/-- From the plus sign of a sum that breaks off, recovery stops before the next statement. -/
theorem synchronize_stops_before_print :
    let tokens := [sample .number, sample .plus, sample .slash, sample .kwPrint, sample .endOfInput,
      sample .semicolon]
    1 ≤ tokens.findIdx Token.isEnd ∧ StopsAt tokens 1 3 ∧
      ((standing tokens 1 []).step .synchronize).2.current = 3 := by
  intro tokens
  have hc : 1 ≤ tokens.findIdx Token.isEnd := by decide
  obtain ⟨q, hstops, hsession, -⟩ := synchronize_stops_first tokens hc
  have hcurrent : ((standing tokens 1 []).step .synchronize).2.current = 3 := by decide +kernel
  obtain rfl : q = 3 := (hsession []).2.1.symm.trans hcurrent
  exact ⟨hc, hstops, hcurrent⟩

end LoxSyntax.Grammar
