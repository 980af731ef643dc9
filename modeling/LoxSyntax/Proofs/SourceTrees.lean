/-
# Trees of source text

The operators of a tree are tokens of the source, which spells them in one way, and its literals are
the values of tokens.  A number in source text has no sign, and it is finite where the scan reports
nothing.
-/
import LoxSyntax.Proofs.Acceptance
import LoxSyntax.Proofs.PrefixNotation
import LoxSyntax.Proofs.Rounding
import LoxSyntax.Proofs.ScannedTokens

namespace LoxSyntax

open Parsing Grammar PrefixNotation

/-! ## Trees of tokens -/

/-- The operators of the tree are tokens of the list, and its literals are values of such tokens. -/
def Expr.TakenFrom (ts : List Token) : Expr → Prop
  | binary left operator right =>
    (operator ∈ ts ∧ ∃ level : Level, operator.kind ∈ level.operators) ∧
      left.TakenFrom ts ∧ right.TakenFrom ts
  | grouping inner => inner.TakenFrom ts
  | literal value => ∃ t ∈ ts, literal? t = some value
  | unary operator right =>
    (operator ∈ ts ∧ (operator.kind = .bang ∨ operator.kind = .minus)) ∧ right.TakenFrom ts
  | ternary condition thenBranch elseBranch =>
    condition.TakenFrom ts ∧ thenBranch.TakenFrom ts ∧ elseBranch.TakenFrom ts

/-- **The tree of a phrase is taken from its tokens.** -/
theorem Grammar.Derives.takenFrom {nt : Nonterminal} {ts all : List Token} {e : Expr}
    (h : Derives nt ts e) (hall : ∀ t ∈ ts, t ∈ all) : e.TakenFrom all := by
  induction h with
  | expression _ ih => exact ih hall
  | plain _ ih => exact ih hall
  | conditional _ _ _ _ _ ihc iht ihe =>
    simp only [List.forall_mem_append, List.forall_mem_cons] at hall
    exact ⟨ihc hall.1, iht hall.2.2.1, ihe hall.2.2.2.2⟩
  | operand _ ih => exact ih hall
  | link _ ho _ ihl ihr =>
    simp only [List.forall_mem_append, List.forall_mem_cons] at hall
    exact ⟨⟨hall.2.1, _, ho⟩, ihl hall.1, ihr hall.2.2⟩
  | negation ho _ ih =>
    rw [List.forall_mem_cons] at hall
    exact ⟨⟨hall.1, ho⟩, ih hall.2⟩
  | primary _ ih => exact ih hall
  | @constant t hk =>
    refine ⟨t, hall t (List.mem_singleton_self t), ?_⟩
    rcases hk with hk | hk <;> simp only [literal?, hk]
  | @trueWord t hk | @falseWord t hk | @nilWord t hk =>
    refine ⟨t, hall t (List.mem_singleton_self t), ?_⟩
    simp only [literal?, hk]
  | grouping _ _ _ ih =>
    simp only [List.forall_mem_append, List.forall_mem_cons] at hall
    exact ih hall.2.1

/-- The tree that parsing finds is taken from the tokens. -/
theorem takenFrom_of_parse {tokens : List Token} {e : Expr} (h : (parse tokens).tree? = some e) :
    e.TakenFrom tokens := by
  have hread : (complete (Input.ofTokens tokens).tokens).1 = .ok e := by
    simp only [parse] at h
    split at h
    · rename_i hok
      rw [hok]
      exact congrArg Except.ok (Option.some.inj h)
    · cases h
  obtain ⟨body, hbody, hd, -⟩ := complete_eq_ok_iff.1 hread
  refine hd.takenFrom fun t ht => ?_
  have hinput : t ∈ (Input.ofTokens tokens).tokens := by
    rcases hbody with hsame | ⟨semicolon, -, hsame⟩
    · rwa [hsame]
    · rw [hsame]
      exact List.mem_append_left _ ht
  exact (List.takeWhile_prefix _).subset hinput

/-! ## Tokens of source text -/

section Scanned

variable {source : String} {t : Token} {s : Segment} {rest : List Char} {value : Value}

/-- A segment that makes an operator is the spelling of that operator. -/
theorem Segment.text_eq_of_operator {kind : Token.Kind} {lexeme : String} (h : Segment.Munch s rest)
    (hkind : s.kind? = some kind) (hlexeme : (kind, lexeme) ∈ unaryOperators ++ binaryOperators) :
    String.ofList s.text = lexeme := by
  have hsingles : ∀ entry ∈ Token.singles, ∀ operator ∈ unaryOperators ++ binaryOperators,
      entry.2 = operator.1 → String.ofList [entry.1] = operator.2 := by decide +kernel
  have hpairs : ∀ entry ∈ Token.equalsPairs, ∀ operator ∈ unaryOperators ++ binaryOperators,
      (entry.2.1 = operator.1 → String.ofList [entry.1] = operator.2) ∧
        (entry.2.2 = operator.1 → String.ofList [entry.1, '='] = operator.2) := by decide +kernel
  have hslash : ∀ operator ∈ unaryOperators ++ binaryOperators,
      .slash = operator.1 → String.ofList ['/'] = operator.2 := by decide +kernel
  have hothers : ∀ operator ∈ unaryOperators ++ binaryOperators,
      operator.1 ≠ .number ∧ operator.1 ≠ .string ∧
        ∀ kind ∈ .identifier :: Token.keywords.map Prod.snd, kind ≠ operator.1 := by decide +kernel
  cases h with
  | single hc => exact hsingles _ hc _ hlexeme (Option.some.inj hkind)
  | alone hc => exact (hpairs _ hc _ hlexeme).1 (Option.some.inj hkind)
  | withEquals hc => exact (hpairs _ hc _ hlexeme).2 (Option.some.inj hkind)
  | slash => exact hslash _ hlexeme (Option.some.inj hkind)
  | word => exact absurd (Option.some.inj hkind) ((hothers _ hlexeme).2.2 _ (wordKind_mem _))
  | number => exact absurd (Option.some.inj hkind).symm (hothers _ hlexeme).1
  | string | openString => exact absurd (Option.some.inj hkind).symm (hothers _ hlexeme).2.1
  | _ => cases hkind

/-- An operator in source text is spelled as its kind says. -/
theorem operator_of_mem_tokens {lexeme : String} (h : t ∈ (scan source).tokens)
    (hlexeme : (t.kind, lexeme) ∈ unaryOperators ++ binaryOperators) : t.lexeme = lexeme := by
  have hkinds : ∀ operator ∈ unaryOperators ++ binaryOperators, operator.1 ≠ .endOfInput := by
    decide
  have hend : t.isEnd = false := by
    rw [Token.isEnd, beq_eq_false_iff_ne]
    exact hkinds _ hlexeme
  obtain ⟨s, hs, line, htoken⟩ := Segment.exists_segment_of_mem_tokens h hend
  obtain ⟨rest, hmunch⟩ := Segment.munch_of_mem_segments hs
  obtain ⟨kind, hkind, rfl⟩ := Option.map_eq_some_iff.1 htoken
  exact Segment.text_eq_of_operator hmunch hkind hlexeme

/-- A token of the source that is no number and no string carries no value. -/
theorem literal_eq_nil_of_mem_tokens (h : t ∈ (scan source).tokens) (hnumber : t.kind ≠ .number)
    (hstring : t.kind ≠ .string) : t.literal = .nil := by
  rcases List.mem_append.1 h with hmade | hlast
  · obtain ⟨⟨line, s⟩, -, htoken⟩ := List.mem_filterMap.1 hmade
    obtain ⟨kind, hkind, rfl⟩ := Option.map_eq_some_iff.1 htoken
    cases s with
    | number => exact absurd (Option.some.inj hkind).symm hnumber
    | string => exact absurd (Option.some.inj hkind).symm hstring
    | _ => rfl
  · obtain rfl := List.mem_singleton.1 hlast
    rfl

/-- **The literals of source text** are the three reserved words, strings, and the numbers that
numerals denote. -/
theorem literal_of_mem_tokens (h : t ∈ (scan source).tokens) (hvalue : literal? t = some value) :
    value = .nil ∨ (∃ b, value = .bool b) ∨ (t.kind = .string ∧ ∃ body, value = .text body) ∨
      ∃ whole fraction, Segment.number whole fraction ∈ Segment.segments source.toList ∧
        value = .number (.ofDecimal whole fraction) := by
  have hsegment (hend : t.kind ≠ .endOfInput) : ∃ s ∈ Segment.segments source.toList,
      (∃ rest, Segment.Munch s rest) ∧ s.kind? = some t.kind ∧ t.literal = s.literal := by
    obtain ⟨s, hs, line, htoken⟩ := Segment.exists_segment_of_mem_tokens h (by simpa [Token.isEnd])
    obtain ⟨kind, hkind, rfl⟩ := Option.map_eq_some_iff.1 htoken
    exact ⟨s, hs, Segment.munch_of_mem_segments hs, hkind, rfl⟩
  rw [literal?] at hvalue
  split at hvalue <;> rename_i hk
  · exact Or.inr (Or.inl ⟨false, (Option.some.inj hvalue).symm⟩)
  · exact Or.inr (Or.inl ⟨true, (Option.some.inj hvalue).symm⟩)
  · exact Or.inl (Option.some.inj hvalue).symm
  · obtain ⟨s, hs, ⟨rest, hmunch⟩, hkind, hliteral⟩ := hsegment (by rw [hk]; decide)
    obtain ⟨whole, fraction, rfl⟩ := Segment.eq_number_of_kind? hmunch (hkind.trans (by rw [hk]))
    refine Or.inr (Or.inr (Or.inr ⟨whole, fraction, hs, ?_⟩))
    rw [← Option.some.inj hvalue, hliteral, Segment.literal]
  · obtain ⟨s, hs, ⟨rest, hmunch⟩, hkind, hliteral⟩ := hsegment (by rw [hk]; decide)
    obtain ⟨body, closed, rfl⟩ := Segment.eq_string_of_kind? hmunch (hkind.trans (by rw [hk]))
    refine Or.inr (Or.inr (Or.inl ⟨hk, String.ofList body, ?_⟩))
    rw [← Option.some.inj hvalue, hliteral, Segment.literal]
  · cases hvalue

end Scanned

/-! ## Trees of source text -/

/-- The operators are spelled as in source text, and the literals have a property. -/
def Expr.Spelled (P : Value → Prop) : Expr → Prop
  | binary left operator right =>
    (operator.kind, operator.lexeme) ∈ binaryOperators ∧ left.Spelled P ∧ right.Spelled P
  | grouping inner => inner.Spelled P
  | literal value => P value
  | unary operator right => (operator.kind, operator.lexeme) ∈ unaryOperators ∧ right.Spelled P
  | ternary condition thenBranch elseBranch =>
    condition.Spelled P ∧ thenBranch.Spelled P ∧ elseBranch.Spelled P

theorem Grammar.Level.ne_of_mem_operators (level : Level) {kind : Token.Kind}
    (h : kind ∈ level.operators) : kind ≠ .number ∧ kind ≠ .string := by
  have hall : ∀ kind ∈ level.operators, kind ≠ .number ∧ kind ≠ .string := by
    cases level <;> decide
  exact hall kind h

theorem Grammar.ne_of_unary {kind : Token.Kind} (h : kind = .bang ∨ kind = .minus) :
    kind ≠ .number ∧ kind ≠ .string := by
  rcases h with rfl | rfl <;> decide

/-- The operators of all levels stand between two operands. -/
theorem exists_lexeme_of_level {level : Level} {kind : Token.Kind} (h : kind ∈ level.operators) :
    ∃ lexeme, (kind, lexeme) ∈ binaryOperators := by
  have hall : ∀ kind ∈ level.operators, kind ∈ binaryOperators.map Prod.fst := by
    cases level <;> decide
  obtain ⟨⟨kind', lexeme⟩, hmem, rfl⟩ := List.mem_map.1 (hall kind h)
  exact ⟨lexeme, hmem⟩

/-- **A tree of source text is spelled as in source text.** -/
theorem Expr.TakenFrom.spelled {source : String} {e : Expr} {P : Value → Prop}
    (h : e.TakenFrom (scan source).tokens)
    (hP : ∀ t ∈ (scan source).tokens, ∀ value, literal? t = some value → P value) :
    e.Spelled P := by
  induction e with
  | binary left operator right ihLeft ihRight =>
    obtain ⟨⟨hmem, level, hlevel⟩, hleft, hright⟩ := h
    obtain ⟨lexeme, hlexeme⟩ := exists_lexeme_of_level hlevel
    have hsame := operator_of_mem_tokens hmem (List.mem_append_right unaryOperators hlexeme)
    exact ⟨by rwa [hsame], ihLeft hleft, ihRight hright⟩
  | grouping inner ih => exact ih h
  | literal value =>
    obtain ⟨t, ht, hvalue⟩ := h
    exact hP t ht value hvalue
  | unary operator right ih =>
    obtain ⟨⟨hmem, hkind⟩, hright⟩ := h
    have hlexeme : ∃ lexeme, (operator.kind, lexeme) ∈ unaryOperators := by
      rcases hkind with hkind | hkind <;> rw [hkind]
      · exact ⟨"!", by decide⟩
      · exact ⟨"-", by decide⟩
    obtain ⟨lexeme, hlexeme⟩ := hlexeme
    have hsame := operator_of_mem_tokens hmem (List.mem_append_left binaryOperators hlexeme)
    exact ⟨by rwa [hsame], ih hright⟩
  | ternary condition thenBranch elseBranch ihCondition ihThen ihElse =>
    exact ⟨ihCondition h.1, ihThen h.2.1, ihElse h.2.2⟩

/-- The value is no string, and a number is finite and has no sign. -/
def Value.IsPlain : Value → Prop
  | nil | bool _ => True
  | number x => x.negative = false ∧ x.isFinite = true
  | text _ | foreign _ => False

/-- A numeral that is not at fault denotes a finite number without a sign. -/
theorem Value.isPlain_ofDecimal {whole fraction : List Char}
    (h : (Segment.number whole fraction).fault? = none) :
    (number (.ofDecimal whole fraction)).IsPlain := by
  have hinfinite : ¬ (Binary64.ofDecimal whole fraction).isInfinite = true := by
    intro hinfinite
    rw [Segment.fault?, if_pos hinfinite] at h
    cases h
  exact ⟨rfl, Binary64.isFinite_nearest (Bool.eq_false_iff.2 hinfinite)⟩

/-- **The trees of source text without errors and without strings** have plain literals. -/
theorem spelled_of_parseSource {source : String} {e : Expr}
    (h : parseSource source = { tree? := some e })
    (hstrings : ∀ t ∈ (scan source).tokens, t.kind ≠ .string) : e.Spelled Value.IsPlain := by
  have htree : (parse (scan source).tokens).tree? = some e := congrArg Parsed.tree? h
  have herrors : (scan source).errors = [] := congrArg Parsed.lexical h
  refine (takenFrom_of_parse htree).spelled fun t ht value hvalue => ?_
  rcases literal_of_mem_tokens ht hvalue with
    rfl | ⟨b, rfl⟩ | ⟨hstring, -⟩ | ⟨whole, fraction, hmem, rfl⟩
  · trivial
  · trivial
  · exact absurd hstring (hstrings t ht)
  · exact Value.isPlain_ofDecimal (Segment.fault?_eq_none_of_errors herrors hmem)

end LoxSyntax
