/-
# Postfix notation

The postfix form of an expression is the row of its symbols: every literal and every operator, each
behind its operands.  A row of symbols is read back with a stack, so it tells the expression up to
its groupings.  The words of the postfix form tell the symbols, but for one word: a minus sign is
negation or subtraction.  So the form tells the expression together with the order of these two, and
alone where only one of them occurs.
-/
import Mathlib.Data.List.Perm.Basic
import LoxSyntax.Expr.Postfix
import LoxSyntax.Proofs.NumberSpelling
import LoxSyntax.Proofs.SourceTrees

namespace LoxSyntax

/-! ## Skeletons -/

/-- What is left of an expression without its groupings: the kinds of its operators and the
spellings of its literals. -/
inductive Skeleton where
  | binary (left : Skeleton) (operator : Token.Kind) (right : Skeleton)
  | literal (spelling : Except Value.Unrenderable String)
  | unary (operator : Token.Kind) (right : Skeleton)
  | ternary (condition thenBranch elseBranch : Skeleton)

/-- The skeleton of an expression. -/
def Expr.skeleton : Expr → Skeleton
  | binary left operator right => .binary left.skeleton operator.kind right.skeleton
  | grouping inner => inner.skeleton
  | literal value => .literal value.spelling
  | unary operator right => .unary operator.kind right.skeleton
  | ternary condition thenBranch elseBranch =>
    .ternary condition.skeleton thenBranch.skeleton elseBranch.skeleton

namespace PostfixNotation

/-- A node of a skeleton without its operands. -/
inductive Symbol where
  | operand (spelling : Except Value.Unrenderable String)
  | unary (operator : Token.Kind)
  | binary (operator : Token.Kind)
  | conditional
  deriving DecidableEq

/-- The nodes of a skeleton, each one behind its operands. -/
def symbols : Skeleton → List Symbol
  | .binary left operator right => symbols left ++ symbols right ++ [.binary operator]
  | .literal spelling => [.operand spelling]
  | .unary operator right => symbols right ++ [.unary operator]
  | .ternary condition thenBranch elseBranch =>
    symbols condition ++ symbols thenBranch ++ symbols elseBranch ++ [.conditional]

/-- The two meanings of a minus sign. -/
inductive Sign where
  | negation
  | subtraction
  deriving DecidableEq, Repr

/-- The meaning of a symbol that is a minus sign. -/
def Symbol.sign? : Symbol → Option Sign
  | unary .minus => some .negation
  | binary .minus => some .subtraction
  | _ => none

end PostfixNotation

open PostfixNotation PrefixNotation

/-- The meanings of the minus signs in the postfix form, in their order. -/
def Expr.signs (e : Expr) : List Sign := (symbols e.skeleton).filterMap Symbol.sign?

namespace PostfixNotation

/-! ## Reading symbols with a stack -/

/-- A symbol takes its operands from a stack and puts the whole there.  Where operands are missing,
the stack is left as it is. -/
def Symbol.push (stack : List Skeleton) : Symbol → List Skeleton
  | operand spelling => .literal spelling :: stack
  | unary operator =>
    match stack with
    | right :: below => .unary operator right :: below
    | _ => stack
  | binary operator =>
    match stack with
    | right :: left :: below => .binary left operator right :: below
    | _ => stack
  | conditional =>
    match stack with
    | elseBranch :: thenBranch :: condition :: below =>
      .ternary condition thenBranch elseBranch :: below
    | _ => stack

/-- **The symbols of a skeleton are read back on top of any stack.** -/
theorem foldl_push_symbols (s : Skeleton) (stack : List Skeleton) :
    (symbols s).foldl Symbol.push stack = s :: stack := by
  induction s generalizing stack with
  | binary left operator right ihLeft ihRight =>
    rw [symbols, List.foldl_append, List.foldl_append, ihLeft, ihRight]
    rfl
  | literal spelling => rfl
  | unary operator right ih =>
    rw [symbols, List.foldl_append, ih]
    rfl
  | ternary condition thenBranch elseBranch ihCondition ihThen ihElse =>
    rw [symbols, List.foldl_append, List.foldl_append, List.foldl_append, ihCondition, ihThen,
      ihElse]
    rfl

/-- **The symbols tell the skeleton.** -/
theorem symbols_injective {s s' : Skeleton} (h : symbols s = symbols s') : s = s' := by
  have hread := foldl_push_symbols s []
  rw [h, foldl_push_symbols] at hread
  exact (List.cons.inj hread).1.symm

/-! ## Words -/

/-- The word that a symbol is written with. -/
def Symbol.word : Symbol → String
  | operand spelling => spelling.toOption.getD ""
  | unary operator => (unaryOperators.lookup operator).getD ""
  | binary operator => (binaryOperators.lookup operator).getD ""
  | conditional => "?:"

/-- The symbols with operands. -/
def operators : List Symbol :=
  unaryOperators.map (.unary ·.1) ++ binaryOperators.map (.binary ·.1) ++ [.conditional]

/-- The symbol is an operator, or a word that starts with a letter or a digit. -/
def Symbol.IsWord (a : Symbol) : Prop :=
  a ∈ operators ∨ ∃ c run, a = .operand (.ok (String.ofList (c :: run))) ∧
    Segment.isWordPart c = true ∧ ' ' ∉ c :: run

/-- Operators are written with other characters than words. -/
theorem operators_words : ∀ a ∈ operators, ' ' ∉ a.word.toList ∧
    ∀ c, a.word.toList.head? = some c → Segment.isWordPart c = false := by
  have hall : ∀ a ∈ operators, ' ' ∉ a.word.toList ∧
      (a.word.toList.head?.all fun c => ! Segment.isWordPart c) = true := by decide +kernel
  intro a ha
  refine ⟨(hall a ha).1, fun c hc => ?_⟩
  have hfirst := (hall a ha).2
  rw [hc] at hfirst
  simpa using hfirst

section Words

variable {a b : Symbol} {row row' : List Symbol}

/-- No word has a blank in it. -/
theorem Symbol.IsWord.blank_not_mem (h : a.IsWord) : ' ' ∉ a.word.toList := by
  rcases h with h | ⟨c, run, rfl, -, hblank⟩
  · exact (operators_words a h).1
  · rwa [show (Symbol.operand (.ok (String.ofList (c :: run)))).word = String.ofList (c :: run)
      from rfl, String.toList_ofList]

/-- The characters of a row of symbols, with a blank behind each word. -/
def rowText (row : List Symbol) : List Char := row.flatMap fun a => a.word.toList ++ [' ']

/-- Two words that look alike. -/
structure Alike (a b : Symbol) : Prop where
  left : a.IsWord
  right : b.IsWord
  word : a.word = b.word

/-- Symbols that look alike are one symbol, or both are operators. -/
theorem Alike.cases (h : Alike a b) : a = b ∨ a ∈ operators ∧ b ∈ operators := by
  obtain ⟨ha, hb, hword⟩ := h
  have hdiffer {c : Char} {run : List Char} {operator : Symbol} (hc : Segment.isWordPart c = true)
      (hoperator : operator ∈ operators) : operator.word ≠ String.ofList (c :: run) := by
    intro hsame
    have hhead : operator.word.toList.head? = some c := by
      rw [hsame, String.toList_ofList]
      rfl
    have hfirst := (operators_words operator hoperator).2 c hhead
    rw [hc] at hfirst
    cases hfirst
  rcases ha with ha | ⟨c, run, rfl, hc, -⟩ <;> rcases hb with hb | ⟨d, run', rfl, hd, -⟩
  · exact Or.inr ⟨ha, hb⟩
  · exact absurd hword (hdiffer hd ha)
  · exact absurd hword.symm (hdiffer hc hb)
  · have hsame : String.ofList (c :: run) = String.ofList (d :: run') := hword
    rw [hsame]
    exact Or.inl rfl

/-- **Only minus signs look alike**, and they are told apart by their meaning. -/
theorem Alike.sign (h : Alike a b) :
    (a.sign?.isSome = b.sign?.isSome) ∧ (a.sign? = b.sign? → a = b) := by
  have hall : ∀ a ∈ operators, ∀ b ∈ operators, a.word = b.word →
      (a.sign?.isSome = b.sign?.isSome) ∧ (a.sign? = b.sign? → a = b) := by decide +kernel
  rcases h.cases with rfl | ⟨ha, hb⟩
  · exact ⟨rfl, fun _ => rfl⟩
  · exact hall a ha b hb h.word

/-- **The text of a row tells its words.** -/
theorem alike_of_rowText (hrow : ∀ a ∈ row, a.IsWord) (hrow' : ∀ a ∈ row', a.IsWord)
    (h : rowText row = rowText row') : List.Forall₂ Alike row row' := by
  induction row generalizing row' with
  | nil =>
    cases row' with
    | nil => exact List.Forall₂.nil
    | cons b others => simp [rowText] at h
  | cons a others ih =>
    cases row' with
    | nil => simp [rowText] at h
    | cons b others' =>
      rw [List.forall_mem_cons] at hrow hrow'
      simp only [rowText, List.flatMap_cons, List.append_assoc, List.singleton_append] at h
      -- the first blank on each side ends the first word
      have hfirst {rest : List Char} : ∀ d, (' ' :: rest).head? = some d → d = ' ' := by
        rintro d ⟨⟩
        rfl
      have hword : a.word.toList = b.word.toList := by
        rw [← Segment.takeWhile_until hrow.1.blank_not_mem hfirst, h,
          Segment.takeWhile_until hrow'.1.blank_not_mem hfirst]
      rw [hword] at h
      have hrest := (List.cons.inj (List.append_cancel_left h)).2
      exact List.Forall₂.cons ⟨hrow.1, hrow'.1, String.toList_inj.1 hword⟩
        (ih hrow.2 hrow'.2 hrest)

/-- **The words of a row and the meanings of its minus signs tell the row.** -/
theorem row_eq_of_signs (h : List.Forall₂ Alike row row')
    (hsigns : row.filterMap Symbol.sign? = row'.filterMap Symbol.sign?) : row = row' := by
  induction h with
  | nil => rfl
  | @cons a b others others' hword _ ih =>
    obtain ⟨hsome, hsame⟩ := hword.sign
    cases hs : a.sign? with
    | none =>
      have hs' : b.sign? = none := by
        rw [hs] at hsome
        exact Option.not_isSome_iff_eq_none.1 (by rw [← hsome]; decide)
      rw [List.filterMap_cons_none hs, List.filterMap_cons_none hs'] at hsigns
      rw [hsame (hs.trans hs'.symm), ih hsigns]
    | some sign =>
      rw [hs] at hsome
      obtain ⟨sign', hs'⟩ := Option.isSome_iff_exists.1 hsome.symm
      rw [List.filterMap_cons_some hs, List.filterMap_cons_some hs'] at hsigns
      obtain ⟨hsign, hrest⟩ := List.cons.inj hsigns
      rw [hsign] at hs
      rw [hsame (hs.trans hs'.symm), ih hrest]

end Words

/-! ## Counting signs -/

section Counting

variable {a b : Symbol} {row row' : List Symbol}

/-- What a symbol adds to the height of the stack. -/
def Symbol.gain : Symbol → Int
  | operand _ => 1
  | unary _ => 0
  | binary _ => -1
  | conditional => -2

/-- All symbols of a skeleton together add one. -/
theorem sum_gain_symbols (s : Skeleton) : ((symbols s).map Symbol.gain).sum = 1 := by
  induction s with
  | binary left operator right ihLeft ihRight =>
    simp only [symbols, List.map_append, List.sum_append, ihLeft, ihRight, List.map_cons,
      List.map_nil, Symbol.gain]
    rfl
  | literal spelling => rfl
  | unary operator right ih =>
    simp only [symbols, List.map_append, List.sum_append, ih, List.map_cons, List.map_nil,
      Symbol.gain]
    rfl
  | ternary condition thenBranch elseBranch ihCondition ihThen ihElse =>
    simp only [symbols, List.map_append, List.sum_append, ihCondition, ihThen, ihElse,
      List.map_cons, List.map_nil, Symbol.gain]
    rfl

/-- Symbols that look alike gain the same, but for subtraction. -/
theorem Alike.gain (h : Alike a b) : a.sign?.toList.length = b.sign?.toList.length ∧
    a.gain + a.sign?.toList.count .subtraction = b.gain + b.sign?.toList.count .subtraction := by
  have hall : ∀ a ∈ operators, ∀ b ∈ operators, a.word = b.word →
      a.sign?.toList.length = b.sign?.toList.length ∧
        a.gain + a.sign?.toList.count .subtraction =
          b.gain + b.sign?.toList.count .subtraction := by decide +kernel
  rcases h.cases with rfl | ⟨ha, hb⟩
  · exact ⟨rfl, rfl⟩
  · exact hall a ha b hb h.word

theorem signs_cons (a : Symbol) (row : List Symbol) :
    (a :: row).filterMap Symbol.sign? = a.sign?.toList ++ row.filterMap Symbol.sign? := by
  cases hs : a.sign? with
  | none => rw [List.filterMap_cons_none hs, Option.toList_none, List.nil_append]
  | some sign => rw [List.filterMap_cons_some hs, Option.toList_some, List.singleton_append]

/-- Rows that look alike have as many signs, and gain the same but for subtraction. -/
theorem gain_of_alike (h : List.Forall₂ Alike row row') :
    (row.filterMap Symbol.sign?).length = (row'.filterMap Symbol.sign?).length ∧
      (row.map Symbol.gain).sum + (row.filterMap Symbol.sign?).count .subtraction =
        (row'.map Symbol.gain).sum + (row'.filterMap Symbol.sign?).count .subtraction := by
  induction h with
  | nil => exact ⟨rfl, rfl⟩
  | @cons a b others others' hword _ ih =>
    obtain ⟨hlength, hgain⟩ := hword.gain
    simp only [signs_cons, List.length_append, List.count_append, List.map_cons, List.sum_cons,
      Int.natCast_add]
    omega

/-- Every sign is of one of the two kinds. -/
theorem length_signs (signs : List Sign) :
    signs.length = signs.count .negation + signs.count .subtraction := by
  induction signs with
  | nil => rfl
  | cons sign others ih =>
    rw [List.length_cons, ih]
    cases sign with
    | negation =>
      rw [List.count_cons_self, List.count_cons_of_ne (by decide)]
      omega
    | subtraction =>
      rw [List.count_cons_self, List.count_cons_of_ne (by decide)]
      omega

/-- Signs of one kind are in the same order in any order. -/
theorem signs_eq_of_perm {signs signs' : List Sign} (h : signs.Perm signs')
    (hone : .negation ∉ signs ∨ .subtraction ∉ signs) : signs = signs' := by
  have hall : ∃ sign : Sign, ∀ other ∈ signs, other = sign := by
    rcases hone with hmissing | hmissing
    · refine ⟨.subtraction, fun other hother => ?_⟩
      cases other with
      | negation => exact absurd hother hmissing
      | subtraction => rfl
    · refine ⟨.negation, fun other hother => ?_⟩
      cases other with
      | negation => rfl
      | subtraction => exact absurd hother hmissing
  obtain ⟨sign, hall⟩ := hall
  have hsigns : signs = List.replicate signs.length sign := List.eq_replicate_iff.2 ⟨rfl, hall⟩
  rw [hsigns] at h
  rw [hsigns, List.perm_replicate.1 h.symm]

/-- **Skeletons that look alike have the same minus signs**, in some order. -/
theorem signs_perm {s s' : Skeleton} (h : List.Forall₂ Alike (symbols s) (symbols s')) :
    ((symbols s).filterMap Symbol.sign?).Perm ((symbols s').filterMap Symbol.sign?) := by
  obtain ⟨hlength, hgain⟩ := gain_of_alike h
  rw [sum_gain_symbols, sum_gain_symbols] at hgain
  rw [length_signs, length_signs] at hlength
  rw [List.perm_iff_count]
  intro sign
  cases sign with
  | negation => omega
  | subtraction => omega

end Counting

/-! ## The text of an expression -/

/-- A plain value is spelled with one word. -/
theorem exists_spelling_word {value : Value} (h : value.IsPlain) : ∃ c run,
    value.spelling = .ok (String.ofList (c :: run)) ∧ Segment.isWordPart c = true ∧
      ' ' ∉ c :: run := by
  cases value with
  | nil => exact ⟨'n', ['i', 'l'], rfl, by decide, by decide⟩
  | bool b =>
    cases b with
    | false => exact ⟨'f', ['a', 'l', 's', 'e'], rfl, by decide, by decide⟩
    | true => exact ⟨'t', ['r', 'u', 'e'], rfl, by decide, by decide⟩
  | number x =>
    obtain ⟨c, run, hspelling, hdigit⟩ := Value.exists_spelling_digit h.1 h.2
    refine ⟨c, run, hspelling, ?_, fun hblank => ?_⟩
    · rw [Segment.isWordPart, hdigit, Bool.or_true]
    · have hmark := Value.isMark_of_mem_spelling hspelling ' ' (by rwa [String.toList_ofList])
      exact absurd hmark (by decide)
  | text _ | foreign _ => exact h.elim

theorem word_unary : ∀ operator ∈ unaryOperators,
    Symbol.unary operator.1 ∈ operators ∧ (Symbol.unary operator.1).word = operator.2 := by
  decide +kernel

theorem word_binary : ∀ operator ∈ binaryOperators,
    Symbol.binary operator.1 ∈ operators ∧ (Symbol.binary operator.1).word = operator.2 := by
  decide +kernel

/-- The symbols of an expression with plain literals are words. -/
theorem isWord_symbols {e : Expr} (h : e.Spelled Value.IsPlain) :
    ∀ a ∈ symbols e.skeleton, a.IsWord := by
  induction e with
  | binary left operator right ihLeft ihRight =>
    simp only [Expr.skeleton, symbols, List.forall_mem_append, List.forall_mem_singleton]
    exact ⟨⟨ihLeft h.2.1, ihRight h.2.2⟩, Or.inl (word_binary _ h.1).1⟩
  | grouping inner ih => exact ih h
  | literal value =>
    obtain ⟨c, run, hspelling, hword⟩ := exists_spelling_word h
    simp only [Expr.skeleton, symbols, List.forall_mem_singleton]
    exact Or.inr ⟨c, run, by rw [hspelling], hword⟩
  | unary operator right ih =>
    simp only [Expr.skeleton, symbols, List.forall_mem_append, List.forall_mem_singleton]
    exact ⟨ih h.2, Or.inl (word_unary _ h.1).1⟩
  | ternary condition thenBranch elseBranch ihCondition ihThen ihElse =>
    simp only [Expr.skeleton, symbols, List.forall_mem_append, List.forall_mem_singleton]
    exact ⟨⟨⟨ihCondition h.1, ihThen h.2.1⟩, ihElse h.2.2⟩, Or.inl (by decide)⟩

theorem rowText_singleton (a : Symbol) : rowText [a] = a.word.toList ++ [' '] := by
  rw [rowText, List.flatMap_singleton]

theorem rowText_append (row row' : List Symbol) :
    rowText (row ++ row') = rowText row ++ rowText row' := List.flatMap_append

/-- **The postfix form is the text of the symbols.** -/
theorem exists_postfixForm {e : Expr} (h : e.Spelled Value.IsPlain) : ∃ text,
    e.postfixForm = .ok text ∧ text.toList ++ [' '] = rowText (symbols e.skeleton) := by
  induction e with
  | binary left operator right ihLeft ihRight =>
    obtain ⟨first, hfirst, hfirst'⟩ := ihLeft h.2.1
    obtain ⟨second, hsecond, hsecond'⟩ := ihRight h.2.2
    refine ⟨first ++ " " ++ second ++ " " ++ operator.lexeme, ?_, ?_⟩
    · rw [Expr.postfixForm, hfirst, hsecond]
      rfl
    · rw [Expr.skeleton, symbols, rowText_append, rowText_append, ← hfirst', ← hsecond',
        rowText_singleton, (word_binary _ h.1).2]
      simp
  | grouping inner ih => exact ih h
  | literal value =>
    obtain ⟨c, run, hspelling, -⟩ := exists_spelling_word h
    refine ⟨_, hspelling, ?_⟩
    rw [Expr.skeleton, symbols, rowText_singleton, hspelling]
    rfl
  | unary operator right ih =>
    obtain ⟨first, hfirst, hfirst'⟩ := ih h.2
    refine ⟨first ++ " " ++ operator.lexeme, ?_, ?_⟩
    · rw [Expr.postfixForm, hfirst]
      rfl
    · rw [Expr.skeleton, symbols, rowText_append, ← hfirst', rowText_singleton,
        (word_unary _ h.1).2]
      simp
  | ternary condition thenBranch elseBranch ihCondition ihThen ihElse =>
    obtain ⟨first, hfirst, hfirst'⟩ := ihCondition h.1
    obtain ⟨second, hsecond, hsecond'⟩ := ihThen h.2.1
    obtain ⟨third, hthird, hthird'⟩ := ihElse h.2.2
    refine ⟨first ++ " " ++ second ++ " " ++ third ++ " ?:", ?_, ?_⟩
    · rw [Expr.postfixForm, hfirst, hsecond, hthird]
      rfl
    · rw [Expr.skeleton, symbols, rowText_append, rowText_append, rowText_append, ← hfirst',
        ← hsecond', ← hthird', rowText_singleton]
      simp [Symbol.word]

end PostfixNotation

namespace Expr

/-- **The postfix form tells the expression up to its groupings and its minus signs.**  Take two
expressions of source text without errors and without strings.  Both have a postfix form.  They are
the same without their groupings exactly if they have the same form and the same order of negations
and subtractions in it.  Expressions with the same form always have the same number of both.  So if
one of two expressions has no negation, or has no subtraction, then they have the same form exactly
if they are the same without their groupings. -/
theorem postfixForm_eq_iff (source source' : String) (a b : Expr)
    (ha : parseSource source = { tree? := some a })
    (hb : parseSource source' = { tree? := some b })
    (hstrings : ∀ t ∈ (scan source).tokens, t.kind ≠ .string)
    (hstrings' : ∀ t ∈ (scan source').tokens, t.kind ≠ .string) :
    ∃ text text', a.postfixForm = .ok text ∧ b.postfixForm = .ok text' ∧
      (a.skeleton = b.skeleton ↔ text = text' ∧ a.signs = b.signs) ∧
      (text = text' → a.signs.Perm b.signs) ∧
      (Sign.negation ∉ a.signs ∨ Sign.subtraction ∉ a.signs →
        (text = text' ↔ a.skeleton = b.skeleton)) := by
  have hspelled := spelled_of_parseSource ha hstrings
  have hspelled' := spelled_of_parseSource hb hstrings'
  obtain ⟨text, hform, htext⟩ := exists_postfixForm hspelled
  obtain ⟨text', hform', htext'⟩ := exists_postfixForm hspelled'
  have halike (hsame : text = text') :
      List.Forall₂ Alike (symbols a.skeleton) (symbols b.skeleton) := by
    refine alike_of_rowText (isWord_symbols hspelled) (isWord_symbols hspelled') ?_
    rw [← htext, ← htext', hsame]
  have hforward (hsame : a.skeleton = b.skeleton) : text = text' ∧ a.signs = b.signs := by
    rw [hsame, ← htext'] at htext
    exact ⟨String.toList_inj.1 (List.append_cancel_right htext), by rw [signs, signs, hsame]⟩
  have hbackward (hsame : text = text') (hsigns : a.signs = b.signs) : a.skeleton = b.skeleton :=
    symbols_injective (row_eq_of_signs (halike hsame) hsigns)
  have hperm (hsame : text = text') : a.signs.Perm b.signs := signs_perm (halike hsame)
  refine ⟨text, text', hform, hform', ⟨hforward, fun h => hbackward h.1 h.2⟩, hperm, fun hone => ?_⟩
  exact ⟨fun hsame => hbackward hsame (signs_eq_of_perm (hperm hsame) hone),
    fun hsame => (hforward hsame).1⟩

/-- A negation of a subtraction and a subtraction of a negation have the same form, but not the same
order of signs. -/
theorem postfixForm_eq_iff_signs :
    let source := "1 - -2"
    let source' := "-(1 - 2)"
    ∃ a b, (parseSource source = { tree? := some a } ∧ parseSource source' = { tree? := some b } ∧
      (∀ t ∈ (scan source).tokens, t.kind ≠ .string) ∧
      ∀ t ∈ (scan source').tokens, t.kind ≠ .string) ∧
    ∃ text text', a.postfixForm = .ok text ∧ b.postfixForm = .ok text' ∧
      (a.skeleton = b.skeleton ↔ text = text' ∧ a.signs = b.signs) ∧
      (text = text' → a.signs.Perm b.signs) ∧
      (Sign.negation ∉ a.signs ∨ Sign.subtraction ∉ a.signs →
        (text = text' ↔ a.skeleton = b.skeleton)) := by
  intro source source'
  have hstrings : ∀ t ∈ (scan source).tokens, t.kind ≠ .string := by decide +kernel
  have hstrings' : ∀ t ∈ (scan source').tokens, t.kind ≠ .string := by decide +kernel
  have ha : parseSource source = { tree? := some (binary (literal (.number .one))
      ⟨.minus, "-", .nil, 1⟩ (unary ⟨.minus, "-", .nil, 1⟩
        (literal (.number (.ofDecimal ['2'] []))))) } := by decide +kernel
  have hb : parseSource source' = { tree? := some (unary ⟨.minus, "-", .nil, 1⟩
      (grouping (binary (literal (.number .one)) ⟨.minus, "-", .nil, 1⟩
        (literal (.number (.ofDecimal ['2'] [])))))) } := by decide +kernel
  exact ⟨_, _, ⟨ha, hb, hstrings, hstrings'⟩,
    postfixForm_eq_iff source source' _ _ ha hb hstrings hstrings'⟩

/-- The postfix form alone does not tell the expression up to its groupings. -/
theorem exists_postfixForm_of_two :
    ∃ a b, parseSource "1 - -2" = { tree? := some a } ∧
      parseSource "-(1 - 2)" = { tree? := some b } ∧
      (∀ t ∈ (scan "1 - -2").tokens ++ (scan "-(1 - 2)").tokens, t.kind ≠ .string) ∧
      a.postfixForm = .ok "1 2 - -" ∧ b.postfixForm = .ok "1 2 - -" ∧ a.skeleton ≠ b.skeleton := by
  refine ⟨binary (literal (.number .one)) ⟨.minus, "-", .nil, 1⟩ (unary ⟨.minus, "-", .nil, 1⟩
      (literal (.number (.ofDecimal ['2'] [])))),
    unary ⟨.minus, "-", .nil, 1⟩ (grouping (binary (literal (.number .one)) ⟨.minus, "-", .nil, 1⟩
      (literal (.number (.ofDecimal ['2'] []))))), by decide +kernel, by decide +kernel,
    by decide +kernel, by decide +kernel, by decide +kernel, ?_⟩
  intro hsame
  cases hsame

end Expr

end LoxSyntax
