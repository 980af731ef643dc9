/-
# Prefix notation

The prefix form of an expression tells its shape.  A reader finds the shape again in the tokens of
the text: it keeps the forms that are open, each with the tokens behind its parenthesis and with the
operands read so far, and looks at one token after the other.  An operator that stands before one
operand or between two is told by their number when the form is closed.
-/
import Mathlib.Data.List.Forall2
import LoxSyntax.Expr.Prefix
import LoxSyntax.Proofs.Lines
import LoxSyntax.Proofs.Numerals

namespace LoxSyntax

/-! ## Shapes -/

/-- The shape of an expression: its nodes, the kinds of its operators and the values of its
literals, without the tokens that these were read from. -/
inductive Shape where
  | binary (left : Shape) (operator : Token.Kind) (right : Shape)
  | grouping (inner : Shape)
  | literal (value : Value)
  | unary (operator : Token.Kind) (right : Shape)
  | ternary (condition thenBranch elseBranch : Shape)
  deriving DecidableEq, Repr

/-- The value with numbers replaced by those that stand for all that agree with them. -/
def Value.representative : Value → Value
  | number x => number x.representative
  | v => v

/-- The shape of an expression.  The zeros of both signs are one literal. -/
def Expr.shape : Expr → Shape
  | binary left operator right => .binary left.shape operator.kind right.shape
  | grouping inner => .grouping inner.shape
  | literal value => .literal value.representative
  | unary operator right => .unary operator.kind right.shape
  | ternary condition thenBranch elseBranch =>
    .ternary condition.shape thenBranch.shape elseBranch.shape

namespace PrefixNotation

/-- The operators that stand before one operand, as they are spelled. -/
def unaryOperators : List (Token.Kind × String) := [(.bang, "!"), (.minus, "-")]

/-- The operators that stand between two operands, as they are spelled. -/
def binaryOperators : List (Token.Kind × String) := [
    (.bangEqual, "!="), (.equalEqual, "=="), (.greater, ">"), (.greaterEqual, ">="), (.less, "<"),
    (.lessEqual, "<="), (.minus, "-"), (.plus, "+"), (.slash, "/"), (.star, "*")]

/-- A scan finds exactly these operators under these spellings. -/
example : ∀ entry ∈ unaryOperators ++ binaryOperators,
    scan entry.2 = ⟨[⟨entry.1, entry.2, .nil, 1⟩, Token.endAt 1], []⟩ := by decide +kernel

/-! ## The reader -/

/-- A form whose closing parenthesis has not been read: the tokens at its head and the operands
behind them. -/
structure Form where
  head : List Token := []
  operands : List Shape := []

/-- The shape of a form that is closed: the head and the number of operands have to fit. -/
def Form.close? : Form → Option Shape
  | ⟨[t], [operand]⟩ =>
    if (t.kind, t.lexeme) ∈ unaryOperators then some (.unary t.kind operand)
    else if t.kind = .identifier ∧ t.lexeme = "group" then some (.grouping operand)
    else none
  | ⟨[t], [left, right]⟩ =>
    if (t.kind, t.lexeme) ∈ binaryOperators then some (.binary left t.kind right) else none
  | ⟨[t, t'], [condition, thenBranch, elseBranch]⟩ =>
    if t.kind = .question ∧ t'.kind = .colon then
      some (.ternary condition thenBranch elseBranch)
    else none
  | _ => none

/-- The shape of a token that is an expression by itself. -/
def atom? (t : Token) : Option Shape :=
  match t.kind with
  | .number => some (.literal t.literal)
  | .kwNil => some (.literal .nil)
  | .kwTrue => some (.literal (.bool true))
  | .kwFalse => some (.literal (.bool false))
  | _ => none

/-- Where a reader stands: behind a whole expression, or within forms, the innermost one first. -/
inductive State where
  | done (s : Shape)
  | within (forms : List Form)

/-- Behind an expression: it is an operand of the innermost form, if there is one. -/
def settle : List Form → Shape → State
  | [], s => .done s
  | ⟨head, operands⟩ :: outer, s => .within (⟨head, operands ++ [s]⟩ :: outer)

/-- What a token does within the open forms.  Tokens at the head of a form come before its
operands. -/
def step? (forms : List Form) (t : Token) : Option State :=
  match t.kind, forms, atom? t with
  | .leftParen, forms, _ => some (.within ({} :: forms))
  | .rightParen, form :: outer, _ => form.close?.map (settle outer)
  | _, forms, some s => some (settle forms s)
  | _, ⟨head, []⟩ :: outer, none => some (.within (⟨head ++ [t], []⟩ :: outer))
  | _, _, none => none

/-- Reads on to the end of the expression, and gives its shape and the tokens behind it. -/
def State.read : State → List Token → Option (Shape × List Token)
  | done s, rest => some (s, rest)
  | within _, [] => none
  | within forms, t :: rest => (step? forms t).bind fun state => state.read rest

/-- Reads an expression in prefix notation from the front of the tokens. -/
def read (ts : List Token) : Option (Shape × List Token) := (State.within []).read ts

/-- The two signs are told apart. -/
example : read (scan "(- 1 (- 2))").tokens = some (.binary (.literal (.number .one)) .minus
    (.unary .minus (.literal (.number (.ofDecimal ['2'] [])))), [Token.endAt 1]) := by
  decide +kernel

/-! ## Reading one form -/

variable {forms outer : List Form} {t : Token} {ts rest head : List Token} {s : Shape}
  {shapes : List Shape}

theorem State.read_done (s : Shape) (rest : List Token) :
    (State.done s).read rest = some (s, rest) := by
  rw [State.read]

theorem State.read_cons {state : State} (h : step? forms t = some state) (rest : List Token) :
    (State.within forms).read (t :: rest) = state.read rest := by
  rw [State.read, h, Option.bind_some]

/-- The tokens spell an expression of this shape, in whatever forms they stand. -/
def Reads (ts : List Token) (s : Shape) : Prop :=
  ∀ forms rest, (State.within forms).read (ts ++ rest) = (settle forms s).read rest

theorem Reads.read_append (h : Reads ts s) (rest : List Token) :
    read (ts ++ rest) = some (s, rest) := by
  rw [read, h [] rest, settle, State.read_done]

/-- A token that is an expression by itself is read. -/
theorem reads_atom (h : atom? t = some s) : Reads [t] s := by
  intro forms rest
  refine State.read_cons ?_ rest
  have hopen : t.kind ≠ .leftParen := by
    intro hk
    simp [atom?, hk] at h
  have hclose : t.kind ≠ .rightParen := by
    intro hk
    simp [atom?, hk] at h
  simp only [step?, h]
  split
  case h_1 hk => exact absurd hk hopen
  case h_2 hk => exact absurd hk hclose
  case h_3 hsame _ _ =>
    cases hsame
    rfl
  case h_4 hsame _ _ => cases hsame
  case h_5 hsame _ _ => cases hsame

/-- The token may stand at the head of a form. -/
def IsHead (t : Token) : Prop :=
  t.kind ≠ .leftParen ∧ t.kind ≠ .rightParen ∧ atom? t = none

instance (t : Token) : Decidable (IsHead t) :=
  inferInstanceAs (Decidable (t.kind ≠ .leftParen ∧ t.kind ≠ .rightParen ∧ atom? t = none))

/-- The head of a form is read before its operands. -/
theorem read_head {ts : List Token} (h : ∀ t ∈ ts, IsHead t) (head rest : List Token) :
    (State.within (⟨head, []⟩ :: outer)).read (ts ++ rest) =
      (State.within (⟨head ++ ts, []⟩ :: outer)).read rest := by
  induction ts generalizing head with
  | nil => rw [List.nil_append, List.append_nil]
  | cons t ts ih =>
    obtain ⟨hopen, hclose, hatom⟩ := h t List.mem_cons_self
    have hstep : step? (⟨head, []⟩ :: outer) t = some (.within (⟨head ++ [t], []⟩ :: outer)) := by
      simp [step?, hatom]
    rw [List.cons_append, State.read_cons hstep, ih fun t' ht' => h t' (List.mem_cons_of_mem t ht'),
      List.append_assoc, List.singleton_append]

/-- The operands of a form are read one after the other. -/
theorem read_operands {operands : List (List Token)} (h : List.Forall₂ Reads operands shapes)
    (before : List Shape) (rest : List Token) :
    (State.within (⟨head, before⟩ :: outer)).read (operands.flatten ++ rest) =
      (State.within (⟨head, before ++ shapes⟩ :: outer)).read rest := by
  induction h generalizing before with
  | nil => rw [List.flatten_nil, List.nil_append, List.append_nil]
  | @cons ts s operands shapes hts _ ih =>
    rw [List.flatten_cons, List.append_assoc, hts, settle, ih, List.append_assoc,
      List.singleton_append]

/-- **A form is read** if its head and operands are, and fit. -/
theorem reads_form {opening closing : Token} {operands : List (List Token)}
    (hopening : opening.kind = .leftParen) (hclosing : closing.kind = .rightParen)
    (hhead : ∀ t ∈ head, IsHead t) (hoperands : List.Forall₂ Reads operands shapes)
    (hfits : Form.close? ⟨head, shapes⟩ = some s) :
    Reads (opening :: (head ++ (operands.flatten ++ [closing]))) s := by
  intro forms rest
  have hopen : step? forms opening = some (.within ({} :: forms)) := by
    simp [step?, hopening]
  have hclose : step? (⟨head, shapes⟩ :: forms) closing = some (settle forms s) := by
    simp [step?, hclosing, hfits]
  rw [List.cons_append, State.read_cons hopen, List.append_assoc, read_head hhead,
    List.append_assoc, read_operands hoperands, List.nil_append, List.nil_append,
    List.singleton_append, State.read_cons hclose]

/-! ## Text that falls into segments -/

open Segment

/-- The text goes on in a way that ends whatever stands before it. -/
def Ends (rest : List Char) : Prop := ∀ c, rest.head? = some c → c = ' ' ∨ c = ')'

/-- The segments are munched in front of any text that ends them. -/
def Fits (segs : List Segment) : Prop :=
  ∀ (rest : List Char) (more : List Segment), Ends rest → Segmented rest more →
    Segmented (segs.flatMap text ++ rest) (segs ++ more)

/-- What ends a text starts with no other character. -/
theorem Ends.head?_ne {rest : List Char} {c : Char} (h : Ends rest) (hblank : c ≠ ' ')
    (hclosing : c ≠ ')') : rest.head? ≠ some c := by
  intro hhead
  rcases h c hhead with rfl | rfl
  · exact hblank rfl
  · exact hclosing rfl

/-- One segment fits if it is munched. -/
theorem fits_singleton {s : Segment} (h : ∀ rest, Ends rest → Munch s rest) : Fits [s] := by
  intro rest more hrest hmore
  rw [List.flatMap_singleton]
  exact Segmented.cons (h rest hrest) hmore

/-- A word ends before a blank or a parenthesis. -/
theorem fits_word {c : Char} {run : List Char} (hc : isWordStart c = true)
    (hrun : ∀ d ∈ run, isWordPart d = true) : Fits [word (c :: run)] := by
  refine fits_singleton fun rest hrest => Munch.word hc hrun ?_
  intro d hd
  rcases hrest d hd with rfl | rfl <;> rfl

/-- A numeral ends before a blank or a parenthesis as well. -/
theorem fits_number {whole fraction : List Char} (h : Munch (number whole fraction) []) :
    Fits [number whole fraction] := by
  refine fits_singleton fun rest hrest => ?_
  cases h with
  | number hne hw hf =>
    refine munch_number_append hne hw hf fun d hd => ?_
    rcases hrest d hd with rfl | rfl <;> decide

theorem fits_punctuation (c : Char) (kind : Token.Kind) (hc : (c, kind) ∈ Token.singles) :
    Fits [symbol kind [c]] := fits_singleton fun _ _ => Munch.single hc

/-- An operator that an equals sign may follow fits with it and without it. -/
theorem fits_pair (c : Char) (alone withEquals : Token.Kind)
    (hc : (c, alone, withEquals) ∈ Token.equalsPairs) :
    Fits [symbol alone [c]] ∧ Fits [symbol withEquals [c, '=']] := by
  refine ⟨fits_singleton fun rest hrest => Munch.alone hc ?_,
    fits_singleton fun rest _ => Munch.withEquals hc⟩
  exact hrest.head?_ne (by decide) (by decide)

/-- The division sign fits, since it opens no comment. -/
theorem fits_slash : Fits [symbol .slash ['/']] := by
  refine fits_singleton fun rest hrest => Munch.slash ?_ ?_
  · exact hrest.head?_ne (by decide) (by decide)
  · exact hrest.head?_ne (by decide) (by decide)

/-- Operators fit. -/
theorem fits_operator : ∀ entry ∈ unaryOperators ++ binaryOperators,
    Fits [symbol entry.1 entry.2.toList] := by
  have hbang := fits_pair '!' .bang .bangEqual (by decide)
  have hequal := fits_pair '=' .equal .equalEqual (by decide)
  have hgreater := fits_pair '>' .greater .greaterEqual (by decide)
  have hless := fits_pair '<' .less .lessEqual (by decide)
  have hminus := fits_punctuation '-' .minus (by decide)
  have hplus := fits_punctuation '+' .plus (by decide)
  have hstar := fits_punctuation '*' .star (by decide)
  simp only [unaryOperators, binaryOperators, List.cons_append, List.nil_append,
    List.forall_mem_cons]
  exact ⟨hbang.1, hminus, hbang.2, hequal.2, hgreater.1, hgreater.2, hless.1, hless.2, hminus,
    hplus, fits_slash, hstar, by simp⟩

/-! ## Segments that spell a shape -/

/-- Nothing is wrong with the segment, and it stays on its line. -/
def Plain (s : Segment) : Prop := s.fault? = none ∧ s.lineFeeds = 0

instance (s : Segment) : Decidable (Plain s) :=
  inferInstanceAs (Decidable (s.fault? = none ∧ s.lineFeeds = 0))

/-- The tokens of segments on line one. -/
def tokens (segs : List Segment) : List Token := segs.filterMap (·.token? 1)

/-- The segments may stand at the head of a form. -/
structure Heading (head : List Segment) : Prop where
  fits : Fits head
  plain : ∀ s ∈ head, Plain s
  heads : ∀ t ∈ tokens head, IsHead t

/-- The segments spell an expression of this shape. -/
structure Spelling (segs : List Segment) (s : Shape) : Prop where
  fits : Fits segs
  plain : ∀ s ∈ segs, Plain s
  reads : Reads (tokens segs) s

/-- The segments of a form. -/
def form (head : List Segment) (operands : List (List Segment)) : List Segment :=
  symbol .leftParen ['('] :: (head ++ (operands.flatMap (blank ' ' :: ·) ++
    [symbol .rightParen [')']]))

variable {heading : List Segment} {operands : List (List Segment)}

/-- Operands with blanks before them are segmented, and the first blank ends what is before it. -/
theorem segmented_operands (h : ∀ segs ∈ operands, Fits segs) {rest : List Char}
    {more : List Segment} (hrest : Ends rest) (hmore : Segmented rest more) :
    Ends ((operands.flatMap (blank ' ' :: ·)).flatMap text ++ rest) ∧
      Segmented ((operands.flatMap (blank ' ' :: ·)).flatMap text ++ rest)
        (operands.flatMap (blank ' ' :: ·) ++ more) := by
  -- the operands behind the first one start with a blank or are none, and so they end it
  induction operands with
  | nil => exact ⟨hrest, hmore⟩
  | cons segs operands ih =>
    obtain ⟨hends, hsegmented⟩ := ih fun segs' hsegs' => h segs' (List.mem_cons_of_mem segs hsegs')
    have hfits := h segs List.mem_cons_self _ _ hends hsegmented
    simp only [List.flatMap_cons, List.flatMap_append, List.cons_append, List.append_assoc]
    refine ⟨?_, Segmented.cons (Munch.blank (Or.inl rfl)) hfits⟩
    rintro c ⟨⟩
    exact Or.inl rfl

/-- A form fits if its head and its operands fit. -/
theorem fits_form (hhead : Fits heading) (hoperands : ∀ segs ∈ operands, Fits segs) :
    Fits (form heading operands) := by
  intro rest more hrest hmore
  have hclosing : Segmented (')' :: rest) (symbol .rightParen [')'] :: more) :=
    Segmented.cons (Munch.single (by decide)) hmore
  have hends : Ends (')' :: rest) := by
    rintro c ⟨⟩
    exact Or.inr rfl
  obtain ⟨hends', hsegmented⟩ := segmented_operands hoperands hends hclosing
  have hopening : ∀ rest, Munch (symbol .leftParen ['(']) rest :=
    fun rest => Munch.single (by decide)
  have hform := Segmented.cons (hopening _) (hhead _ _ hends' hsegmented)
  simpa [form, Segment.text] using hform

/-- The tokens of a form. -/
theorem tokens_form (heading : List Segment) (operands : List (List Segment)) :
    tokens (form heading operands) = ⟨.leftParen, "(", .nil, 1⟩ ::
      (tokens heading ++ ((operands.map tokens).flatten ++ [⟨.rightParen, ")", .nil, 1⟩])) := by
  have hopening : (symbol .leftParen ['(']).token? 1 = some ⟨.leftParen, "(", .nil, 1⟩ := rfl
  have hclosing : (symbol .rightParen [')']).token? 1 = some ⟨.rightParen, ")", .nil, 1⟩ := rfl
  have hblank : (blank ' ').token? 1 = none := rfl
  have hoperands : (operands.flatMap (blank ' ' :: ·)).filterMap (·.token? 1) =
      (operands.map tokens).flatten := by
    rw [List.filterMap_flatMap, List.flatMap_def]
    simp only [List.filterMap_cons, hblank]
    rfl
  simp only [tokens, form, List.filterMap_cons, List.filterMap_append, hopening, hclosing,
    hoperands, List.filterMap_nil]

/-- **A form spells a shape** if its operands do and its head fits. -/
theorem spelling_form {shapes : List Shape} {s : Shape} (hhead : Heading heading)
    (hoperands : List.Forall₂ Spelling operands shapes)
    (hclose : Form.close? ⟨tokens heading, shapes⟩ = some s) :
    Spelling (form heading operands) s := by
  have hparts : ∀ segs ∈ operands, Fits segs ∧ ∀ s ∈ segs, Plain s := by
    have hboth := hoperands.imp fun segs s hs => And.intro (And.intro hs.fits hs.plain) hs
    exact ((List.forall₂_and_left operands shapes).1 hboth).1
  constructor
  · exact fits_form hhead.fits fun segs hsegs => (hparts segs hsegs).1
  · have hbrackets : Plain (symbol .leftParen ['(']) ∧ Plain (symbol .rightParen [')']) ∧
        Plain (blank ' ') := by decide
    simp only [form, List.forall_mem_cons, List.forall_mem_append]
    refine ⟨hbrackets.1, hhead.plain, ?_, hbrackets.2.1, by simp⟩
    intro s hs
    obtain ⟨segs, hsegs, hs⟩ := List.mem_flatMap.1 hs
    rcases List.mem_cons.1 hs with rfl | hs
    · exact hbrackets.2.2
    · exact (hparts segs hsegs).2 s hs
  · rw [tokens_form]
    refine reads_form rfl rfl hhead.heads ?_ hclose
    rw [List.forall₂_map_left_iff]
    exact hoperands.imp fun segs s hs => hs.reads

/-! ## Heads and atoms -/

theorem tokens_operator (kind : Token.Kind) (lexeme : String) :
    tokens [symbol kind lexeme.toList] = [⟨kind, lexeme, .nil, 1⟩] := by
  simp [tokens, token?, kind?, text, literal]

/-- An operator may stand at the head of a form. -/
theorem heading_operator : ∀ entry ∈ unaryOperators ++ binaryOperators,
    Heading [symbol entry.1 entry.2.toList] := by
  have hall : ∀ entry ∈ unaryOperators ++ binaryOperators,
      Plain (symbol entry.1 entry.2.toList) ∧
        ∀ t ∈ tokens [symbol entry.1 entry.2.toList], IsHead t := by decide +kernel
  intro entry hentry
  refine ⟨fits_operator entry hentry, ?_, (hall entry hentry).2⟩
  simp only [List.forall_mem_singleton]
  exact (hall entry hentry).1

theorem heading_group : Heading [word ['g', 'r', 'o', 'u', 'p']] := by
  refine ⟨fits_word rfl (List.all_eq_true.1 rfl), ?_, ?_⟩
  · decide
  · decide +kernel

/-- The two marks of a conditional may. -/
theorem heading_conditional : Heading [symbol .question ['?'], symbol .colon [':']] := by
  refine ⟨?_, ?_, ?_⟩
  · intro rest more _ hmore
    have hquestion : ∀ rest, Munch (symbol .question ['?']) rest :=
      fun rest => Munch.single (by decide)
    have hcolon : ∀ rest, Munch (symbol .colon [':']) rest := fun rest => Munch.single (by decide)
    exact Segmented.cons (hquestion _) (Segmented.cons (hcolon rest) hmore)
  · decide
  · decide +kernel

/-- A reserved word spells its value. -/
theorem spelling_word {c : Char} {run : List Char} {t : Token} {s : Shape}
    (hc : isWordStart c = true) (hrun : ∀ d ∈ run, isWordPart d = true)
    (hplain : Plain (word (c :: run))) (htoken : tokens [word (c :: run)] = [t])
    (hatom : atom? t = some s) : Spelling [word (c :: run)] s := by
  refine ⟨fits_word hc hrun, ?_, ?_⟩
  · rwa [List.forall_mem_singleton]
  · rw [htoken]
    exact reads_atom hatom

theorem spelling_nil : Spelling [word ['n', 'i', 'l']] (.literal .nil) :=
  spelling_word rfl (List.all_eq_true.1 rfl) (by decide) rfl rfl

/-- The words for truth values spell them. -/
theorem spelling_bool (b : Bool) :
    Spelling [word (if b then ['t', 'r', 'u', 'e'] else ['f', 'a', 'l', 's', 'e'])]
      (.literal (.bool b)) := by
  cases b with
  | false => exact spelling_word rfl (List.all_eq_true.1 rfl) (by decide) rfl rfl
  | true => exact spelling_word rfl (List.all_eq_true.1 rfl) (by decide) rfl rfl

/-- A numeral spells its number, if that is finite. -/
theorem spelling_number {whole fraction : List Char} (h : Munch (number whole fraction) [])
    (hfinite : (Binary64.ofDecimal whole fraction).isInfinite = false) :
    Spelling [number whole fraction] (.literal (.number (.ofDecimal whole fraction))) := by
  refine ⟨fits_number h, ?_, reads_atom rfl⟩
  rw [List.forall_mem_singleton]
  refine ⟨?_, lineFeeds_of_isSolid h trivial⟩
  rw [fault?, hfinite, if_neg (by decide)]

/-! ## Scanning what is spelled -/

/-- Segments without line feeds all start on the same line. -/
theorem withLines_of_plain {segs : List Segment} (h : ∀ s ∈ segs, Plain s) (line : Nat) :
    withLines line segs = segs.map fun s => (line, s) := by
  induction segs with
  | nil => rfl
  | cons s segs ih =>
    rw [withLines, (h s List.mem_cons_self).2, Nat.add_zero,
      ih fun s' hs' => h s' (List.mem_cons_of_mem s hs'), List.map_cons]

/-- Their text ends on its first line. -/
theorem lastLine_of_plain {segs : List Segment} (h : ∀ s ∈ segs, Plain s) :
    lastLine (segs.flatMap Segment.text) = 1 := by
  have hcount : (segs.flatMap Segment.text).count '\n' = 0 := by
    rw [List.count_eq_zero]
    intro hmem
    obtain ⟨s, hs, hchar⟩ := List.mem_flatMap.1 hmem
    exact List.count_eq_zero.1 (h s hs).2 hchar
  rw [lastLine, hcount]

/-- **A spelled expression is scanned without errors**, and its tokens are read back. -/
theorem Spelling.scan {segs : List Segment} {s : Shape} (h : Spelling segs s) :
    (scan (String.ofList (segs.flatMap Segment.text))).errors = [] ∧
      read (scan (String.ofList (segs.flatMap Segment.text))).tokens =
        some (s, [Token.endAt 1]) := by
  have hsegmented := h.fits [] [] (by simp [Ends]) Segmented.nil
  rw [List.append_nil, List.append_nil] at hsegmented
  have herrors : segs.filterMap (·.error? 1) = [] := by
    rw [List.filterMap_eq_nil_iff]
    intro s hs
    rw [error?, (h.plain s hs).1, Option.map_none]
  have hscan : LoxSyntax.scan (String.ofList (segs.flatMap Segment.text)) =
      ⟨tokens segs ++ [Token.endAt 1], []⟩ := by
    rw [LoxSyntax.scan, String.toList_ofList, Scan.ofChars, ← hsegmented.eq_segments,
      withLines_of_plain h.plain, lastLine_of_plain h.plain, List.filterMap_map,
      List.filterMap_map]
    exact congrArg (Scan.mk _) herrors
  rw [hscan]
  exact ⟨rfl, h.reads.read_append _⟩

end PrefixNotation

/-! ## Expressions that are read back -/

open PrefixNotation

namespace Expr

/-- The operators are spelled as in source text, and the literals are read back. -/
def IsPrintable : Expr → Prop
  | binary left operator right =>
    (operator.kind, operator.lexeme) ∈ binaryOperators ∧ left.IsPrintable ∧ right.IsPrintable
  | grouping inner => inner.IsPrintable
  | literal value => value.ReadsBack
  | unary operator right => (operator.kind, operator.lexeme) ∈ unaryOperators ∧ right.IsPrintable
  | ternary condition thenBranch elseBranch =>
    condition.IsPrintable ∧ thenBranch.IsPrintable ∧ elseBranch.IsPrintable

/-- A literal that is read back is spelled by one segment. -/
theorem exists_spelling_literal {value : Value} (h : value.ReadsBack) :
    ∃ segs, value.spelling = .ok (String.ofList (segs.flatMap Segment.text)) ∧
      Spelling segs (.literal value.representative) := by
  cases value with
  | nil => exact ⟨_, rfl, spelling_nil⟩
  | bool b => exact ⟨_, by cases b <;> rfl, spelling_bool b⟩
  | number x =>
    obtain ⟨whole, fraction, hmunch, hspelling, hfinite, hsame⟩ := Value.exists_numeral h
    refine ⟨[.number whole fraction], ?_, ?_⟩
    · rw [hspelling, List.flatMap_singleton]
    · rw [Value.representative, ← hsame]
      exact spelling_number hmunch hfinite
  | text _ | foreign _ => exact h.elim

/-- **The prefix form spells the shape.** -/
theorem exists_spelling (e : Expr) (h : e.IsPrintable) :
    ∃ segs, e.prefixForm = .ok (String.ofList (segs.flatMap Segment.text)) ∧
      Spelling segs e.shape := by
  induction e with
  | binary left operator right ihLeft ihRight =>
    obtain ⟨hoperator, hleft, hright⟩ := h
    obtain ⟨segs, hform, hspelling⟩ := ihLeft hleft
    obtain ⟨segs', hform', hspelling'⟩ := ihRight hright
    refine ⟨form [.symbol operator.kind operator.lexeme.toList] [segs, segs'], ?_, ?_⟩
    · rw [prefixForm, hform, hform']
      refine congrArg Except.ok (String.toList_inj.1 ?_)
      simp [form, Segment.text]
    · refine spelling_form (heading_operator _ (List.mem_append_right _ hoperator))
        (.cons hspelling (.cons hspelling' .nil)) ?_
      rw [tokens_operator, Form.close?, if_pos hoperator, shape]
  | grouping inner ih =>
    obtain ⟨segs, hform, hspelling⟩ := ih h
    refine ⟨form [.word ['g', 'r', 'o', 'u', 'p']] [segs], ?_, ?_⟩
    · rw [prefixForm, hform]
      refine congrArg Except.ok (String.toList_inj.1 ?_)
      simp [form, Segment.text]
    · exact spelling_form heading_group (.cons hspelling .nil) rfl
  | literal value => exact exists_spelling_literal h
  | unary operator right ih =>
    obtain ⟨hoperator, hright⟩ := h
    obtain ⟨segs, hform, hspelling⟩ := ih hright
    refine ⟨form [.symbol operator.kind operator.lexeme.toList] [segs], ?_, ?_⟩
    · rw [prefixForm, hform]
      refine congrArg Except.ok (String.toList_inj.1 ?_)
      simp [form, Segment.text]
    · refine spelling_form (heading_operator _ (List.mem_append_left _ hoperator))
        (.cons hspelling .nil) ?_
      rw [tokens_operator, Form.close?, if_pos hoperator, shape]
  | ternary condition thenBranch elseBranch ihCondition ihThen ihElse =>
    obtain ⟨hcondition, hthen, helse⟩ := h
    obtain ⟨segs, hform, hspelling⟩ := ihCondition hcondition
    obtain ⟨segs', hform', hspelling'⟩ := ihThen hthen
    obtain ⟨segs'', hform'', hspelling''⟩ := ihElse helse
    refine ⟨form [.symbol .question ['?'], .symbol .colon [':']] [segs, segs', segs''], ?_, ?_⟩
    · rw [prefixForm, hform, hform', hform'']
      refine congrArg Except.ok (String.toList_inj.1 ?_)
      simp [form, Segment.text]
    · exact spelling_form heading_conditional
        (.cons hspelling (.cons hspelling' (.cons hspelling'' .nil))) rfl

/-- **The prefix form is read back.**  It scans without errors to tokens that spell exactly the
shape of the expression, with the end of the input behind them.  Hence expressions with the same
prefix form have the same shape. -/
theorem read_scan_prefixForm (e : Expr) (h : e.IsPrintable) :
    ∃ text, e.prefixForm = .ok text ∧ (scan text).errors = [] ∧
      read (scan text).tokens = some (e.shape, [Token.endAt 1]) ∧
      ∀ e' : Expr, e'.IsPrintable → e'.prefixForm = .ok text → e'.shape = e.shape := by
  obtain ⟨segs, hform, hspelling⟩ := exists_spelling e h
  obtain ⟨herrors, hread⟩ := hspelling.scan
  refine ⟨_, hform, herrors, hread, ?_⟩
  intro e' h' hform'
  obtain ⟨segs', hform'', hspelling'⟩ := exists_spelling e' h'
  -- both shapes are what is read from one text
  have hread' := hspelling'.scan.2
  rw [Except.ok.inj (hform''.symm.trans hform'), hread] at hread'
  exact (congrArg Prod.fst (Option.some.inj hread')).symm

/-- Both kinds of minus sign are read back, and so are the zeros of both signs, which are spelled
alike. -/
theorem read_scan_prefixForm_signs :
    let minus : Token := ⟨.minus, "-", .nil, 3⟩
    let tree (zero : Binary64) : Expr := binary (unary minus (literal (.number zero))) minus
      (ternary (literal (.bool true)) (grouping (literal (.number .one))) (literal .nil))
    let text := "(- (- 0) (?: true (group 1) nil))"
    let positive := tree .zero
    let negative := tree { negative := true, payload := 0 }
    positive.prefixForm = .ok text ∧ negative.prefixForm = .ok text ∧ (scan text).errors = [] ∧
      read (scan text).tokens = some (positive.shape, [Token.endAt 1]) ∧
      negative.shape = positive.shape := by
  intro minus tree text positive negative
  have hone : (Value.number .one).ReadsBack :=
    ⟨"1", ⟨.number, "1", .number .one, 1⟩, Token.endAt 1, .one, rfl, by decide +kernel, rfl, rfl,
      by decide⟩
  have htree (zero : Binary64) (hspelling : (Value.number zero).spelling = .ok "0")
      (hagrees : Binary64.zero.agrees zero = true) : (tree zero).IsPrintable := by
    have hzero : (Value.number zero).ReadsBack :=
      ⟨"0", ⟨.number, "0", .number .zero, 1⟩, Token.endAt 1, .zero, hspelling, by decide +kernel,
        rfl, rfl, hagrees⟩
    exact ⟨by decide, ⟨by decide, hzero⟩, trivial, hone, trivial⟩
  have hpositive : positive.prefixForm = .ok text := rfl
  have hnegative : negative.prefixForm = .ok text := rfl
  obtain ⟨text', hform, herrors, hread, hsame⟩ :=
    read_scan_prefixForm positive (htree .zero rfl (by decide))
  obtain rfl := Except.ok.inj (hpositive.symm.trans hform)
  exact ⟨hpositive, hnegative, herrors, hread, hsame negative (htree _ rfl (by decide)) hnegative⟩

end Expr

end LoxSyntax
