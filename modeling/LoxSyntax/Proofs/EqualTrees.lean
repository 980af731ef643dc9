/-
# Trees that agree

Trees agree if they have the same shape and their operators and literals agree.  A truth value
agrees with the number that it counts as, but the two are spelled with different words.  So the
forms tell trees of source text apart that agree: they are written alike up to the first place where
a truth value stands in one tree and a number in the other, and there they part.  Without such a
place the trees are the same.
-/
import Mathlib.Data.List.TFAE
import Mathlib.Tactic.TFAE
import LoxSyntax.Proofs.SourceLiterals

namespace LoxSyntax

open Parsing Grammar

/-! ## Values that agree -/

section Values

variable {source source' : String} {v w : Value} {x y : Binary64} {b : Bool}

/-- Numbers without a sign that agree are the same. -/
theorem Binary64.eq_of_agrees (hx : x.negative = false) (hy : y.negative = false)
    (h : x.agrees y = true) : x = y := by
  simp only [agrees, Bool.and_eq_true, Bool.or_eq_true, beq_iff_eq] at h
  rcases h.2 with hsame | ⟨hzero, hzero'⟩
  · exact hsame
  · cases x
    cases y
    congr
    · exact hx.trans hy.symm
    · exact hzero.trans hzero'.symm

namespace Value

/-- The value is one of the two truth values. -/
def isBool : Value → Bool
  | bool _ => true
  | _ => false

/-- The truth value counts as the number. -/
def CountsAs (b : Bool) (x : Binary64) : Prop := (bool b).number? = some x

/-- What counts as a number is that number or a truth value. -/
theorem cases_of_number? (h : v.number? = some x) :
    v = .number x ∨ ∃ b, v = .bool b ∧ CountsAs b x := by
  cases v with
  | bool b => exact Or.inr ⟨b, rfl, h⟩
  | number y =>
    cases h
    exact Or.inl rfl
  | nil | text | foreign => cases h

/-- Truth values that count as the same number are the same. -/
theorem CountsAs.eq {c : Bool} (h : CountsAs b x) (h' : CountsAs c x) : b = c := by
  have hdiffer : Binary64.one ≠ .zero := by decide +kernel
  cases b <;> cases c <;> cases h <;> cases h'
  all_goals rfl

/-- A value of source text counts as a number without a sign. -/
theorem InSource.negative_eq_false (hv : v.InSource source) (h : v.number? = some x) :
    x.negative = false := by
  rcases cases_of_number? h with rfl | ⟨b, -, hb⟩
  · exact hv.2.1
  · cases b <;> cases hb <;> rfl

/-- **Values of source text that agree** are the same, or one of them is a truth value and the other
one is the number that it counts as. -/
theorem InSource.cases_of_agrees (hv : v.InSource source) (hw : w.InSource source')
    (h : v.agrees w = true) : v = w ∨ ∃ b x, CountsAs b x ∧
      (v = .bool b ∧ w = .number x ∨ v = .number x ∧ w = .bool b) := by
  unfold agrees at h
  split at h
  · rename_i x y hx hy
    obtain rfl : x = y :=
      Binary64.eq_of_agrees (hv.negative_eq_false hx) (hw.negative_eq_false hy) h
    rcases cases_of_number? hx with rfl | ⟨b, rfl, hb⟩ <;>
      rcases cases_of_number? hy with rfl | ⟨c, rfl, hc⟩
    · exact Or.inl rfl
    · exact Or.inr ⟨c, x, hc, Or.inr ⟨rfl, rfl⟩⟩
    · exact Or.inr ⟨b, x, hb, Or.inl ⟨rfl, rfl⟩⟩
    · exact Or.inl (congrArg bool (hb.eq hc))
  · exact Or.inl (beq_iff_eq.1 h)
  · cases h

/-- **A truth value and its number are spelled apart**, from the first character on. -/
theorem CountsAs.exists_spellings (h : CountsAs b x) : ∃ c run d run',
    (bool b).spelling = .ok (String.ofList (c :: run)) ∧
      (number x).spelling = .ok (String.ofList (d :: run')) ∧ c ≠ d := by
  cases b with
  | false =>
    cases h
    exact ⟨'f', ['a', 'l', 's', 'e'], '0', [], by decide +kernel, by decide +kernel, by decide⟩
  | true =>
    cases h
    exact ⟨'t', ['r', 'u', 'e'], '1', [], by decide +kernel, by decide +kernel, by decide⟩

end Value

end Values

/-! ## Texts that tell -/

section Tells

variable {P Q : Prop} {text text' other other' : String}

/-- The texts tell what holds: if the two, each with something behind it, are the same text, then it
holds, and what stands behind them is the same. -/
def Tells (P : Prop) (text text' : String) : Prop :=
  ∀ rest rest', text.toList ++ rest = text'.toList ++ rest' → P ∧ rest = rest'

namespace Tells

/-- Two texts behind each other tell what both tell. -/
theorem append (h : Tells P text text') (h' : Tells Q other other') :
    Tells (P ∧ Q) (text ++ other) (text' ++ other') := by
  intro rest rest' hsame
  simp only [String.toList_append, List.append_assoc] at hsame
  obtain ⟨hfirst, hsame⟩ := h _ _ hsame
  obtain ⟨hsecond, hsame⟩ := h' _ _ hsame
  exact ⟨⟨hfirst, hsecond⟩, hsame⟩

theorem before (front : String) (h : Tells P text text') :
    Tells P (front ++ text) (front ++ text') := by
  intro rest rest' hsame
  simp only [String.toList_append, List.append_assoc] at hsame
  exact h _ _ (List.append_cancel_left hsame)

theorem behind (h : Tells P text text') (back : String) :
    Tells P (text ++ back) (text' ++ back) := by
  intro rest rest' hsame
  simp only [String.toList_append, List.append_assoc] at hsame
  obtain ⟨hP, hsame⟩ := h _ _ hsame
  exact ⟨hP, List.append_cancel_left hsame⟩

theorem imp (h : Tells P text text') (hPQ : P → Q) : Tells Q text text' :=
  fun rest rest' hsame => (h rest rest' hsame).imp_left hPQ

theorem of_ne {c d : Char} {run run' : List Char} (h : c ≠ d) :
    Tells P (String.ofList (c :: run)) (String.ofList (d :: run')) := by
  intro rest rest' hsame
  simp only [String.toList_ofList] at hsame
  exact absurd (List.cons.inj hsame).1 h

end Tells

variable {x x' : Except Value.Unrenderable String}
  {f f' : String → Except Value.Unrenderable String}

/-- The two computations end well, and their texts tell what holds. -/
def Told (P : Prop) (x x' : Except Value.Unrenderable String) : Prop :=
  ∃ text text', x = .ok text ∧ x' = .ok text' ∧ Tells P text text'

theorem Tells.told (h : Tells P text text') : Told P (.ok text) (.ok text') := ⟨_, _, rfl, rfl, h⟩

/-- What is told of computations may be used behind them. -/
theorem Told.bind (h : Told P x x')
    (hnext : ∀ text text', Tells P text text' → Told Q (f text) (f' text')) :
    Told Q (x >>= f) (x' >>= f') := by
  obtain ⟨text, text', rfl, rfl, htells⟩ := h
  exact hnext text text' htells

/-- The texts are the same only if what they tell holds. -/
theorem Told.of_eq (h : Told P x x') (hsame : x = x') : P := by
  obtain ⟨text, text', rfl, rfl, htells⟩ := h
  exact (htells [] [] (by rw [Except.ok.inj hsame])).1

end Tells

/-! ## Forms of trees that agree -/

namespace Expr

variable {source source' : String} {a b : Expr}

/-- Spellings tell literals of source text that agree. -/
theorem told_spelling {v w : Value} (hv : v.InSource source) (hw : w.InSource source')
    (h : v.agrees w = true) : Told (literal v = literal w) v.spelling w.spelling := by
  rcases hv.cases_of_agrees hw h with rfl | ⟨b, x, hb, hpair⟩
  · obtain ⟨text, htext⟩ := exists_ok_of_failure? <|
      v.failure?_spelling.trans hv.unrenderable?_eq_none
    exact ⟨text, text, htext, htext, fun rest rest' hsame => ⟨rfl, List.append_cancel_left hsame⟩⟩
  · obtain ⟨c, run, d, run', hbool, hnumber, hne⟩ := hb.exists_spellings
    rcases hpair with ⟨rfl, rfl⟩ | ⟨rfl, rfl⟩
    · exact ⟨_, _, hbool, hnumber, Tells.of_ne hne⟩
    · exact ⟨_, _, hnumber, hbool, Tells.of_ne hne.symm⟩

/-- Operators of source text that agree are the same. -/
theorem operator_eq_of_agrees {s t : Token} (hs : s ∈ (scan source).tokens)
    (ht : t ∈ (scan source').tokens) (hkind : s.kind ≠ .number ∧ s.kind ≠ .string)
    (h : s.agrees t = true) : s = t := by
  simp only [Token.agrees, Bool.and_eq_true, beq_iff_eq] at h
  obtain ⟨⟨⟨hkinds, hlexeme⟩, -⟩, hline⟩ := h
  have hnil := literal_eq_nil_of_mem_tokens hs hkind.1 hkind.2
  rw [hkinds] at hkind
  have hnil' := literal_eq_nil_of_mem_tokens ht hkind.1 hkind.2
  cases s
  cases t
  congr
  exact hnil.trans hnil'.symm

/-- **Both forms tell trees of source text that agree.** -/
theorem told_forms (ha : a.TakenFrom (scan source).tokens)
    (hb : b.TakenFrom (scan source').tokens) (h : a.agrees b = true) :
    Told (a = b) a.prefixForm b.prefixForm ∧ Told (a = b) a.postfixForm b.postfixForm := by
  fun_induction agrees a b with
  | case1 left s right left' t right' ihLeft ihRight =>
    simp only [Bool.and_eq_true] at h
    obtain ⟨⟨hs, level, hlevel⟩, hleft, hright⟩ := ha
    obtain ⟨⟨ht, -⟩, hleft', hright'⟩ := hb
    obtain rfl := operator_eq_of_agrees hs ht (level.ne_of_mem_operators hlevel) h.1.2
    have hfirst := ihLeft hleft hleft' h.1.1
    have hsecond := ihRight hright hright' h.2
    have hnode (hsame : left = left' ∧ right = right') :
        binary left s right = binary left' s right' := by
      rw [hsame.1, hsame.2]
    constructor
    · refine hfirst.1.bind fun _ _ h => hsecond.1.bind fun _ _ h' => Tells.told ?_
      exact ((((h.before _).behind " ").append h').behind ")").imp hnode
    · refine hfirst.2.bind fun _ _ h => hsecond.2.bind fun _ _ h' => Tells.told ?_
      exact ((((h.behind " ").append h').behind " ").behind _).imp hnode
  | case2 inner inner' ih =>
    obtain ⟨hpre, hpost⟩ := ih ha hb h
    constructor
    · refine hpre.bind fun _ _ h => Tells.told ?_
      exact ((h.before "(group ").behind ")").imp (congrArg grouping)
    · obtain ⟨text, text', htext, htext', htells⟩ := hpost
      exact ⟨text, text', htext, htext', htells.imp (congrArg grouping)⟩
  | case3 v w =>
    obtain ⟨t, ht, hv⟩ := ha
    obtain ⟨t', ht', hw⟩ := hb
    have htold := told_spelling (Value.inSource_of_literal? ht hv)
      (Value.inSource_of_literal? ht' hw) h
    exact ⟨htold, htold⟩
  | case4 s right t right' ih =>
    simp only [Bool.and_eq_true] at h
    obtain rfl := operator_eq_of_agrees ha.1.1 hb.1.1 (Grammar.ne_of_unary ha.1.2) h.1
    have hoperand := ih ha.2 hb.2 h.2
    constructor
    · refine hoperand.1.bind fun _ _ h => Tells.told ?_
      exact ((h.before _).behind ")").imp (congrArg (unary s))
    · refine hoperand.2.bind fun _ _ h => Tells.told ?_
      exact ((h.behind " ").behind _).imp (congrArg (unary s))
  | case5 condition first second condition' first' second' ihCondition ihFirst ihSecond =>
    simp only [Bool.and_eq_true] at h
    have hcondition := ihCondition ha.1 hb.1 h.1.1
    have hfirst := ihFirst ha.2.1 hb.2.1 h.1.2
    have hsecond := ihSecond ha.2.2 hb.2.2 h.2
    have hnode (hsame : (condition = condition' ∧ first = first') ∧ second = second') :
        ternary condition first second = ternary condition' first' second' := by
      rw [hsame.1.1, hsame.1.2, hsame.2]
    constructor
    · refine hcondition.1.bind fun _ _ h => hfirst.1.bind fun _ _ h' =>
        hsecond.1.bind fun _ _ h'' => Tells.told ?_
      exact ((((((h.before "(?: ").behind " ").append h').behind " ").append h'').behind ")").imp
        hnode
    · refine hcondition.2.bind fun _ _ h => hfirst.2.bind fun _ _ h' =>
        hsecond.2.bind fun _ _ h'' => Tells.told ?_
      exact (((((h.behind " ").append h').behind " ").append h'').behind " ?:").imp hnode
  | case6 => cases h

/-! ## Places of truth values -/

/-- Where the truth values stand among the literals of the tree. -/
def boolPlaces (e : Expr) : List Bool := e.literals.map Value.isBool

/-- Trees that agree have the same number of literals. -/
theorem length_boolPlaces_of_agrees (h : a.agrees b = true) :
    a.boolPlaces.length = b.boolPlaces.length := by
  unfold boolPlaces
  rw [List.length_map, List.length_map]
  fun_induction agrees a b with
  | case1 left s right left' t right' ihLeft ihRight =>
    simp only [Bool.and_eq_true] at h
    simp only [literals, List.length_append, ihLeft h.1.1, ihRight h.2]
  | case2 inner inner' ih => exact ih h
  | case3 => rfl
  | case4 s right t right' ih =>
    simp only [Bool.and_eq_true] at h
    exact ih h.2
  | case5 condition first second condition' first' second' ihCondition ihFirst ihSecond =>
    simp only [Bool.and_eq_true] at h
    simp only [literals, List.length_append, ihCondition h.1.1, ihFirst h.1.2, ihSecond h.2]
  | case6 => cases h

/-- Literals of source text that agree are the same if both are truth values or none is. -/
theorem literal_eq_of_isBool {v w : Value} (hv : v.InSource source) (hw : w.InSource source')
    (h : v.agrees w = true) (hsame : v.isBool = w.isBool) : v = w := by
  rcases hv.cases_of_agrees hw h with heq | ⟨b, x, -, ⟨rfl, rfl⟩ | ⟨rfl, rfl⟩⟩
  · exact heq
  · cases hsame
  · cases hsame

/-- **Trees of source text that agree are the same** if their truth values stand at the
same places. -/
theorem eq_of_boolPlaces (ha : a.TakenFrom (scan source).tokens)
    (hb : b.TakenFrom (scan source').tokens) (h : a.agrees b = true)
    (hsame : a.boolPlaces = b.boolPlaces) : a = b := by
  fun_induction agrees a b with
  | case1 left s right left' t right' ihLeft ihRight =>
    simp only [Bool.and_eq_true] at h
    obtain ⟨⟨hs, level, hlevel⟩, hleft, hright⟩ := ha
    obtain ⟨⟨ht, -⟩, hleft', hright'⟩ := hb
    simp only [boolPlaces, literals, List.map_append] at hsame
    obtain ⟨hfirst, hsecond⟩ := List.append_inj hsame (length_boolPlaces_of_agrees h.1.1)
    rw [operator_eq_of_agrees hs ht (level.ne_of_mem_operators hlevel) h.1.2,
      ihLeft hleft hleft' h.1.1 hfirst, ihRight hright hright' h.2 hsecond]
  | case2 inner inner' ih => rw [ih ha hb h hsame]
  | case3 v w =>
    obtain ⟨t, ht, hv⟩ := ha
    obtain ⟨t', ht', hw⟩ := hb
    rw [literal_eq_of_isBool (Value.inSource_of_literal? ht hv)
      (Value.inSource_of_literal? ht' hw) h (List.cons.inj hsame).1]
  | case4 s right t right' ih =>
    simp only [Bool.and_eq_true] at h
    rw [operator_eq_of_agrees ha.1.1 hb.1.1 (Grammar.ne_of_unary ha.1.2) h.1,
      ih ha.2 hb.2 h.2 hsame]
  | case5 condition first second condition' first' second' ihCondition ihFirst ihSecond =>
    simp only [Bool.and_eq_true] at h
    simp only [boolPlaces, literals, List.map_append, List.append_assoc] at hsame
    obtain ⟨htext, hsame⟩ := List.append_inj hsame (length_boolPlaces_of_agrees h.1.1)
    obtain ⟨hfirst, hsecond⟩ := List.append_inj hsame (length_boolPlaces_of_agrees h.1.2)
    rw [ihCondition ha.1 hb.1 h.1.1 htext, ihFirst ha.2.1 hb.2.1 h.1.2 hfirst,
      ihSecond ha.2.2 hb.2.2 h.2 hsecond]
  | case6 => cases h

/-- **Trees that agree and are printed apart.**  Take two trees of source text without errors that
agree.  Both of them have both forms.  Their prefix forms are the same exactly if their postfix
forms are, and exactly if truth values stand at the same places in both; then the trees themselves
are the same. -/
theorem forms_of_agreeing_trees (source source' : String) (a b : Expr)
    (ha : parseSource source = { tree? := some a })
    (hb : parseSource source' = { tree? := some b }) (h : a.agrees b = true) :
    (∃ first second, a.prefixForm = .ok first ∧ b.prefixForm = .ok second) ∧
      (∃ first second, a.postfixForm = .ok first ∧ b.postfixForm = .ok second) ∧
      [a.prefixForm = b.prefixForm, a.postfixForm = b.postfixForm, a.boolPlaces = b.boolPlaces,
        a = b].TFAE := by
  have htaken : a.TakenFrom (scan source).tokens := takenFrom_of_parse (congrArg Parsed.tree? ha)
  have htaken' : b.TakenFrom (scan source').tokens := takenFrom_of_parse (congrArg Parsed.tree? hb)
  obtain ⟨hpre, hpost⟩ := told_forms htaken htaken' h
  refine ⟨?_, ?_, ?_⟩
  · obtain ⟨text, text', htext, htext', -⟩ := hpre
    exact ⟨text, text', htext, htext'⟩
  · obtain ⟨text, text', htext, htext', -⟩ := hpost
    exact ⟨text, text', htext, htext'⟩
  · tfae_have 1 → 4 := hpre.of_eq
    tfae_have 2 → 4 := hpost.of_eq
    tfae_have 3 → 4 := eq_of_boolPlaces htaken htaken' h
    tfae_have 4 → 1 := congrArg prefixForm
    tfae_have 4 → 2 := congrArg postfixForm
    tfae_have 4 → 3 := congrArg boolPlaces
    tfae_finish

/-- A negated zero and a negated `false` in front of branches that are written in two ways: the
trees agree, and are printed apart. -/
theorem forms_of_agreeing_trees_negated :
    let source := "!0 ? \"a\" : 2"
    let source' := "!false ? \"a\" : 2.0"
    ∃ a b, (parseSource source = { tree? := some a } ∧ parseSource source' = { tree? := some b } ∧
        a.agrees b = true) ∧
      (∃ first second, a.prefixForm = .ok first ∧ b.prefixForm = .ok second) ∧
      (∃ first second, a.postfixForm = .ok first ∧ b.postfixForm = .ok second) ∧
      [a.prefixForm = b.prefixForm, a.postfixForm = b.postfixForm, a.boolPlaces = b.boolPlaces,
        a = b].TFAE := by
  intro source source'
  have ha : parseSource source = { tree? := some (ternary
      (unary ⟨.bang, "!", .nil, 1⟩ (literal (.number .zero))) (literal (.text "a"))
      (literal (.number (.ofDecimal ['2'] [])))) } := by decide +kernel
  have hb : parseSource source' = { tree? := some (ternary
      (unary ⟨.bang, "!", .nil, 1⟩ (literal (.bool false))) (literal (.text "a"))
      (literal (.number (.ofDecimal ['2'] [])))) } := by decide +kernel
  have h : (ternary (unary ⟨.bang, "!", .nil, 1⟩ (literal (.number .zero))) (literal (.text "a"))
      (literal (.number (.ofDecimal ['2'] [])))).agrees (ternary
        (unary ⟨.bang, "!", .nil, 1⟩ (literal (.bool false))) (literal (.text "a"))
        (literal (.number (.ofDecimal ['2'] [])))) = true := by decide +kernel
  exact ⟨_, _, ⟨ha, hb, h⟩, forms_of_agreeing_trees source source' _ _ ha hb h⟩

/-- Trees of source text without errors that agree need not have the same forms. -/
theorem exists_agreeing_trees_printed_apart :
    ∃ a b, parseSource "1" = { tree? := some a } ∧ parseSource "true" = { tree? := some b } ∧
      a.agrees b = true ∧ a.prefixForm = .ok "1" ∧ b.prefixForm = .ok "true" ∧
      a.postfixForm = .ok "1" ∧ b.postfixForm = .ok "true" :=
  ⟨literal (.number .one), literal (.bool true), by decide +kernel, by decide +kernel,
    by decide +kernel, by decide +kernel, by decide +kernel, by decide +kernel, by decide +kernel⟩

end Expr

end LoxSyntax
