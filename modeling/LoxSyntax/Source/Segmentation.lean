/-
# Segmentation

The segment at the front of a text is the longest one of its class, and what it leaves is segmented
in the same way.  Nothing of the text is lost: the segments put together again are the text.
-/
import LoxSyntax.Source.Segment

namespace LoxSyntax.Segment

/-! ## Classes of characters -/

/-- A decimal digit. -/
def isDigit (c : Char) : Bool := '0' ≤ c && c ≤ '9'

/-- A character that may start a word. -/
def isWordStart (c : Char) : Bool :=
  ('a' ≤ c && c ≤ 'z') || ('A' ≤ c && c ≤ 'Z') || c == '_'

/-- A character that may go on a word. -/
def isWordPart (c : Char) : Bool := isWordStart c || isDigit c

/-- A character that only separates tokens. -/
def isSpacing (c : Char) : Bool := c == ' ' || c == '\r' || c == '\t' || c == '\n'

/-! ## The segments of one class -/

/-- The numeral that starts with a digit.  A point belongs to it only before another digit. -/
def firstNumber (digit : Char) (rest : List Char) : Segment × List Char :=
  let whole := digit :: rest.takeWhile isDigit
  match rest.dropWhile isDigit with
  | '.' :: next :: after =>
    if isDigit next then
      (number whole (next :: after.takeWhile isDigit), after.dropWhile isDigit)
    else (number whole [], '.' :: next :: after)
  | after => (number whole [], after)

/-- The string whose opening quote has been read. -/
def firstString (rest : List Char) : Segment × List Char :=
  let body := rest.takeWhile (· != '"')
  match rest.dropWhile (· != '"') with
  | [] => (string body false, [])
  | _ :: after => (string body true, after)

/-- The body of a block comment and what follows its closing mark. -/
def splitClosing? : List Char → Option (List Char × List Char)
  | [] => none
  | '*' :: '/' :: after => some ([], after)
  | c :: rest => (splitClosing? rest).map fun (body, after) => (c :: body, after)

/-- The block comment whose opening mark has been read. -/
def firstBlockComment (rest : List Char) : Segment × List Char :=
  match splitClosing? rest with
  | some (body, after) => (blockComment body true, after)
  | none => (blockComment rest false, [])

/-- The comment or the division sign that a slash starts. -/
def firstSlash : List Char → Segment × List Char
  | '/' :: rest => (lineComment (rest.takeWhile (· != '\n')), rest.dropWhile (· != '\n'))
  | '*' :: rest => firstBlockComment rest
  | rest => (symbol .slash ['/'], rest)

/-- The operator of a character that an equals sign may follow. -/
def firstOperator (c : Char) (alone withEquals : Token.Kind) : List Char → Segment × List Char
  | '=' :: rest => (symbol withEquals [c, '='], rest)
  | rest => (symbol alone [c], rest)

/-- The first segment of a text, and the text after it. -/
def first (c : Char) (rest : List Char) : Segment × List Char :=
  match Token.singles.lookup c, Token.equalsPairs.lookup c with
  | some kind, _ => (symbol kind [c], rest)
  | none, some (alone, withEquals) => firstOperator c alone withEquals rest
  | none, none =>
    if c = '/' then firstSlash rest
    else if isSpacing c then (blank c, rest)
    else if c = '"' then firstString rest
    else if isDigit c then firstNumber c rest
    else if isWordStart c then (word (c :: rest.takeWhile isWordPart), rest.dropWhile isWordPart)
    else (stray c, rest)

/-! ## Nothing is lost -/

/-- A numeral and what follows it are the text. -/
theorem text_firstNumber (digit : Char) (rest : List Char) :
    (firstNumber digit rest).1.text ++ (firstNumber digit rest).2 = digit :: rest := by
  have split := List.takeWhile_append_dropWhile (p := isDigit) (l := rest)
  unfold firstNumber
  split
  · rename_i next after tail
    split
    · simp only [text, List.cons_append, List.append_assoc, List.takeWhile_append_dropWhile]
      rw [← tail, split]
    · simp only [text, List.cons_append]
      rw [← tail, split]
  · simp only [text, List.cons_append, split]

/-- A string and what follows it are the opening quote and the text. -/
theorem text_firstString (rest : List Char) :
    (firstString rest).1.text ++ (firstString rest).2 = '"' :: rest := by
  have split := List.takeWhile_append_dropWhile (p := (· != '"')) (l := rest)
  unfold firstString
  split
  · rename_i tail
    rw [tail] at split
    simpa [text] using split
  · rename_i quote after tail
    have quoted : quote = '"' := by
      have head := List.head?_dropWhile_not (· != '"') rest
      simpa [tail] using head
    rw [tail, quoted] at split
    simpa [text] using split

/-- The body, the closing mark and the rest are the text. -/
theorem eq_of_splitClosing? {text body after : List Char}
    (h : splitClosing? text = some (body, after)) : text = body ++ '*' :: '/' :: after := by
  fun_induction splitClosing? text generalizing body with
  | case1 => simp at h
  | case2 rest => simp_all
  | case3 c rest _ ih =>
    obtain ⟨⟨tail, last⟩, split, same⟩ := Option.map_eq_some_iff.1 h
    simp only [Prod.mk.injEq] at same
    obtain ⟨rfl, rfl⟩ := same
    rw [ih split, List.cons_append]

/-- What a slash starts and what follows it are the text. -/
theorem text_firstSlash (rest : List Char) :
    (firstSlash rest).1.text ++ (firstSlash rest).2 = '/' :: rest := by
  unfold firstSlash
  split
  · simp [text, List.takeWhile_append_dropWhile]
  · unfold firstBlockComment
    split
    · rename_i split
      simp [text, eq_of_splitClosing? split]
    · simp [text]
  · simp [text]

/-- **Nothing is lost.**  The first segment and what follows it are the text. -/
theorem text_first (c : Char) (rest : List Char) :
    (first c rest).1.text ++ (first c rest).2 = c :: rest := by
  unfold first
  split
  · simp [text]
  · unfold firstOperator
    split <;> simp [text]
  · split
    · rename_i slash
      rw [slash, text_firstSlash]
    · split
      · simp [text]
      · split
        · rename_i quote
          rw [quote, text_firstString]
        · split
          · exact text_firstNumber c rest
          · split
            · simp [text, List.takeWhile_append_dropWhile]
            · simp [text]

theorem text_first_ne_nil (c : Char) (rest : List Char) : (first c rest).1.text ≠ [] := by
  unfold first firstOperator firstSlash firstBlockComment firstString firstNumber
  repeat' split
  all_goals simp [text]

theorem length_first (c : Char) (rest : List Char) : (first c rest).2.length ≤ rest.length := by
  have total := congrArg List.length (text_first c rest)
  have positive := List.length_pos_iff.2 (text_first_ne_nil c rest)
  simp only [List.length_append, List.length_cons] at total
  omega

/-! ## All segments -/

/-- The segments of a text, in order. -/
def segments : List Char → List Segment
  | [] => []
  | c :: rest => (first c rest).1 :: segments (first c rest).2
termination_by text => text.length
decreasing_by
  have shorter := length_first c rest
  simp only [List.length_cons]
  omega

/-- **The segments cover the text.**  Put together they are the text again. -/
theorem flatMap_text_segments (source : List Char) : (segments source).flatMap text = source := by
  fun_induction segments source with
  | case1 => rfl
  | case2 c rest ih => rw [List.flatMap_cons, ih, text_first]

end LoxSyntax.Segment
