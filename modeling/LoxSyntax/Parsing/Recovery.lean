/-
# Recovery

After a syntax error the tokens are passed over up to the next place where a statement can start:
behind a semicolon, or before a word that opens a statement.
-/
import LoxSyntax.Parsing.Rule

namespace LoxSyntax.Parsing

/-- The kinds of tokens that open a statement, in the order of their names. -/
def statementStarts : List Token.Kind :=
  [.kwClass, .kwFor, .kwFun, .kwIf, .kwPrint, .kwReturn, .kwVar, .kwWhile]

/-- A statement ends with the first token, or starts with the second. -/
def isBoundary (previous current : Token) : Bool :=
  previous.kind == .semicolon || statementStarts.contains current.kind

/-- The tokens from the first boundary on, given the token before them. -/
def skipFrom (previous : Token) : List Token → List Token
  | [] => []
  | t :: rest => if isBoundary previous t then t :: rest else skipFrom t rest

/-- Passes over one token, and then over all others up to a boundary. -/
def synchronize : List Token → List Token
  | [] => []
  | t :: rest => skipFrom t rest

/-- What is not passed over is a suffix. -/
theorem skipFrom_suffix (previous : Token) (tokens : List Token) :
    skipFrom previous tokens <:+ tokens := by
  fun_induction skipFrom previous tokens with
  | case1 => exact List.suffix_rfl
  | case2 => exact List.suffix_rfl
  | case3 previous t rest _ ih => exact ih.trans (List.suffix_cons t rest)

/-- Synchronization passes over one token at least, if there is one. -/
theorem synchronize_cons (t : Token) (rest : List Token) :
    ProperSuffix (synchronize (t :: rest)) (t :: rest) :=
  .of_suffix (skipFrom_suffix t rest) (.tail t rest)

/-- What synchronization leaves is a suffix. -/
theorem synchronize_suffix (tokens : List Token) : synchronize tokens <:+ tokens := by
  cases tokens with
  | nil => exact List.suffix_rfl
  | cons t rest => exact (synchronize_cons t rest).suffix

/-- The tokens at which reading goes on after a failure.  A token that nests too deep has been read
already when it is found at fault; all other tokens have not. -/
def Failure.rest (f : Failure) : List Token :=
  match f.fault with
  | .tooDeep => f.found.tail
  | _ => f.found

/-- Reading goes on with a suffix of what was found. -/
theorem Failure.rest_suffix (f : Failure) : f.rest <:+ f.found := by
  unfold Failure.rest
  split
  · exact List.tail_suffix f.found
  · exact List.suffix_rfl

end LoxSyntax.Parsing
