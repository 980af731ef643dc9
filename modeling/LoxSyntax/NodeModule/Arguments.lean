/-
# Arguments

The command line takes one directory and the options `--help`, also written `-h`, and
`--token-module`, which needs a value.  Options may stand anywhere and long ones may be shortened as
long as only one of them is meant.  The first `--` ends the options.
-/
import LoxSyntax.NodeModule.Source

namespace LoxSyntax.NodeModule

open Text (Raw Point)

/-- What can be wrong with the arguments. -/
inductive UsageError where
  | ambiguous (word : Raw)
  | helpTakesNoValue (value : Raw)
  | valueMissing
  | directoryMissing
  | unrecognized (words : List Raw)
  | notADirectory (path : Raw)
  deriving DecidableEq, Repr

/-- The error in words. -/
def UsageError.message : UsageError → Raw
  | ambiguous word =>
    .ofString "ambiguous option: " ++ word ++ .ofString " could match --help, --token-module"
  | helpTakesNoValue value =>
    .ofString s!"argument -h/--help: ignored explicit argument {value.quoted}"
  | valueMissing => .ofString "argument --token-module: expected one argument"
  | directoryMissing => .ofString "the following arguments are required: output_dir"
  | unrecognized words => .ofString "unrecognized arguments: " ++ [.char ' '].intercalate words
  | notADirectory path => .ofString "not a directory: " ++ path

/-! ## Words -/

/-- The word that ends the options. -/
def endOfOptions : Raw := .ofString "--"

/-- A word of the command line, by its role. -/
inductive Word where
  /-- A word that is no option. -/
  | plain (text : Raw)
  /-- The end of the options. -/
  | terminator
  /-- The call for help, with the value that it was given and does not take. -/
  | help (value? : Option Raw)
  /-- The option that names the token module, with its value if the word holds one. -/
  | tokenModule (value? : Option Raw)
  /-- A word that looks like an option but is none. -/
  | unknown (text : Raw)
  deriving DecidableEq, Repr

/-- Letters behind a short call for help may repeat the call; what else is there is a value. -/
def repeatedHelp (letters : Raw) : Word :=
  match letters.dropWhile (· == .char 'h') with
  | [] => .help none
  | value => .help (some value)

/-- What follows the letter of a short call for help.  One equals sign may stand in front, but then
something has to follow it. -/
def shortHelp : Raw → Word
  | [.char '='] => .help (some [])
  | .char '=' :: letters => repeatedHelp letters
  | letters => repeatedHelp letters

/-- The name and the value of an option, separated by the first equals sign. -/
def splitValue (word : Raw) : Raw × Option Raw :=
  match Text.splitFirst? (.char '=') word with
  | some (name, value) => (name, some value)
  | none => (word, none)

/-- A word that may be read as a negative number: digits, or digits around a point with at least one
behind it.  A line feed may end it. -/
def isNegativeNumber (word : Raw) : Bool :=
  match word with
  | .char '-' :: number =>
    let number := if number.getLast? == some (.char '\n') then number.dropLast else number
    let whole := number.takeWhile Point.isDecimalDigit
    match number.dropWhile Point.isDecimalDigit with
    | [] => ! whole.isEmpty
    | .char '.' :: fraction => ! fraction.isEmpty && fraction.all Point.isDecimalDigit
    | _ => false
  | _ => false

/-- A word behind a dash that names no option. -/
def otherWord (text : Raw) : Word :=
  if isNegativeNumber text || text.contains (.char ' ') then .plain text else .unknown text

/-- The module that a value names.  Two dashes alone end the options and are no value, even behind
an equals sign; without them the value is an empty list, and is written as one. -/
def moduleOfValue (value : Raw) : Raw :=
  if value = endOfOptions then .ofString "[]" else value

/-- The role of a long option.  Its name may be cut short, but not down to nothing. -/
def longOption (text : Raw) : Except UsageError Word :=
  let (name, value?) := splitValue text
  let isHelp := name.isPrefixOf (Raw.ofString "--help")
  let isTokenModule := name.isPrefixOf (Raw.ofString "--token-module")
  match isHelp, isTokenModule with
  | true, true => .error (.ambiguous text)
  | true, false => .ok (.help value?)
  | false, true => .ok (.tokenModule (value?.map moduleOfValue))
  | false, false => .ok (otherWord text)

/-- The role of a word before the end of the options. -/
def classify (text : Raw) : Except UsageError Word :=
  match text with
  | .char '-' :: .char '-' :: _ => longOption text
  | .char '-' :: .char 'h' :: following => .ok (shortHelp following)
  | .char '-' :: _ :: _ => .ok (otherWord text)
  | _ => .ok (.plain text)

/-- The roles of all words. -/
def classifyAll : List Raw → Except UsageError (List Word)
  | [] => .ok []
  | text :: rest =>
    if text = endOfOptions then .ok (.terminator :: rest.map .plain)
    else do
      let word ← classify text
      let words ← classifyAll rest
      return word :: words

/-! ## Commands -/

/-- What the arguments read so far amount to. -/
structure Reading where
  directory? : Option Raw := none
  tokenModule : Raw := .ofString defaultTokenModule
  surplus : List Raw := []
  deriving DecidableEq, Repr

/-- What is to be done. -/
inductive Command where
  | help
  | generate (directory tokenModule : Raw)
  deriving DecidableEq, Repr

/-- The command at the end of the words. -/
def Reading.finish (r : Reading) : Except UsageError Command :=
  match r.directory?, r.surplus with
  | none, _ => .error .directoryMissing
  | some directory, [] => .ok (.generate directory r.tokenModule)
  | some _, surplus => .error (.unrecognized surplus)

/-- A word that there is no use for. -/
def Reading.addSurplus (r : Reading) (text : Raw) : Reading :=
  { r with surplus := r.surplus ++ [text] }

/-- Reads the words from left to right.  The first word that is no option is the directory, and an
end of the options beside it goes with it. -/
def readWords (r : Reading) : List Word → Except UsageError Command
  | [] => r.finish
  | .help none :: _ => .ok .help
  | .help (some value) :: _ => .error (.helpTakesNoValue value)
  | .tokenModule (some value) :: rest => readWords { r with tokenModule := value } rest
  | .tokenModule none :: .plain value :: rest => readWords { r with tokenModule := value } rest
  | .tokenModule none :: _ => .error .valueMissing
  | .unknown text :: rest => readWords (r.addSurplus text) rest
  | .plain text :: .terminator :: rest =>
    if r.directory?.isNone then readWords { r with directory? := some text } rest
    else readWords ((r.addSurplus text).addSurplus endOfOptions) rest
  | .plain text :: rest =>
    if r.directory?.isNone then readWords { r with directory? := some text } rest
    else readWords (r.addSurplus text) rest
  | .terminator :: .plain text :: rest =>
    if r.directory?.isNone then readWords { r with directory? := some text } rest
    else readWords ((r.addSurplus endOfOptions).addSurplus text) rest
  | .terminator :: rest => readWords (r.addSurplus endOfOptions) rest

/-- The command that the arguments give. -/
def readArguments (arguments : List Raw) : Except UsageError Command := do
  let words ← classifyAll arguments
  readWords {} words

/-- Repeated calls for help are one, and anything else behind them is a value. -/
example : shortHelp (.ofString "h") = .help none ∧ shortHelp (.ofString "=h") = .help none ∧
    shortHelp (.ofString "h=") = .help (some (.ofString "=")) := by decide +kernel

/-- The last value of an option counts. -/
example :
    (readArguments (["--tok=a", "out", "--token-module", "b"].map .ofString)).toOption =
      some (.generate (.ofString "out") (.ofString "b")) := by decide +kernel

end LoxSyntax.NodeModule
