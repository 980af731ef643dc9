/-
# The command line

The command line writes the module of the expression nodes into a directory.  Its outcome depends on
the arguments and on which paths are directories: help, a complaint about the usage, a file that
cannot be opened because a directory has its name, a file that is left empty because its text cannot
be encoded, or the file.
-/
import LoxSyntax.NodeModule.Arguments
import LoxSyntax.NodeModule.Layout

namespace LoxSyntax.NodeModule

open Text (Raw Unencodable)

/-- The status of an end with a usage error. -/
def usageStatus : Nat := 64

/-- The line that shows how to call the program. -/
def usage : String := "usage: generate_ast [-h] [--token-module TOKEN_MODULE] output_dir\n"

/-- The help text. -/
def helpText : String :=
  usage ++
  "\n" ++
  "Generate the Lox expression node module\n" ++
  "\n" ++
  "positional arguments:\n" ++
  "  output_dir            Directory to write the generated module into\n" ++
  "\n" ++
  "options:\n" ++
  "  -h, --help            show this help message and exit\n" ++
  "  --token-module TOKEN_MODULE\n" ++
  "                        Module the generated code imports Token from\n"

/-- A file with its contents. -/
structure Written where
  path : Raw
  content : String
  deriving DecidableEq, Repr

/-- The end of a run: its status, what it printed and the file that it wrote. -/
structure Ending where
  status : Nat
  stdout : String := ""
  stderr : Raw := []
  written? : Option Written := none
  deriving DecidableEq, Repr

/-- What a run comes to. -/
inductive Outcome where
  | ended (ending : Ending)
  /-- The file cannot be opened. -/
  | blocked (path : Raw)
  /-- The file was opened, which made it an empty one, but its text cannot be encoded. -/
  | emptied (path : Raw) (cause : Unencodable)
  deriving DecidableEq, Repr

/-- Why a run is blocked. -/
def blockedMessage : String := "Is a directory"

/-- The end that a usage error makes. -/
def UsageError.ending (e : UsageError) : Ending where
  status := usageStatus
  stderr := .ofString s!"{usage}generate_ast: error: " ++ e.message ++ [.char '\n']

/-- The path of a file in a directory. -/
def joinPath (directory file : Raw) : Raw :=
  if directory = [] ∨ directory.getLast? = some (.char '/') then directory ++ file
  else directory ++ .char '/' :: file

/-- The name of the module file. -/
def moduleFile : String := "expr.py"

/-- The end of a run that wrote a file. -/
def Written.ending (file : Written) : Ending where
  status := 0
  stderr := .ofString "INFO lox.tools.generate_ast: wrote " ++ file.path ++ [.char '\n']
  written? := some file

/-- Writes a text to a file that can be opened.  It is opened first, which empties it, and only then
the text is encoded. -/
def writeText (path text : Raw) : Outcome :=
  match text.encode with
  | .ok content => .ended (Written.mk path content).ending
  | .error cause => .emptied path cause

/-- Writes the module into a directory. -/
def runGenerate (layout : Layout) (directory tokenModule : Raw) : Outcome :=
  let path := joinPath directory (.ofString moduleFile)
  if ! layout.isDirectory directory then .ended (UsageError.notADirectory directory).ending
  else if layout.isDirectory path then .blocked path
  else writeText path (rawModule "Expr" exprVariants tokenModule)

/-- The outcome of a run with the given arguments. -/
def run (layout : Layout) (arguments : List Raw) : Outcome :=
  match readArguments arguments with
  | .error e => .ended e.ending
  | .ok .help => .ended { status := 0, stdout := helpText }
  | .ok (.generate directory tokenModule) => runGenerate layout directory tokenModule

end LoxSyntax.NodeModule
