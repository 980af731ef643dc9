/-
# The program

The program asks the file system which of the paths in question are directories, and carries out
the outcome of the run: it writes the file, prints the texts and ends with the status.
-/
import LoxSyntax.NodeModule.CommandLine

namespace LoxSyntax.NodeModule

open Text (Raw)

/-- The path leads to a directory: there is something to open inside it. -/
def opensAsDirectory (path : Raw) : IO Bool := do
  if path.isEmpty then return false
  try
    let _ ← IO.FS.Handle.mk (path.shown ++ "/.") .read
    return true
  catch _ => return false

/-- The layout as far as a run with the given arguments depends on it. -/
def observedLayout (arguments : List Raw) : IO Layout := do
  match readArguments arguments with
  | .ok (.generate directory _) =>
    let directories ←
      [directory, joinPath directory (.ofString moduleFile)].filterM opensAsDirectory
    return ⟨directories.contains⟩
  | _ => return ⟨fun _ => false⟩

/-- Carries out the outcome of a run. -/
def Outcome.perform : Outcome → IO UInt32
  | .ended ending => do
    for file in ending.written? do
      IO.FS.writeFile file.path.shown file.content
    (← IO.getStdout).putStr ending.stdout
    (← IO.getStderr).putStr ending.stderr.shown
    return ending.status.toUInt32
  | .blocked path => do
    (← IO.getStderr).putStr s!"{path.shown}: {blockedMessage}\n"
    return 1
  | .emptied path cause => do
    IO.FS.writeFile path.shown ""
    (← IO.getStderr).putStr s!"{cause.message}\n"
    return 1

end LoxSyntax.NodeModule

/-- Runs the command line. -/
def main (arguments : List String) : IO UInt32 := do
  let arguments := arguments.map LoxSyntax.Text.Raw.ofString
  let layout ← LoxSyntax.NodeModule.observedLayout arguments
  (LoxSyntax.NodeModule.run layout arguments).perform
