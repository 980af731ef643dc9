/-
# Source files

A file is read under a named encoding, and its line ends are made uniform.  A file that does not
exist is reported before an encoding that does not exist, and that before bytes that cannot be
read.
-/
import LoxSyntax.Source.Scan
import LoxSyntax.Text.Encoding

namespace LoxSyntax

/-- Why a source file cannot be read. -/
inductive ReadError where
  | noFile
  | unknownEncoding (name : String)
  | malformed (error : Text.DecodeError)
  deriving DecidableEq, Repr

/-- The error in words. -/
def ReadError.message : ReadError → String
  | noFile => "No such file or directory"
  | unknownEncoding name => s!"unknown encoding: {name}"
  | malformed error => error.message

/-- The encoding of source files, if none is asked for. -/
def defaultEncoding : String := "utf-8"

/-- The text of a file, given its bytes if it exists. -/
def readSource (bytes? : Option (List UInt8)) (encoding : String) : Except ReadError String :=
  match bytes?, Text.Encoding.ofName? encoding with
  | none, _ => .error .noFile
  | some _, none => .error (.unknownEncoding encoding)
  | some bytes, some known =>
    match known.decode bytes with
    | .ok text => .ok (String.ofList (Text.unifyLineEnds text))
    | .error error => .error (.malformed error)

/-- Scans a file. -/
def scanFile (bytes? : Option (List UInt8)) (encoding : String) : Except ReadError Scan :=
  (readSource bytes? encoding).map scan

end LoxSyntax
