import SqlAdvice.Files.Path
import SqlAdvice.Json.Reader
import SqlAdvice.Text.Utf8
import SqlAdvice.Yaml.Document

/-!
# Files

`Files` says what every path leads to. Files are read as bytes or as text; text is UTF-8, and each
of the three ways to end a line becomes a line feed.

A document is a file with a value in it, written in YAML or in JSON. Which of the two a file is
written in is told by its suffix, and the rule for that is up to whoever reads the file. How the
value is read off the text is left open (`DocumentReader`); `DocumentFormat.read?` is the reader that
is used where none is given. It covers YAML without anchors, tags and directives.
-/

namespace SqlAdvice

open SqlAdvice.Text

/-- What a path leads to. -/
inductive Place where
  | missing
  /-- The path goes through something that is a file. -/
  | behindFile
  | directory
  | file (bytes : List UInt8)
  deriving DecidableEq

/-- What every path leads to. -/
abbrev Files := Path → Place

/-- Why no bytes can be read. -/
inductive FileFault where
  | missing (path : Path)
  | behindFile (path : Path)
  | directory (path : Path)
  deriving DecidableEq

/-- The text of a failed reading. -/
def FileFault.message : FileFault → String
  | .missing p => "[Errno 2] No such file or directory: " ++ quoted p.text
  | .behindFile p => "[Errno 20] Not a directory: " ++ quoted p.text
  | .directory p => "[Errno 21] Is a directory: " ++ quoted p.text

/-- Why no text can be read. -/
inductive TextFault where
  | file (fault : FileFault)
  | encoding (fault : Utf8Fault)

/-- The text of a failed reading. -/
def TextFault.message : TextFault → String
  | .file fault => fault.message
  | .encoding fault => fault.message

namespace Files

/-- Tells whether a path leads to a file or a directory. -/
def isPresent (files : Files) (p : Path) : Bool :=
  match files p with
  | .directory => true
  | .file _ => true
  | _ => false

/-- Tells whether a path leads to a file. -/
def isFile (files : Files) (p : Path) : Bool :=
  match files p with
  | .file _ => true
  | _ => false

/-- The bytes of a file. -/
def readBytes (files : Files) (p : Path) : Except FileFault (List UInt8) :=
  match files p with
  | .missing => .error (.missing p)
  | .behindFile => .error (.behindFile p)
  | .directory => .error (.directory p)
  | .file bytes => .ok bytes

end Files

/-- Bytes as a text. -/
def decodeText (bytes : List UInt8) : Except Utf8Fault (List Char) :=
  (decodeUtf8 bytes).map unifyNewlines

/-- The text of a file. -/
def Files.readText (files : Files) (p : Path) : Except TextFault (List Char) := do
  let bytes ← (files.readBytes p).mapError .file
  (decodeText bytes).mapError .encoding

/-! ## Documents -/

/-- How a document is written. -/
inductive DocumentFormat where
  | yaml | json
  deriving DecidableEq

namespace DocumentFormat

/-- The name of a format. -/
def name : DocumentFormat → String
  | yaml => "YAML"
  | json => "JSON"

/-- The value of a text in a format. -/
def read? : DocumentFormat → List Char → Option Value
  | yaml, cs => Yaml.read? cs
  | json, cs => do
    let j ← Json.read? cs
    if j.isShort then return j.toValue else none

/-- What is said of a text that is not written in a format. -/
def malformedMessage (f : DocumentFormat) : String :=
  "the text is no " ++ f.name

end DocumentFormat

/-- How the value of a text in a format is read. -/
abbrev DocumentReader := DocumentFormat → List Char → Option Value

end SqlAdvice
