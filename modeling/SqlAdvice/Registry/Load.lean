import SqlAdvice.Files.Basic
import SqlAdvice.Log
import SqlAdvice.Problem
import SqlAdvice.Registry.Document

/-!
# Registries from files

A file with the suffix `.json` holds its registry in JSON and any other file in YAML. An empty
document is worth a warning.
-/

namespace SqlAdvice.Registry

/-- What went wrong with a registry file. -/
inductive LoadCause where
  | unreadable (fault : TextFault)
  | malformed (format : DocumentFormat)
  | document (fault : DocumentFault)

/-- A registry file that cannot be loaded. -/
structure LoadFault where
  source : Path
  cause : LoadCause

/-- The text of a failed loading. -/
def LoadFault.message (f : LoadFault) : String :=
  match f.cause with
  | .unreadable fault => "Cannot read registry file: " ++ fault.message
  | .malformed format => "Invalid registry file: " ++ format.malformedMessage
  | .document fault => fault.message

/-- What a caller is told about a registry file that cannot be loaded. A table name that cannot be
written is no problem of the registry and is passed on as it is. -/
def LoadFault.problem? (f : LoadFault) : Option Problem :=
  match f.cause with
  | .document (.digits _) => none
  | _ => some (.registry f.message (some f.source.text))

/-- How a registry file is written. -/
def formatOf (path : Path) : DocumentFormat :=
  if path.suffix == ".json" then .json else .yaml

/-- The warning for an empty registry file. -/
def emptyWarning (path : Path) : String :=
  "Registry file " ++ path.text ++ " is empty"

/-- The value in a registry file. -/
def readDocument (files : Files) (path : Path)
    (read : DocumentReader := DocumentFormat.read?) : Except LoadCause Value := do
  let text ← (files.readText path).mapError .unreadable
  match read (formatOf path) text with
  | some v => return v
  | none => throw (.malformed (formatOf path))

/-- Notes a warning where a document is empty. -/
def warnIfEmpty (path : Path) : Value → Logged LoadFault Unit
  | .null => .warn (emptyWarning path)
  | _ => pure ()

/-- Loads the registry of a file. -/
def load (files : Files) (path : Path) (read : DocumentReader := DocumentFormat.read?) :
    Logged LoadFault Registry := do
  let v ← Logged.ofExcept ((readDocument files path read).mapError (⟨path, ·⟩))
  warnIfEmpty path v
  .ofExcept ((ofDocument v).mapError fun fault => ⟨path, .document fault⟩)

end SqlAdvice.Registry
