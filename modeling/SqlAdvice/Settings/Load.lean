import SqlAdvice.Settings.Variables

/-!
# Settings from files

Settings may come from a file instead of the variables. The suffixes `.yaml` and `.yml` mean YAML
and any other name JSON, and a file that does not exist sends the reader back to the variables. The
variable `CONFIG_FILE` names the file to use.
-/

namespace SqlAdvice.Settings

/-- How a settings file is written. -/
def formatOf (path : Path) : DocumentFormat :=
  if path.suffix == ".yaml" || path.suffix == ".yml" then .yaml else .json

/-- The value in a settings file. -/
def readDocument (files : Files) (path : Path)
    (read : DocumentReader := DocumentFormat.read?) : Except SettingsFault Value := do
  let text ← (files.readText path).mapError fun
    | .file fault => .unreadable path fault
    | .encoding fault => .encoding fault
  match read (formatOf path) text with
  | some v => return v
  | none => throw (.malformed path (formatOf path))

/-- The settings that the fields of a document make. -/
def ofDocumentFields (path : Path) (pairs : List (Value × Value)) : Except SettingsFault Settings :=
  if Record.hasTextKeys pairs then (ofFields pairs).toExcept.mapError (.invalid path)
  else .error .keyNotText

/-- The settings that a document makes. -/
def ofDocument (path : Path) : Value → Except SettingsFault Settings
  | .null => ofDocumentFields path []
  | .mapping pairs => ofDocumentFields path pairs
  | v => .error (.notMapping path v.kindName)

/-- The warning for a settings file that does not exist. -/
def notFoundWarning (path : Path) : String :=
  "Config file not found: " ++ path.text ++ ", using environment"

/-- Loads the settings of a file, or those of the variables where there is no file. -/
def loadFile (files : Files) (vars : Variables) (path : Path)
    (read : DocumentReader := DocumentFormat.read?) : Logged SettingsFault Settings :=
  if files.isPresent path then .ofExcept (readDocument files path read >>= ofDocument path)
  else do
    .warn (notFoundWarning path)
    ofVariables vars

/-- Loads the settings, from the file that the variables name or from the variables themselves. -/
def load (files : Files) (vars : Variables) (read : DocumentReader := DocumentFormat.read?) :
    Logged SettingsFault Settings :=
  match vars.nonEmpty? "CONFIG_FILE" with
  | some name => loadFile files vars (.ofText name) read
  | none => ofVariables vars

end SqlAdvice.Settings
