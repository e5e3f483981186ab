import SqlAdvice.Files.Basic
import SqlAdvice.Plan.Cost
import SqlAdvice.Text.Lowercase

/-!
# Settings

What can be set: the profile the library runs under, the cost above which a plan is worth a review,
the seed of the draws, the cost ranges of the operations, and the registry to use where none is
given. Every setting has a default. `Settings.ofFields` reads them from the fields of a record.
-/

namespace SqlAdvice

open SqlAdvice.Text

/-- The profile that the library runs under. -/
inductive Profile where
  | development | staging | production
  deriving DecidableEq

namespace Profile

/-- The name of a profile. -/
def name : Profile → String
  | development => "development"
  | staging => "staging"
  | production => "production"

/-- The profiles. -/
def all : List Profile :=
  [development, staging, production]

/-- The profile with a given name. -/
def ofName? (name : String) : Option Profile :=
  all.find? (·.name == name)

/-- The profile that a text names in any letter case; any other text means development. -/
def ofText (s : String) : Profile :=
  (ofName? (lowered s)).getD development

end Profile

/-- The settings of the library. -/
structure Settings where
  profile : Profile := .development
  /-- The greatest cost of a plan that is not worth a review. -/
  costThreshold : Nat := 100
  /-- The seed of the draws; without one the draws differ from run to run. -/
  seed : Option Int := none
  costs : CostModel := {}
  /-- The registry file to use where none is given. -/
  registryFile : Option Path := none
  deriving DecidableEq

namespace Settings

/-- Reads a path. -/
def readPath : Value → Record.Checked Path
  | .text s => .valid (.ofText s)
  | _ => .fail .notPath

/-- Reads settings from the fields of a record. -/
def ofFields (pairs : List (Value × Value)) : Record.Checked Settings :=
  let default : Settings := {}
  Settings.mk
    <$> Record.withDefault pairs "environment" default.profile (Record.readNamed Profile.ofName?)
    <*> Record.withDefault pairs "high_cost_threshold" default.costThreshold (Record.readNat 0)
    <*> Record.withDefault pairs "random_seed" default.seed
      (Record.readOptional (Record.readInteger none))
    <*> Record.withDefault pairs "costs" default.costs (Record.readRecord CostModel.ofFields)
    <*> Record.withDefault pairs "default_registry_file" default.registryFile
      (Record.readOptional readPath)

end Settings

/-! ## Faults -/

/-- Why settings cannot be loaded. -/
inductive SettingsFault where
  /-- Variables hold numbers that are out of range. -/
  | outOfRange (issues : List Record.Issue)
  | unreadable (path : Path) (fault : FileFault)
  /-- The file is no UTF-8. -/
  | encoding (fault : Text.Utf8Fault)
  | malformed (path : Path) (format : DocumentFormat)
  | notMapping (path : Path) (kind : String)
  /-- A key of the document is no text. -/
  | keyNotText
  | invalid (path : Path) (issues : List Record.Issue)

/-- The text of a failed loading. -/
def SettingsFault.message : SettingsFault → String
  | .outOfRange issues => "Invalid configuration in environment: " ++ Record.issuesText issues
  | .unreadable path fault => "Failed to read config file " ++ path.text ++ ": " ++ fault.message
  | .encoding fault => fault.message
  | .malformed path format =>
    "Failed to read config file " ++ path.text ++ ": " ++ format.malformedMessage
  | .notMapping path kind =>
    "Config file " ++ path.text ++ " must contain a mapping, got " ++ kind
  | .keyNotText => "keywords must be strings"
  | .invalid path issues =>
    "Invalid configuration in " ++ path.text ++ ": " ++ Record.issuesText issues

end SqlAdvice
