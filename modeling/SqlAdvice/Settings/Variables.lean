import SqlAdvice.Log
import SqlAdvice.Settings.Basic

/-!
# Settings from variables

Every setting has a variable, and each cost range has two. A variable that is not set or empty means
the default, and so does one that should hold an integer and does not, with a warning. The integers
are read in a fixed order, and a cost range out of bounds ends the reading.
-/

namespace SqlAdvice

open SqlAdvice.Number

/-- The values of variables, by name. -/
structure Variables where
  values : List (String × String) := []

namespace Variables

/-- What the names of all variables of the library begin with. -/
def namespacePart : String :=
  "QUERYADVISOR_"

/-- The value of a variable. -/
def get? (vars : Variables) (name : String) : Option String :=
  (vars.values.find? (·.1 == name)).map (·.2)

/-- The value of a variable that is set and not empty. -/
def nonEmpty? (vars : Variables) (name : String) : Option String :=
  (vars.get? name).filter (!·.isEmpty)

/-- Takes a variable away. -/
def unset (vars : Variables) (name : String) : Variables :=
  ⟨vars.values.filter (·.1 != name)⟩

/-- Gives a variable a value. -/
def set (vars : Variables) (name value : String) : Variables :=
  ⟨(name, value) :: (vars.unset name).values⟩

/-- The warning for a variable that should hold an integer. -/
def unreadableWarning (name value default : String) : String :=
  "Could not parse " ++ namespacePart ++ name ++ "=" ++ value ++ ", using " ++ default

/-- Reads a variable that may hold an integer; `shown` is how its default appears in a warning. -/
def readInteger {α : Type} (vars : Variables) (name : String) (default : α) (shown : String)
    (ofInteger : Int → α) : Logged SettingsFault α :=
  match vars.nonEmpty? name with
  | none => pure default
  | some value =>
    match readInteger? value.toList with
    | some i => pure (ofInteger i)
    | none => do
      .warn (unreadableWarning name value shown)
      return default

/-- Reads a variable with a number as its default. -/
def readNumber (vars : Variables) (name : String) (default : Nat) : Logged SettingsFault Int :=
  vars.readInteger name (default : Int) (decimalNat default) id

/-- The parts of a record as an outcome. -/
def checkedOutcome {α : Type} (c : Record.Checked α) : Logged SettingsFault α :=
  .ofExcept (c.toExcept.mapError .outOfRange)

/-- Reads the two variables of a cost range. -/
def readRange (vars : Variables) (kind : OperationKind) : Logged SettingsFault CostRange := do
  let default := ({} : CostModel).range kind
  let base ← vars.readNumber (kind.name ++ "_COST_BASE") default.base
  let spread ← vars.readNumber (kind.name ++ "_COST_SPREAD") default.spread
  checkedOutcome (CostRange.ofIntegers base spread)

end Variables

/-- The settings that variables make. -/
def Settings.ofVariables (vars : Variables) : Logged SettingsFault Settings := do
  let default : Settings := {}
  let profile := ((vars.get? "ENVIRONMENT").map Profile.ofText).getD default.profile
  let threshold ← vars.readNumber "HIGH_COST_THRESHOLD" default.costThreshold
  let seed ← vars.readInteger "RANDOM_SEED" default.seed "None" some
  let scan ← vars.readRange .scan
  let join ← vars.readRange .join
  let filter ← vars.readRange .filter
  let sort ← vars.readRange .sort
  let costThreshold ← Variables.checkedOutcome
    ((Record.readNat 0 (.int threshold)).under (.field "high_cost_threshold"))
  return {
    profile, costThreshold, seed
    costs := ⟨scan, join, filter, sort⟩
    registryFile := (vars.nonEmpty? "REGISTRY_FILE").map .ofText }

end SqlAdvice
