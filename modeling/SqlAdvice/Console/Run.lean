import SqlAdvice.Console.Arguments
import SqlAdvice.Console.Output
import SqlAdvice.Draw.Twister
import SqlAdvice.Failure
import SqlAdvice.Settings.Load

/-!
# The command line

`run` is the whole program as a function: from the arguments and the surroundings to what is
printed, the exit code and the log. A wrong use of the command line ends with code 2 and prints
nothing here; a failure ends with code 1 and one line on the error console, or none where the
failure is not the program's own.
-/

namespace SqlAdvice.Console

open SqlAdvice.Text

/-- What the program can see. -/
structure Surroundings where
  files : Files
  vars : Variables := {}
  /-- The bytes on standard input. -/
  input : List UInt8 := []
  /-- The seed of the draws where none is set. -/
  entropy : Int := 0
  /-- How documents are read. -/
  reader : DocumentReader := DocumentFormat.read?

/-- What a run of the program leaves behind. -/
structure Outcome where
  exitCode : Nat
  out : List Item := []
  err : List Item := []
  /-- A failure that the program does not report itself. -/
  escaped : Option Failure := none
  log : List LogLine := []

namespace Outcome

/-- The outcome of a wrong use of the command line. -/
def usage : Outcome :=
  { exitCode := 2 }

/-- The outcome of an error. -/
def error (message : String) : Outcome :=
  { exitCode := 1, err := [errorItem message] }

/-- The outcome of a failure. -/
def ofFailure (f : Failure) : Outcome :=
  match f.problem? with
  | some p => error (Markup.escape p.message)
  | none => { exitCode := 1, escaped := some f }

/-- The outcome of an analysis, made or failed. -/
def ofAnalysis (format : ReportFormat) (x : Logged Failure Analysis) : Outcome :=
  match x.outcome with
  | .ok a =>
    let printout := analysisItems format a
    match printout.fault with
    | none => { exitCode := 0, out := printout.items, log := x.log }
    | some fault =>
      { exitCode := 1, out := printout.items, escaped := some (.report fault), log := x.log }
  | .error f => { ofFailure f with log := x.log }

end Outcome

/-! ## Reading statements -/

/-- The statement that is read from standard input or from a file. -/
def readSource (s : Surroundings) (source : String) : Except Outcome (List Char) :=
  if source == "-" then
    (decodeText s.input).mapError fun fault => .ofFailure (.input fault)
  else
    let path := Path.ofText source
    if s.files.isFile path then
      (s.files.readText path).mapError fun fault =>
        .error ("Cannot read SQL file " ++ Markup.escape source ++ ": " ++
          Markup.escape fault.message)
    else .error (.error ("SQL file not found: " ++ Markup.escape source))

/-! ## Analysing -/

/-- Loads the settings. -/
def loadSettings (s : Surroundings) : Logged Failure Settings :=
  (Settings.load s.files s.vars s.reader).mapError .settings

/-- Loads a registry. -/
def loadRegistry (s : Surroundings) (path : Path) : Logged Failure Registry :=
  (Registry.load s.files path s.reader).mapError .registry

/-- Loads the registry and the settings. The settings name the registry where none is given, and are
loaded first then. -/
def prepareFor (s : Surroundings) : Option Path → Logged Failure (Registry × Settings)
  | some path => do
    let r ← loadRegistry s path
    let settings ← loadSettings s
    return (r, settings)
  | none => do
    let settings ← loadSettings s
    match settings.registryFile with
    | some path => return (← loadRegistry s path, settings)
    | none => return (.empty, settings)

/-- Analyses a statement under settings. A seed that is given takes the place of the one that is
set. -/
def analyzeUnder (s : Surroundings) (settings : Settings) (seed : Option Int) (sql : String)
    (r : Registry) : Logged Failure Analysis :=
  let analyzer : Analyzer Twister.State :=
    { source := Twister.source, costs := settings.costs, costThreshold := settings.costThreshold }
  let start := Twister.ofSeed ((seed.or settings.seed).getD s.entropy)
  let outcome := ((analyzer.analyze (.text sql) (.registry r)).run.run start).1
  ⟨outcome.mapError .analysis, logLinesOf outcome⟩

/-! ## Commands -/

/-- Analyses a statement against a registry. -/
def runAnalyze (s : Surroundings) (source : String) (registry : Option Path)
    (format : ReportFormat) (seed : Option Int) : Outcome :=
  if registry.all s.files.isPresent then
    match readSource s source with
    | .error outcome => outcome
    | .ok sql => .ofAnalysis format do
      let (r, settings) ← prepareFor s registry
      analyzeUnder s settings seed (String.ofList sql) r
  else .usage

/-- Prints a statement without the blanks around it. -/
def runFormat (s : Surroundings) (source : String) : Outcome :=
  match readSource s source with
  | .error outcome => outcome
  | .ok sql =>
    let text := trim sql
    if text.isEmpty then .error "Please enter a SQL query to format"
    else { exitCode := 0, out := [.text (String.ofList text)] }

/-- Analyses the statement of the demonstration, which is printed first. -/
def runDemo (s : Surroundings) (format : ReportFormat) (seed : Option Int) : Outcome :=
  let outcome := Outcome.ofAnalysis format do
    let settings ← loadSettings s
    analyzeUnder s settings seed Demo.query Demo.registry
  { outcome with out := demoItems format ++ outcome.out }

/-- The version of the program. -/
def versionText : String :=
  "QueryAdvisor version 0.1.0"

/-- Does what a command line asks for. -/
def run (s : Surroundings) (args : List String) : Outcome :=
  match Command.ofArguments? args with
  | none => .usage
  | some .version => { exitCode := 0, out := [.markup versionText] }
  | some (.analyze source registry format seed) => runAnalyze s source registry format seed
  | some (.format source) => runFormat s source
  | some (.demo format seed) => runDemo s format seed

end SqlAdvice.Console
