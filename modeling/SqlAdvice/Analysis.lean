import SqlAdvice.Advice.Rules
import SqlAdvice.Log
import SqlAdvice.Problem
import SqlAdvice.Registry.Input
import SqlAdvice.Sql.Features
import SqlAdvice.Statistics

/-!
# Analyses

An analysis of a statement against a registry is its features, a plan with drawn costs, advice and
drawn statistics. `Analyzer.analyze` makes one: it checks what it is given, reads the features off
the text, draws the plan, gives the advice and draws the statistics, and stops at the first stage
that fails. The source of the draws goes on from one analysis to the next, and a failed stage keeps
the draws it has made.
-/

namespace SqlAdvice

open SqlAdvice.Number SqlAdvice.Text

/-- All that is found out about one statement. -/
structure Analysis where
  sql : String
  features : Sql.Features
  plan : Plan
  recommendations : List Recommendation
  statistics : Statistics
  deriving DecidableEq

namespace Analysis

/-- The advice of one severity. -/
def withSeverity (a : Analysis) (severity : Severity) : List Recommendation :=
  a.recommendations.filter (·.severity == severity)

/-- Tells whether some advice is urgent. -/
def isUrgent (a : Analysis) : Bool :=
  a.recommendations.any (·.severity == .high)

/-- What the log says of an analysis, where its cost can be written. -/
def summary (a : Analysis) : Except DigitFault String := do
  let cost ← writeNat a.plan.totalCost
  return "Analyzed " ++ a.features.kind.name ++ " query over " ++
    decimalNat a.features.tables.length ++ " table(s): " ++
    decimalNat a.plan.operations.length ++ " operation(s), cost " ++ cost ++ ", " ++
    decimalNat a.plan.warnings.length ++ " warning(s), " ++
    decimalNat a.recommendations.length ++ " recommendation(s)"

end Analysis

/-! ## What can go wrong -/

/-- Why a statement and a registry cannot be analysed. -/
inductive InputFault where
  | noQuery
  | notText (kind : String)
  | blankQuery
  | registry (fault : Registry.InputFault)
  deriving DecidableEq

/-- The text of refused input. -/
def InputFault.message : InputFault → String
  | .noQuery => "No SQL query provided"
  | .notText kind => "SQL query must be text, got " ++ kind
  | .blankQuery => "SQL query is empty"
  | .registry fault => "Invalid index registry: " ++ fault.message

/-- A stage behind the reading of the features. -/
inductive Stage where
  | plan | recommend | statistics
  deriving DecidableEq

/-- The name of a stage. -/
def Stage.name : Stage → String
  | .plan => "plan"
  | .recommend => "recommend"
  | .statistics => "statistics"

/-- Why there is no analysis. -/
inductive AnalysisFault where
  | input (fault : InputFault)
  | extraction (fault : Sql.ExtractionFault)
  | stage (stage : Stage) (cause : Cause)
  deriving DecidableEq

namespace AnalysisFault

/-- The problem with a text from which no features can be read. -/
def ofExtraction : Sql.ExtractionFault → Problem
  | .unknownKind word =>
    let cause := Cause.unknownKind word
    .extraction ("Clause extraction failed: " ++ cause.described) (some cause)
  | .inconsistent fault => .extraction fault.message none

/-- What a caller is told about a failed analysis. -/
def problem : AnalysisFault → Problem
  | input fault => .malformedInput fault.message
  | extraction fault => ofExtraction fault
  | stage s cause => .ofStage s.name cause

/-- What the log says of a stage that failed. -/
def failureLine (stage text : String) : LogLine :=
  ⟨.warning, "Analysis stage " ++ stage ++ " failed: " ++ text⟩

/-- What the log says of a failed analysis: nothing where the input was refused. -/
def logLines : AnalysisFault → List LogLine
  | input _ => []
  | extraction (.unknownKind word) => [failureLine "extract" (Cause.unknownKind word).text]
  | extraction (.inconsistent _) => []
  | stage s cause => [failureLine s.name cause.text]

end AnalysisFault

/-- What the log says of an analysis, made or failed. A line that cannot be written is left out. -/
def logLinesOf : Except AnalysisFault Analysis → List LogLine
  | .ok a => a.summary.toOption.toList.map (⟨.info, ·⟩)
  | .error fault => fault.logLines

/-! ## Making one -/

/-- The text of a statement; it may not be blank. -/
def queryText : Value → Except InputFault String
  | .null => .error .noQuery
  | .text s => if isBlankString s then .error .blankQuery else .ok s
  | v => .error (.notText v.kindName)

/-- Checks a statement and a registry, and reads the features off the statement. -/
def prepare (sql registry : Value) : Except AnalysisFault (String × Registry × Sql.Features) := do
  let text ← (queryText sql).mapError .input
  let r ← (Registry.ofValue registry).mapError fun fault => .input (.registry fault)
  let features ← (Sql.extract text).mapError .extraction
  return (text, r, features)

/-- Makes analyses with draws from a source with states `σ`. -/
structure Analyzer (σ : Type) where
  source : Source σ
  costs : CostModel := {}
  /-- The greatest cost of a plan that is not worth a review. -/
  costThreshold : Nat := 100

namespace Analyzer

variable {σ : Type}

/-- Runs a stage that draws. -/
def run (stage : Stage) {α : Type} (x : Draw σ α) : ExceptT AnalysisFault (StateM σ) α :=
  x.adapt (.stage stage)

/-- The advice as a stage; it draws nothing. -/
def advise (z : Analyzer σ) (features : Sql.Features) (plan : Plan) (r : Registry) :
    Except AnalysisFault (List Recommendation) :=
  (Advice.recommend z.costThreshold features plan r).mapError fun fault =>
    .stage .recommend (.digits fault)

/-- Analyses a statement against a registry. -/
def analyze (z : Analyzer σ) (sql registry : Value) :
    ExceptT AnalysisFault (StateM σ) Analysis := do
  let (text, r, features) ← (prepare sql registry : Except AnalysisFault _)
  let plan ← run .plan (Plan.synthesize z.source z.costs features r)
  let recommendations ← (z.advise features plan r : Except AnalysisFault _)
  let statistics ← run .statistics (Statistics.synthesize z.source features)
  return ⟨text, features, plan, recommendations, statistics⟩

end Analyzer

end SqlAdvice
