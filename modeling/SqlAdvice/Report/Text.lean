import SqlAdvice.Report.Json
import SqlAdvice.Report.Markdown

/-!
# Reports as plain text

Four sections with an empty line between them: the plan, its warnings where there are any, the
advice with its code, and the statistics. `ReportFormat.render` is the report in any of the formats,
which have names.
-/

namespace SqlAdvice.Report

open SqlAdvice.Number

/-- The line for an operation. -/
def operationLine (op : Operation) : Except DigitFault String := do
  let id ← writeNat op.id
  let cost ← writeNat op.cost
  return "  " ++ id ++ ". " ++ alignLeft 6 op.kind.name ++ " cost " ++ alignRight 3 cost ++ "  " ++
    op.description

/-- The section of the plan. -/
def planLines (p : Plan) : Except DigitFault (List String) := do
  let total ← writeNat p.totalCost
  let operations ← p.operations.mapM operationLine
  return ["Query Execution Plan", "Total Cost: " ++ total, ""] ++ operations

/-- The section of the warnings. -/
def warningLines (p : Plan) : List String :=
  if p.warnings.isEmpty then []
  else ["", "Warnings:"] ++ p.warnings.map ("  - " ++ ·)

/-- The lines for a piece of advice. -/
def adviceLines (r : Recommendation) : List String :=
  ("  [" ++ r.severity.heading ++ "] " ++ r.category.heading ++ ": " ++ r.description) ::
    r.codeLines.map ("      " ++ ·)

/-- The section of the advice. -/
def recommendationLines (rs : List Recommendation) : List String :=
  ["", "Optimization Recommendations"] ++
    (if rs.isEmpty then ["  No recommendations."] else rs.flatMap adviceLines)

/-- The line for a counter. -/
def counterLine (s : Statistics) (c : Statistics.Counter) : Except DigitFault String :=
  (c.display s).map fun value => "  " ++ alignLeft 15 c.label ++ " " ++ value

/-- The section of the statistics. -/
def statisticsLines (s : Statistics) : Except DigitFault (List String) :=
  (Statistics.counters.mapM (counterLine s)).map (["", "Performance Statistics"] ++ ·)

/-- The report on an analysis as plain text. -/
def text (a : Analysis) : Except DigitFault String := do
  let plan ← planLines a.plan
  let statistics ← statisticsLines a.statistics
  return joinLines (plan ++ warningLines a.plan ++ recommendationLines a.recommendations ++
    statistics)

end SqlAdvice.Report

/-! ## Formats -/

namespace SqlAdvice

open SqlAdvice.Number

/-- A format of reports. -/
inductive ReportFormat where
  | text | json | markdown
  deriving DecidableEq

namespace ReportFormat

/-- The name of a format. -/
def name : ReportFormat → String
  | text => "text"
  | json => "json"
  | markdown => "markdown"

/-- The format with a given name. -/
def ofName? (name : String) : Option ReportFormat :=
  [text, json, markdown].find? (·.name == name)

/-- What is said of a name that is no format. -/
def unknownMessage (name : String) : String :=
  "Unknown output format: " ++ name

/-- The report on an analysis in a format. JSON has no limit to its numbers. -/
def render : ReportFormat → Analysis → Except DigitFault String
  | text, a => Report.text a
  | json, a => .ok (Report.json a)
  | markdown, a => Report.Markdown.render a

end ReportFormat

end SqlAdvice
