import SqlAdvice.Analysis
import SqlAdvice.Report.Heading

/-!
# Reports as Markdown

The same sections under headings, with the plan and the statistics as tables. A bar in the
description of an operation is escaped with a backslash. There is no report when a number is too
long to be written.
-/

namespace SqlAdvice.Report.Markdown

open SqlAdvice.Number

/-- A text in a cell of a table, with a backslash in front of every bar. -/
def escapeBars (s : String) : String :=
  String.ofList (s.toList.flatMap fun c => if c == '|' then ['\\', '|'] else [c])

/-- The row for an operation. -/
def operationRow (op : Operation) : Except DigitFault String := do
  let id ← writeNat op.id
  let cost ← writeNat op.cost
  return "| " ++ id ++ " | " ++ op.kind.name ++ " | " ++ cost ++ " | " ++
    escapeBars op.description ++ " |"

/-- The section of the plan. -/
def planLines (p : Plan) : Except DigitFault (List String) := do
  let total ← writeNat p.totalCost
  let rows ← p.operations.mapM operationRow
  return ["## Query Execution Plan", "", "**Total cost:** " ++ total, "",
    "| # | Operation | Cost | Description |", "|---|-----------|------|-------------|"] ++ rows

/-- The section of the warnings. -/
def warningLines (p : Plan) : List String :=
  if p.warnings.isEmpty then []
  else ["", "### Warnings", ""] ++ p.warnings.map ("- " ++ ·)

/-- The lines for the code of a piece of advice. -/
def codeLines (r : Recommendation) : List String :=
  if r.code.isEmpty then []
  else ["", "  \x60\x60\x60sql"] ++ r.codeLines.map ("  " ++ ·) ++ ["  \x60\x60\x60"]

/-- The lines for a piece of advice. -/
def adviceLines (r : Recommendation) : List String :=
  ("- **" ++ r.severity.heading ++ "** (" ++ r.category.name ++ "): " ++ r.description) ::
    codeLines r

/-- The section of the advice. -/
def recommendationLines (rs : List Recommendation) : List String :=
  ["", "## Optimization Recommendations", ""] ++
    (if rs.isEmpty then ["No recommendations."] else rs.flatMap adviceLines)

/-- The row for a counter. -/
def counterRow (s : Statistics) (c : Statistics.Counter) : Except DigitFault String :=
  (c.display s).map fun value => "| " ++ c.label ++ " | " ++ value ++ " |"

/-- The section of the statistics. -/
def statisticsLines (s : Statistics) : Except DigitFault (List String) :=
  (Statistics.counters.mapM (counterRow s)).map fun rows =>
    ["", "## Performance Statistics", "", "| Statistic | Value |", "|-----------|-------|"] ++ rows

/-- The report on an analysis as Markdown. -/
def render (a : Analysis) : Except DigitFault String := do
  let plan ← planLines a.plan
  let statistics ← statisticsLines a.statistics
  return joinLines (plan ++ warningLines a.plan ++ recommendationLines a.recommendations ++
    statistics)

end SqlAdvice.Report.Markdown
