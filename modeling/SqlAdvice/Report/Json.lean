import SqlAdvice.Analysis
import SqlAdvice.Json.Writer

/-!
# Reports as JSON

The whole analysis but for the text of the statement, as an object with a version number. The
members and their order are fixed.
-/

namespace SqlAdvice.Report

/-- The version of the layout. -/
def layoutVersion : String :=
  "1.0"

/-- A number in a report. -/
def jsonNat (n : Nat) : Json :=
  .int n

/-- The features of a statement in a report. -/
def featuresJson (f : Sql.Features) : Json :=
  .object [
    ("query_type", .text f.kind.name),
    ("tables", .texts f.tables),
    ("join_predicates", .texts f.joinPredicates),
    ("where_conditions", .texts f.conditions),
    ("order_by_clause", f.orderBy.elim .null .text),
    ("order_by_columns", .texts f.sortColumns),
    ("has_wildcard", .bool f.hasWildcard),
    ("function_calls", .texts f.functionCalls)]

/-- An operation in a report. -/
def operationJson (op : Operation) : Json :=
  .object [
    ("id", jsonNat op.id),
    ("type", .text op.kind.name),
    ("cost", jsonNat op.cost),
    ("description", .text op.description)]

/-- A plan in a report. -/
def planJson (p : Plan) : Json :=
  .object [
    ("total_cost", jsonNat p.totalCost),
    ("operations", .list (p.operations.map operationJson)),
    ("warnings", .texts p.warnings)]

/-- A piece of advice in a report. -/
def recommendationJson (r : Recommendation) : Json :=
  .object [
    ("type", .text r.category.name),
    ("severity", .text r.severity.name),
    ("description", .text r.description),
    ("code", .text r.code)]

/-- Statistics in a report; the names of times and sizes end in their unit. -/
def statisticsJson (s : Statistics) : Json :=
  .object [
    ("estimated_rows", jsonNat s.estimatedRows),
    ("actual_rows", jsonNat s.actualRows),
    ("estimated_execution_time_ms", jsonNat s.estimatedTime),
    ("actual_execution_time_ms", jsonNat s.actualTime),
    ("memory_grant_kb", jsonNat s.memoryGrant),
    ("cpu_time_ms", jsonNat s.cpuTime),
    ("logical_reads", jsonNat s.logicalReads)]

/-- An analysis as a JSON value. -/
def analysisJson (a : Analysis) : Json :=
  .object [
    ("version", .text layoutVersion),
    ("features", featuresJson a.features),
    ("plan", planJson a.plan),
    ("recommendations", .list (a.recommendations.map recommendationJson)),
    ("statistics", statisticsJson a.statistics)]

/-- The report on an analysis as JSON. -/
def json (a : Analysis) : String :=
  (analysisJson a).write

end SqlAdvice.Report
