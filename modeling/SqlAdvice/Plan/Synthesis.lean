import SqlAdvice.Plan.Basic
import SqlAdvice.Registry.Basic
import SqlAdvice.Sql.Features

/-!
# Plans from features

A plan has one scan for every table, one join for every join predicate, one filter for every
condition, and a sort when the statement sorts. The costs are drawn one after another in that order,
before anything is checked.

A warning points at a table without an entry in the registry, at a join, filter or sort column that
the registry does not cover, at a wildcard, or at the functions that are called. Warnings come in
that order and without repeats; they do not depend on the draws.
-/

namespace SqlAdvice

open SqlAdvice.Text

/-! ## Columns -/

/-- The columns of a join predicate that the registry does not cover for some tables. -/
def uncoveredJoinColumns (r : Registry) (tables : List String) (predicate : String) :
    List String :=
  ((Sql.joinColumns predicate.toList).map String.ofList).filter fun c => !r.covers c tables

/-- The column of a condition, if there is one and the registry does not cover it. -/
def uncoveredFilterColumn? (r : Registry) (tables : List String) (condition : String) :
    Option String :=
  ((Sql.filterColumn? condition.toList).map String.ofList).filter fun c => !r.covers c tables

/-- The columns of an `ORDER BY` text that the registry does not cover for some tables. -/
def uncoveredSortColumns (r : Registry) (tables : List String) (clause : String) : List String :=
  ((Sql.sortColumns clause.toList).map String.ofList).filter fun c => !r.covers c tables

namespace Plan

/-! ## Warnings -/

/-- The warning for a table without an entry. -/
def missingIndexWarning (table : String) : String :=
  "Table '" ++ table ++ "' has no indexes defined"

/-- What a column is used for. -/
inductive ColumnUse where
  | join | filter | sort
  deriving DecidableEq

/-- The word for a use at the start of a warning. -/
def ColumnUse.word : ColumnUse → String
  | .join => "Join"
  | .filter => "Filter"
  | .sort => "Sort"

/-- The warning for a column that is not covered. -/
def uncoveredColumnWarning (use : ColumnUse) (column : String) : String :=
  use.word ++ " column '" ++ column ++ "' is not covered by any index"

/-- The warning for a wildcard. -/
def wildcardWarning : String :=
  "Wildcard pattern detected: '%' wildcards force a full scan instead of an index seek"

/-- The warning for the functions that are called, each named once. -/
def functionWarning (functions : List String) : String :=
  "Functions in the query may prevent index usage: " ++ ", ".intercalate functions.eraseDups

/-- All that the features and the registry give cause to warn of, with repeats. -/
def allWarnings (f : Sql.Features) (r : Registry) : List String :=
  (f.tables.filter fun t => !r.hasEntry t).map missingIndexWarning ++
  (f.joinPredicates.flatMap (uncoveredJoinColumns r f.tables)).map
    (uncoveredColumnWarning .join) ++
  (f.conditions.filterMap (uncoveredFilterColumn? r f.tables)).map
    (uncoveredColumnWarning .filter) ++
  (f.orderBy.toList.flatMap (uncoveredSortColumns r f.tables)).map
    (uncoveredColumnWarning .sort) ++
  (if f.hasWildcard then [wildcardWarning] else []) ++
  (if f.functionCalls.isEmpty then [] else [functionWarning f.functionCalls])

/-! ## Operations -/

/-- An operation before its cost is drawn and its number is known. -/
structure Step where
  kind : OperationKind
  description : String
  deriving DecidableEq

/-- The scan of a table. -/
def scanStep (r : Registry) (table : String) : Step :=
  ⟨.scan, (if r.hasEntry table then "Clustered index scan on " else "Table scan on ") ++ table⟩

/-- The operations that the features ask for, in order. -/
def steps (f : Sql.Features) (r : Registry) : List Step :=
  f.tables.map (scanStep r) ++
  f.joinPredicates.map (fun p => ⟨.join, "Hash match join on " ++ p⟩) ++
  f.conditions.map (fun c => ⟨.filter, "Filter rows where " ++ c⟩) ++
  f.orderBy.toList.map (fun o => ⟨.sort, "Sort by " ++ o⟩)

/-- The operation for a step, a cost and a number; a cost below zero is refused. -/
def operationFor (id : Nat) (step : Step) (cost : Int) : Record.Checked Operation :=
  if cost < 0 then .invalid [⟨[.field "cost"], .belowMinimum⟩]
  else .valid ⟨id, step.kind, cost.toNat, step.description⟩

/-- The operations for steps with their costs, numbered from `id` on, up to the first that is
refused. -/
def operationsFrom (id : Nat) : List (Step × Int) → Record.Checked (List Operation)
  | [] => .valid []
  | (step, cost) :: rest =>
    (operationFor id step cost).andThen fun op => (operationsFrom (id + 1) rest).map (op :: ·)

/-- The plan for steps with their costs. -/
def assemble (priced : List (Step × Int)) (warnings : List String) : Record.Checked Plan :=
  (operationsFrom 1 priced).andThen fun operations =>
    Plan.asRecord ⟨operations, costOf operations, warnings.eraseDups⟩

/-- Draws the cost of a step. -/
def price {σ : Type} (src : Source σ) (costs : CostModel) (step : Step) : Draw σ (Step × Int) := do
  let cost ← (costs.range step.kind).draw src
  return (step, cost)

/-- Draws the plan for the features of a statement. -/
def synthesize {σ : Type} (src : Source σ) (costs : CostModel) (f : Sql.Features) (r : Registry) :
    Draw σ Plan := do
  let priced ← (steps f r).mapM (price src costs)
  match assemble priced (allWarnings f r) with
  | .valid plan => return plan
  | .invalid issues => throw (.invalidRecord issues)

end Plan

end SqlAdvice
