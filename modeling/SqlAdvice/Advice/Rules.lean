import SqlAdvice.Advice.Basic
import SqlAdvice.Plan.Synthesis

/-!
# Advice from features, plan and registry

Advice comes in a fixed order: tables without an entry, join columns, filter columns and sort
columns that the registry does not cover, wildcards, function calls, and last the cost of the whole
plan. That order is also the order of severity. Every piece of advice is given once.

Columns are not bound to tables by a schema, so each is attributed to the first table of the
statement.

The advice for a plan of high cost names the cost. There is no advice at all when the cost is too
long to be written.
-/

namespace SqlAdvice.Advice

open SqlAdvice.Number SqlAdvice.Text

/-! ## Names of indexes -/

/-- A text with an underscore in place of every run of characters that cannot stand in a name. -/
def joinWords : List Char → List Char
  | [] => []
  | c :: cs =>
    if isWord c then c :: joinWords cs
    else if cs.head?.any fun d => !isWord d then joinWords cs
    else '_' :: joinWords cs

/-- A text as a part of an index name: joined words without underscores at the ends. -/
def namePart (s : String) : String :=
  String.ofList (dropTailWhile (· == '_') ((joinWords s.toList).dropWhile (· == '_')))

/-- The name of an index: a tag and the names it is for. -/
def indexName (tag : String) (parts : List String) : String :=
  "_".intercalate (tag :: parts.map namePart)

/-! ## The pieces of advice -/

/-- The advice for a table without an entry. -/
def primaryKeyIndex (table : String) : Recommendation where
  category := .index
  severity := .high
  description :=
    "Table " ++ table ++ " has no indexes; create a clustered primary key index on " ++ table
  code :=
    "CREATE CLUSTERED INDEX " ++ indexName "PK" [table] ++ " ON " ++ table ++ "(" ++
      String.ofList (afterLast '.' table.toList) ++ "ID);"

/-- The severity of a column that is not covered, by what it is used for. -/
def useSeverity : Plan.ColumnUse → Severity
  | .join => .high
  | .filter => .medium
  | .sort => .medium

/-- What an index on a column is for. -/
def usePurpose : Plan.ColumnUse → String
  | .join => "to support the join"
  | .filter => "to speed up filtering"
  | .sort => "to avoid an explicit sort"

/-- The advice for a column that is not covered, attributed to a table where there is one. -/
def columnIndex (owner : Option String) (use : Plan.ColumnUse) (column : String) :
    Recommendation where
  category := .index
  severity := useSeverity use
  description :=
    "Create a non-clustered index on " ++
      (match owner with
        | some table => table ++ "." ++ column
        | none => "column " ++ column) ++ " " ++ usePurpose use
  code :=
    "CREATE NONCLUSTERED INDEX " ++ indexName "IX" (owner.toList ++ [column]) ++ " ON " ++
      owner.getD "<table>" ++ "(" ++ column ++ ");"

/-- The advice for a wildcard. -/
def wildcardAdvice : Recommendation where
  category := .query
  severity := .medium
  description :=
    "Avoid leading wildcards in LIKE patterns; a pattern starting with '%' " ++
      "cannot use an index seek and scans every row"
  code := "Change: WHERE Column LIKE '%value%'\nTo: WHERE Column LIKE 'value%'"

/-- The advice for the functions that are called, each named once. -/
def functionAdvice (functions : List String) : Recommendation where
  category := .query
  severity := .medium
  description :=
    "Functions (" ++ ", ".intercalate functions.eraseDups ++
      ") applied to columns prevent index usage; " ++
      "compare the bare column against a transformed value instead"
  code := "Change: WHERE UPPER(LastName) = 'SMITH'\nTo: WHERE LastName = 'Smith'"

/-- The advice for a plan of high cost, which is written `cost`. -/
def costReview (cost : String) : Recommendation where
  category := .query
  severity := .low
  description :=
    "Estimated plan cost is " ++ cost ++ "; review the query structure " ++
      "for joins, filters or sorts that can be removed or simplified"
  code :=
    "-- Select only the columns you need, filter early,\n" ++
      "-- and drop ORDER BY when callers do not rely on it"

/-! ## All advice -/

/-- The advice that the features and the registry give cause to, with repeats. -/
def structural (f : Sql.Features) (r : Registry) : List Recommendation :=
  (f.tables.filter fun t => !r.hasEntry t).map primaryKeyIndex ++
  f.joinPredicates.flatMap (fun p =>
    (uncoveredJoinColumns r f.tables p).map (columnIndex f.primaryTable? .join)) ++
  f.conditions.flatMap (fun c =>
    (uncoveredFilterColumn? r f.tables c).toList.map (columnIndex f.primaryTable? .filter)) ++
  f.orderBy.toList.flatMap (fun o =>
    (uncoveredSortColumns r f.tables o).map (columnIndex f.primaryTable? .sort)) ++
  (if f.hasWildcard then [wildcardAdvice] else []) ++
  (if f.functionCalls.isEmpty then [] else [functionAdvice f.functionCalls])

/-- The advice that the cost of a plan gives cause to: a plan costs too much when its total lies above
the threshold. -/
def reviews (threshold : Int) (plan : Plan) : Except DigitFault (List Recommendation) :=
  if threshold < plan.totalCost then
    (writeNat plan.totalCost).map fun cost => [costReview cost]
  else .ok []

/-- The advice for a statement, its plan and a registry. -/
def recommend (threshold : Int) (f : Sql.Features) (plan : Plan) (r : Registry) :
    Except DigitFault (List Recommendation) :=
  (reviews threshold plan).map fun review => (structural f r ++ review).eraseDups

end SqlAdvice.Advice
