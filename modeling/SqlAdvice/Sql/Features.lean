import SqlAdvice.Sql.Clauses
import SqlAdvice.Sql.Column
import SqlAdvice.Sql.Conditions
import SqlAdvice.Sql.Joins
import SqlAdvice.Sql.Statement
import SqlAdvice.Sql.Tables
import SqlAdvice.Text.Quoted

/-!
# Features of a statement

`Features` is what the library knows about one statement. A record is consistent when no table is
listed twice and sort columns come with an `ORDER BY` text; `Features.checked` names the first rule
that a record breaks. `extract` reads the features off a text and fails on one kind of text only,
the statement whose first word is no keyword in upper case.
-/

namespace SqlAdvice.Sql

open SqlAdvice.Text

/-- The structural features of one statement. -/
structure Features where
  kind : StatementKind := .unknown
  /-- The tables, in the order in which they are first named. -/
  tables : List String := []
  joinPredicates : List String := []
  conditions : List String := []
  /-- The text of the `ORDER BY` clause. -/
  orderBy : Option String := none
  sortColumns : List String := []
  hasWildcard : Bool := false
  functionCalls : List String := []
  deriving DecidableEq

namespace Features

/-- Tells whether the statement sorts. -/
def sorts (f : Features) : Bool :=
  f.orderBy.isSome

/-- The table to which columns without a table are attributed: the first one. -/
def primaryTable? (f : Features) : Option String :=
  f.tables.head?

end Features

/-- A rule that a record of features breaks. -/
inductive FeatureFault where
  | repeatedTable (tables : List String)
  | columnsWithoutOrderBy
  deriving DecidableEq

/-- A list of strings as it is shown in a message. -/
def quotedList (items : List String) : String :=
  "[" ++ ", ".intercalate (items.map quoted) ++ "]"

/-- The text of a broken rule. -/
def FeatureFault.message : FeatureFault → String
  | .repeatedTable tables => "Extracted table list contains duplicates: " ++ quotedList tables
  | .columnsWithoutOrderBy => "Order-by columns extracted without an ORDER BY clause"

/-- Gives a record back, or the first rule that it breaks. -/
def Features.checked (f : Features) : Except FeatureFault Features :=
  if f.tables.eraseDups.length != f.tables.length then .error (.repeatedTable f.tables)
  else if f.orderBy.isNone && !f.sortColumns.isEmpty then .error .columnsWithoutOrderBy
  else .ok f

/-- Why features cannot be read off a text. -/
inductive ExtractionFault where
  /-- The first word reads as a keyword and its upper-case form is none. -/
  | unknownKind (word : String)
  | inconsistent (fault : FeatureFault)
  deriving DecidableEq

/-- The text of a failed extraction. -/
def ExtractionFault.message : ExtractionFault → String
  | .unknownKind word => unknownKindMessage word
  | .inconsistent fault => fault.message

/-- Reads the features of a statement off its text. -/
def extract (sql : String) : Except ExtractionFault Features :=
  let cs := sql.toList
  match statementKind cs with
  | .error word => .error (.unknownKind (String.ofList word))
  | .ok kind =>
    let orderBy := orderBy? cs
    let features : Features := {
      kind
      tables := (tables cs).map String.ofList
      joinPredicates := (joinPredicates cs).map String.ofList
      conditions := (conditions cs).map String.ofList
      orderBy := orderBy.map String.ofList
      sortColumns := (orderBy.elim [] sortColumns).map String.ofList
      hasWildcard := hasWildcard cs
      functionCalls := (functionCalls cs).map String.ofList }
    match features.checked with
    | .error fault => .error (.inconsistent fault)
    | .ok features => .ok features

end SqlAdvice.Sql
