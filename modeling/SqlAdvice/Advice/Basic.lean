import SqlAdvice.Record.Reading

/-!
# Recommendations

A recommendation says what to change and why, with a piece of code that shows the change. It has a
category and a severity, and severities are ordered with the most urgent first.
-/

namespace SqlAdvice

/-- What a recommendation is about. -/
inductive Category where
  | index | query | statistics
  deriving DecidableEq

namespace Category

/-- The reported name of a category. -/
def name : Category → String
  | index => "index"
  | query => "query"
  | statistics => "statistics"

/-- The category with a given reported name. -/
def ofName? (name : String) : Option Category :=
  [index, query, statistics].find? (·.name == name)

end Category

/-- How urgent a recommendation is. -/
inductive Severity where
  | high | medium | low
  deriving DecidableEq

namespace Severity

/-- The reported name of a severity. -/
def name : Severity → String
  | high => "high"
  | medium => "medium"
  | low => "low"

/-- The place of a severity, the most urgent first. -/
def rank : Severity → Nat
  | high => 0
  | medium => 1
  | low => 2

/-- The severities, the most urgent first. -/
def all : List Severity :=
  [high, medium, low]

/-- The severity with a given reported name. -/
def ofName? (name : String) : Option Severity :=
  all.find? (·.name == name)

/-- Severities in order, the most urgent first. -/
def sorted (severities : List Severity) : List Severity :=
  severities.mergeSort fun a b => a.rank ≤ b.rank

end Severity

/-- One piece of advice. -/
structure Recommendation where
  category : Category
  severity : Severity
  description : String
  code : String := ""
  deriving DecidableEq

/-- Reads a recommendation from the fields of a record. -/
def Recommendation.ofFields (pairs : List (Value × Value)) : Record.Checked Recommendation :=
  Recommendation.mk <$> Record.required pairs "type" (Record.readNamed Category.ofName?)
    <*> Record.required pairs "severity" (Record.readNamed Severity.ofName?)
    <*> Record.required pairs "description" Record.readNonEmptyText
    <*> Record.withDefault pairs "code" "" Record.readText

end SqlAdvice
