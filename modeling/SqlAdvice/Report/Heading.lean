import SqlAdvice.Advice.Basic
import SqlAdvice.Text.Lines

/-!
# Headings and columns of reports

The capital words under which advice is listed, and texts padded to the width of a column.
-/

namespace SqlAdvice

open SqlAdvice.Text

/-- The word for a severity in front of a piece of advice. -/
def Severity.heading : Severity → String
  | .high => "HIGH"
  | .medium => "MEDIUM"
  | .low => "LOW"

/-- The word for a category in front of a piece of advice. -/
def Category.heading : Category → String
  | .index => "INDEX"
  | .query => "QUERY"
  | .statistics => "STATISTICS"

/-- The lines of the code of a piece of advice. -/
def Recommendation.codeLines (r : Recommendation) : List String :=
  (lines r.code.toList).map String.ofList

namespace Report

/-- Spaces that fill a text up to a width. -/
def padding (width : Nat) (s : String) : String :=
  String.ofList (List.replicate (width - s.length) ' ')

/-- A text at the left of a column. -/
def alignLeft (width : Nat) (s : String) : String :=
  s ++ padding width s

/-- A text at the right of a column. -/
def alignRight (width : Nat) (s : String) : String :=
  padding width s ++ s

/-- Lines as one text. -/
def joinLines (ls : List String) : String :=
  "\n".intercalate ls

end Report

end SqlAdvice
