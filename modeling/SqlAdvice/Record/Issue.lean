import SqlAdvice.Number.Decimal

/-!
# Issues of a record

What is wrong with the fields of a record that comes from outside. An issue has a place, the path of
field names and positions that leads to it, and a kind. A rule that binds several fields together is
an issue of the whole record and carries its text.
-/

namespace SqlAdvice.Record

open SqlAdvice.Number

/-- One step on the way to a place in a record. -/
inductive Step where
  | field (name : String)
  | index (i : Nat)
  deriving DecidableEq

/-- What is wrong at a place. -/
inductive IssueKind where
  | missing
  | notInteger
  | unreadableInteger
  | fractionalInteger
  | notFinite
  | belowMinimum
  | notText
  | tooShort
  | notListed
  | notSequence
  | notRecord
  | notPath
  /-- A rule of the whole record is broken. -/
  | rule (message : String)
  deriving DecidableEq

/-- What a kind of issue is called. -/
def IssueKind.name : IssueKind → String
  | .missing => "missing"
  | .notInteger => "int_type"
  | .unreadableInteger => "int_parsing"
  | .fractionalInteger => "int_from_float"
  | .notFinite => "finite_number"
  | .belowMinimum => "greater_than_equal"
  | .notText => "string_type"
  | .tooShort => "string_too_short"
  | .notListed => "enum"
  | .notSequence => "tuple_type"
  | .notRecord => "model_type"
  | .notPath => "path_type"
  | .rule _ => "value_error"

/-- The text that a kind of issue carries. -/
def IssueKind.text? : IssueKind → Option String
  | .rule message => some ("Value error, " ++ message)
  | _ => none

/-- One thing that is wrong with a record. -/
structure Issue where
  path : List Step
  kind : IssueKind
  deriving DecidableEq

/-- The text of a step. -/
def Step.text : Step → String
  | .field name => name
  | .index i => decimalNat i

/-- An issue on one line: its place and what is wrong there. -/
def Issue.text (i : Issue) : String :=
  let place := ".".intercalate (i.path.map Step.text)
  (if place.isEmpty then "" else place ++ ": ") ++ i.kind.text?.getD i.kind.name

/-- The issues of a record on one line. -/
def issuesText (issues : List Issue) : String :=
  "; ".intercalate (issues.map Issue.text)

end SqlAdvice.Record
