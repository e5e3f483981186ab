import SqlAdvice.Number.Double
import SqlAdvice.Record.Issue
import SqlAdvice.Sql.Statement

/-!
# Causes of failure

What can make a stage of an analysis fail. A cause has a kind and a text, and both are part of the
message of the failure that it leads to.
-/

namespace SqlAdvice

open SqlAdvice.Number SqlAdvice.Text

/-- What made a stage of an analysis fail. -/
inductive Cause where
  /-- A list of draws is used up. -/
  | drawsExhausted
  /-- A word that reads as a keyword names no kind of statement. -/
  | unknownKind (word : String)
  /-- A double has no nearest integer. -/
  | rounding (fault : Double.RoundingFault)
  /-- A record breaks the rules of its type. -/
  | invalidRecord (issues : List Record.Issue)
  /-- An integer is too long to be written. -/
  | digits (fault : DigitFault)
  /-- A key is missing. -/
  | missingKey (key : String)
  /-- A failure that came from outside, by the name of its kind and its text. -/
  | other (kind text : String)
  deriving DecidableEq

/-- What the kind of a cause is called in a message. -/
def Cause.kind : Cause → String
  | .drawsExhausted => "RuntimeError"
  | .unknownKind _ => "ValueError"
  | .rounding .nan => "ValueError"
  | .rounding .infinite => "OverflowError"
  | .invalidRecord _ => "ValidationError"
  | .digits _ => "ValueError"
  | .missingKey _ => "KeyError"
  | .other kind _ => kind

/-- The text of a cause. -/
def Cause.text : Cause → String
  | .drawsExhausted => "draws exhausted"
  | .unknownKind word => Sql.unknownKindMessage word
  | .rounding .nan => "cannot convert float NaN to integer"
  | .rounding .infinite => "cannot convert float infinity to integer"
  | .invalidRecord issues => Record.issuesText issues
  | .digits fault => fault.message
  | .missingKey key => quoted key
  | .other _ text => text

/-- A cause in front of its text. -/
def Cause.described (c : Cause) : String :=
  c.kind ++ ": " ++ c.text

end SqlAdvice
