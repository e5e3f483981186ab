import SqlAdvice.Cause
import SqlAdvice.Json.Basic

/-!
# Problems

A problem is what a caller is told about a failure. Each kind of problem has its own details: an
analysis tells the stage that failed and what made it fail, a registry where it came from, and the
settings which of them is wrong. `Problem.report` is the same in a form for other programs.
-/

namespace SqlAdvice

/-- A failure as a caller is told about it. -/
inductive Problem where
  | general (message : String)
  /-- An analysis failed at a stage. -/
  | analysis (message : String) (stage : Option String) (cause : Option Cause)
  /-- What was handed in cannot be analysed. -/
  | malformedInput (message : String)
  /-- The features of a text break their own rules. -/
  | extraction (message : String) (cause : Option Cause)
  | registry (message : String) (source : Option String)
  | settings (message : String) (key : Option String)
  deriving DecidableEq

namespace Problem

/-- What a kind of problem is called in a report. -/
def kindName : Problem → String
  | general _ => "QueryAdvisorError"
  | analysis _ _ _ => "AnalysisError"
  | malformedInput _ => "MalformedInputError"
  | extraction _ _ => "InternalExtractionError"
  | registry _ _ => "RegistryError"
  | settings _ _ => "ConfigurationError"

/-- The text of a problem. -/
def message : Problem → String
  | general m => m
  | analysis m _ _ => m
  | malformedInput m => m
  | extraction m _ => m
  | registry m _ => m
  | settings m _ => m

/-- The problem that a cause makes of a stage. -/
def ofStage (stage : String) (cause : Cause) : Problem :=
  analysis ("Analysis stage '" ++ stage ++ "' failed: " ++ cause.described) (some stage)
    (some cause)

/-- A text that may be absent, in a report. -/
def optionalText (s : Option String) : Json :=
  s.elim .null .text

/-- The stage of a failed analysis and what made it fail, in a report. -/
def stageDetails (stage : Option String) (cause : Option Cause) : List (String × Json) :=
  ("stage", optionalText stage) ::
    match cause with
    | some c => [("original_error_type", .text c.kind), ("original_error_message", .text c.text)]
    | none => []

/-- What a report tells besides the kind and the text. -/
def details : Problem → List (String × Json)
  | general _ => []
  | analysis _ stage cause => stageDetails stage cause
  | malformedInput _ => stageDetails (some "input") none
  | extraction _ cause => stageDetails (some "extract") cause
  | registry _ source => [("source", optionalText source)]
  | settings _ key => [("config_key", optionalText key)]

/-- The members of the report on a problem. -/
def report (p : Problem) : List (String × Json) :=
  ("error_type", .text p.kindName) :: ("message", .text p.message) :: p.details

end Problem

end SqlAdvice
