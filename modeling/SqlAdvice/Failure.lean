import SqlAdvice.Analysis
import SqlAdvice.Registry.Load
import SqlAdvice.Settings.Basic

/-!
# Failures

All that can keep the library from answering, and which of it a caller is told about as a problem.
Some failures are no problem of the library's own and are passed on as they are: bytes that are no
UTF-8 where a text is read without further ado, settings whose keys are no texts, and integers that
are too long to be written, in the name of a table or in a report.
-/

namespace SqlAdvice

/-- What keeps the library from answering. -/
inductive Failure where
  | analysis (fault : AnalysisFault)
  | registry (fault : Registry.LoadFault)
  | settings (fault : SettingsFault)
  /-- The input is no UTF-8. -/
  | input (fault : Text.Utf8Fault)
  /-- A number in a report is too long to be written. -/
  | report (fault : Number.DigitFault)

/-- What a caller is told about settings that cannot be loaded. -/
def SettingsFault.problem? : SettingsFault → Option Problem
  | .encoding _ => none
  | .keyNotText => none
  | fault => some (.settings fault.message none)

namespace Failure

/-- What a caller is told about a failure. -/
def problem? : Failure → Option Problem
  | analysis fault => some fault.problem
  | registry fault => fault.problem?
  | settings fault => fault.problem?
  | input _ => none
  | report _ => none

/-- The text of a failure. -/
def message : Failure → String
  | analysis fault => fault.problem.message
  | registry fault => fault.message
  | settings fault => fault.message
  | input fault => fault.message
  | report fault => fault.message

end Failure

end SqlAdvice
