import SqlAdvice.Draw.Source
import SqlAdvice.Record.Reading
import SqlAdvice.Sql.Features

/-!
# Performance statistics

Statistics are drawn within fixed ranges and shaped by the statement: joins, conditions and sorting
make it slower. Six numbers are drawn, in the order of the record's fields except that the estimated
time comes first; the processor time follows from the estimated time.
-/

namespace SqlAdvice

open SqlAdvice.Number

/-- The performance counters of one analysis. Times are milliseconds, memory is kilobytes. -/
structure Statistics where
  estimatedRows : Nat
  actualRows : Nat
  estimatedTime : Nat
  actualTime : Nat
  memoryGrant : Nat
  cpuTime : Nat
  logicalReads : Nat
  deriving DecidableEq

namespace Statistics

/-- One counter: the key it is stored under, its label, its unit and how it is read off. -/
structure Counter where
  key : String
  label : String
  unit : String
  value : Statistics → Nat

/-- The counters, in the order in which they are listed. -/
def counters : List Counter := [
  ⟨"estimated_rows", "Estimated Rows", "", estimatedRows⟩,
  ⟨"actual_rows", "Actual Rows", "", actualRows⟩,
  ⟨"estimated_execution_time", "Estimated Time", "ms", estimatedTime⟩,
  ⟨"actual_execution_time", "Actual Time", "ms", actualTime⟩,
  ⟨"memory_grant", "Memory Grant", "KB", memoryGrant⟩,
  ⟨"cpu_time", "CPU Time", "ms", cpuTime⟩,
  ⟨"logical_reads", "Logical Reads", "", logicalReads⟩]

/-- A counter of some statistics as it is displayed, with its unit. -/
def Counter.display (c : Counter) (s : Statistics) : Except DigitFault String :=
  (writeNat (c.value s)).map (· ++ c.unit)

/-- Reads statistics from the fields of a record. -/
def ofFields (pairs : List (Value × Value)) : Record.Checked Statistics :=
  let field := fun name => Record.required pairs name (Record.readNat 0)
  Statistics.mk <$> field "estimated_rows" <*> field "actual_rows"
    <*> field "estimated_execution_time" <*> field "actual_execution_time"
    <*> field "memory_grant" <*> field "cpu_time" <*> field "logical_reads"

/-- The time that the shape of a statement adds: thirty for a join, ten for a condition, forty for
sorting. -/
def shapeTime (f : Sql.Features) : Nat :=
  30 * f.joinPredicates.length + 10 * f.conditions.length + (if f.sorts then 40 else 0)

/-- Rounds a time; a double without a nearest integer is a failure. -/
def roundTime {σ : Type} (x : Float) : Draw σ Int :=
  match Double.roundHalfUp x with
  | .ok i => return i
  | .error fault => throw (.rounding fault)

/-- Draws the statistics of a statement. -/
def synthesize {σ : Type} (src : Source σ) (f : Sql.Features) : Draw σ Statistics := do
  let estimatedTime := (← src.integer 50 149) + shapeTime f
  let estimatedRows ← src.integer 1000 9999
  let actualRows ← src.integer 1000 9999
  let actualTime ← roundTime (Float.ofInt estimatedTime * (← src.real 0.8 1.2))
  let memoryGrant ← src.integer 512 1535
  let cpuTime ← roundTime (Float.ofInt estimatedTime * 0.7)
  let logicalReads ← src.integer 100 1099
  let field := fun (name : String) (i : Int) => (Value.text name, Value.int i)
  match ofFields [
    field "estimated_rows" estimatedRows,
    field "actual_rows" actualRows,
    field "estimated_execution_time" estimatedTime,
    field "actual_execution_time" actualTime,
    field "memory_grant" memoryGrant,
    field "cpu_time" cpuTime,
    field "logical_reads" logicalReads] with
  | .valid statistics => return statistics
  | .invalid issues => throw (.invalidRecord issues)

end Statistics

end SqlAdvice
