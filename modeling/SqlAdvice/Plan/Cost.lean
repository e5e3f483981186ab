import SqlAdvice.Draw.Source
import SqlAdvice.Record.Reading

/-!
# Costs of operations

Every kind of operation has a range of costs: a base and a spread, the number of costs in the range.
A cost is drawn from the range with equal chances. `CostModel` gives each kind its range.
-/

namespace SqlAdvice

/-- The kinds of operation, in the order in which a plan lists them. -/
inductive OperationKind where
  | scan | join | filter | sort
  deriving DecidableEq

namespace OperationKind

/-- The reported name of a kind. -/
def name : OperationKind → String
  | scan => "SCAN"
  | join => "JOIN"
  | filter => "FILTER"
  | sort => "SORT"

/-- The kinds, in the order in which a plan lists them. -/
def all : List OperationKind :=
  [scan, join, filter, sort]

/-- The place of a kind in that order. -/
def rank : OperationKind → Nat
  | scan => 0
  | join => 1
  | filter => 2
  | sort => 3

/-- The kind with a given reported name. -/
def ofName? (name : String) : Option OperationKind :=
  all.find? (·.name == name)

end OperationKind

/-- The costs from `base` on, `spread` of them. -/
structure CostRange where
  base : Nat
  spread : Nat
  spread_pos : 0 < spread := by decide
  deriving DecidableEq

namespace CostRange

/-- The greatest cost of a range. -/
def maximum (r : CostRange) : Nat :=
  r.base + r.spread - 1

/-- Draws a cost from a range. -/
def draw {σ : Type} (src : Source σ) (r : CostRange) : Draw σ Int := do
  let i ← src.integer 0 (r.spread - 1)
  return r.base + i

/-- Reads a range from the fields of a record. -/
def ofFields (pairs : List (Value × Value)) : Record.Checked CostRange :=
  (Prod.mk <$> Record.required pairs "base" (Record.readNat 0)
      <*> Record.required pairs "spread" (Record.readNat 1)).andThen fun (base, spread) =>
    if h : 0 < spread then .valid ⟨base, spread, h⟩ else .fail .belowMinimum

/-- The range with a base and a spread, or what is wrong with them. -/
def ofIntegers (base spread : Int) : Record.Checked CostRange :=
  ofFields [(.text "base", .int base), (.text "spread", .int spread)]

/-- The range of a kind that is given no other. -/
def standard : OperationKind → CostRange
  | .scan => { base := 30, spread := 30 }
  | .join => { base := 20, spread := 20 }
  | .filter => { base := 10, spread := 10 }
  | .sort => { base := 15, spread := 15 }

end CostRange

/-- The range of costs of every kind of operation. -/
structure CostModel where
  scan : CostRange := .standard .scan
  join : CostRange := .standard .join
  filter : CostRange := .standard .filter
  sort : CostRange := .standard .sort
  deriving DecidableEq

/-- The range for a kind. -/
def CostModel.range (m : CostModel) : OperationKind → CostRange
  | .scan => m.scan
  | .join => m.join
  | .filter => m.filter
  | .sort => m.sort

/-- Reads a cost model from the fields of a record; a range that is not given has its default. -/
def CostModel.ofFields (pairs : List (Value × Value)) : Record.Checked CostModel :=
  let default : CostModel := {}
  let range := fun name fallback =>
    Record.withDefault pairs name fallback (Record.readRecord CostRange.ofFields)
  CostModel.mk <$> range "scan" default.scan <*> range "join" default.join
    <*> range "filter" default.filter <*> range "sort" default.sort

end SqlAdvice
