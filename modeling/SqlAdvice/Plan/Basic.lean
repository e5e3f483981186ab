import SqlAdvice.Plan.Cost

/-!
# Execution plans

A plan is a list of operations with their total cost and the warnings that go with it. A plan keeps
four rules (`Plan.checked`): operations are numbered from one; all scans come first, then the joins,
then the filters, then at most one sort; the total is the sum of the costs; and no warning is
repeated.
-/

namespace SqlAdvice

open SqlAdvice.Number

/-- One step of a plan. -/
structure Operation where
  id : Nat
  kind : OperationKind
  cost : Nat
  description : String
  deriving DecidableEq

/-- An execution plan. -/
structure Plan where
  operations : List Operation := []
  totalCost : Nat := 0
  warnings : List String := []
  deriving DecidableEq

/-- A rule that a plan breaks. -/
inductive PlanFault where
  | ids (found : List Nat)
  | order
  | sorts
  | total (stated sum : Nat)
  | warnings
  deriving DecidableEq

/-- The text of a broken rule, where its numbers can be written. -/
def PlanFault.text : PlanFault → Except DigitFault String
  | .ids found => do
    let ids ← found.mapM writeNat
    return "Operation ids must be contiguous from 1, got [" ++ ", ".intercalate ids ++ "]"
  | .order => .ok "Operations must be ordered SCAN, JOIN, FILTER, SORT"
  | .sorts => .ok "A plan holds at most one SORT operation"
  | .total stated sum => do
    let stated ← writeNat stated
    let sum ← writeNat sum
    return "total_cost " ++ stated ++ " does not match operation sum " ++ sum
  | .warnings => .ok "Plan warnings must be unique"

/-- What is said of a broken rule: its text, or why it has none. -/
def PlanFault.message (fault : PlanFault) : String :=
  match fault.text with
  | .ok text => text
  | .error fault => fault.message

/-- The sum of the costs of operations. -/
def costOf : List Operation → Nat
  | [] => 0
  | op :: ops => op.cost + costOf ops

namespace Plan

/-- The operations of one kind. -/
def operationsOf (p : Plan) (kind : OperationKind) : List Operation :=
  p.operations.filter (·.kind == kind)

/-- Gives a plan back, or the first rule that it breaks. -/
def checked (p : Plan) : Except PlanFault Plan :=
  let ids := p.operations.map (·.id)
  let ranks : List Nat := p.operations.map (·.kind.rank)
  let sum := costOf p.operations
  if ids != (List.range ids.length).map (· + 1) then .error (.ids ids)
  else if !decide (ranks.Pairwise (· ≤ ·)) then .error .order
  else if 1 < ranks.count OperationKind.sort.rank then .error .sorts
  else if p.totalCost != sum then .error (.total p.totalCost sum)
  else if p.warnings.eraseDups.length != p.warnings.length then .error .warnings
  else .ok p

end Plan

/-- Reads an operation from the fields of a record. -/
def Operation.ofFields (pairs : List (Value × Value)) : Record.Checked Operation :=
  Operation.mk <$> Record.required pairs "id" (Record.readNat 1)
    <*> Record.required pairs "type" (Record.readNamed OperationKind.ofName?)
    <*> Record.required pairs "cost" (Record.readNat 0)
    <*> Record.required pairs "description" Record.readText

/-- A checked plan as a part of a record: a broken rule is an issue of the whole record. -/
def Plan.asRecord (p : Plan) : Record.Checked Plan :=
  match p.checked with
  | .ok p => .valid p
  | .error fault => .fail (.rule fault.message)

/-- Reads a plan from the fields of a record. -/
def Plan.ofFields (pairs : List (Value × Value)) : Record.Checked Plan :=
  (Plan.mk <$> Record.withDefault pairs "operations" []
        (Record.readSequence (Record.readRecord Operation.ofFields))
      <*> Record.withDefault pairs "total_cost" 0 (Record.readNat 0)
      <*> Record.withDefault pairs "warnings" [] (Record.readSequence Record.readText)).andThen
    Plan.asRecord

end SqlAdvice
