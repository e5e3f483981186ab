import SqlAdvice.Console.Markup
import SqlAdvice.Demo
import SqlAdvice.Report.Text

/-!
# What is printed on the console

The console is written to item by item: lines with markup, texts as they are, JSON, panels and
tables. Titles, panels and cells hold markup. `Item.display` is the plain form of an item.

An analysis is printed as a table of operations, a panel of warnings, the advice, and a table of
statistics; or as a report in one of the other formats (`analysisItems`). Texts that come from the
statement are escaped wherever markup is read. Printing ends at a number that is too long to be
written.
-/

namespace SqlAdvice.Console

open SqlAdvice.Number SqlAdvice.Text

/-! ## Items -/

/-- The side to which a column is aligned. -/
inductive Side where
  | left | right
  deriving DecidableEq

/-- The name of a side. -/
def Side.name : Side → String
  | .left => "left"
  | .right => "right"

/-- One item on the console. -/
inductive Item where
  | markup (s : String)
  /-- A text without markup. -/
  | text (s : String)
  | json (s : String)
  | panel (body title border : String)
  | table (title : String) (columns : List (String × Side)) (rows : List (List String))
  deriving DecidableEq

/-- The plain form of an item. -/
def Item.display : Item → String
  | .markup s => Markup.plain s
  | .text s => s
  | .json s => s
  | .panel body title _ => Report.joinLines ["== " ++ title ++ " ==", Markup.plain body]
  | .table title columns rows =>
    let row := fun cells : List String => " | ".intercalate (cells.map Markup.plain)
    Report.joinLines (title :: row (columns.map (·.1)) :: rows.map row)

/-! ## An analysis -/

/-- The row for an operation. -/
def operationCells (op : Operation) : Except DigitFault (List String) := do
  let id ← writeNat op.id
  let cost ← writeNat op.cost
  return [id, op.kind.name, cost, Markup.escape op.description]

/-- The table of operations. -/
def planTable (p : Plan) : Except DigitFault Item := do
  let total ← writeNat p.totalCost
  let rows ← p.operations.mapM operationCells
  return .table ("Query Execution Plan (total cost " ++ total ++ ")")
    [("#", .right), ("Operation", .left), ("Cost", .right), ("Description", .left)] rows

/-- The panel of warnings, where there are any. -/
def warningPanel (p : Plan) : List Item :=
  if p.warnings.isEmpty then []
  else [.panel (Report.joinLines (p.warnings.map fun w => "- " ++ Markup.escape w)) "Warnings"
    "yellow"]

/-- The line in front of the advice. -/
def adviceHead (rs : List Recommendation) : Item :=
  if rs.isEmpty then .markup "\n[green]No recommendations.[/green]\n"
  else .markup ("\n[bold]" ++ decimalNat rs.length ++ " recommendation(s):[/bold]\n")

/-- The style of a severity. -/
def severityStyle : Severity → String
  | .high => "red bold"
  | .medium => "yellow"
  | .low => "blue"

/-- A text in a style. -/
def styled (style s : String) : String :=
  "[" ++ style ++ "]" ++ s ++ "[/" ++ style ++ "]"

/-- A line of code; comments are dimmed, and empty lines are left out. -/
def codeItem (line : List Char) : Option Item :=
  let styledAs := fun style =>
    some (.markup ("   " ++ styled style (Markup.escape (String.ofList line))))
  match line with
  | '-' :: '-' :: _ => styledAs "dim"
  | [] => none
  | _ => styledAs "green"

/-- The items for a piece of advice. -/
def adviceItems (r : Recommendation) : List Item :=
  .markup (styled (severityStyle r.severity) ("[" ++ r.severity.heading ++ "]") ++ " " ++
      styled "bold" r.category.heading ++ " " ++ Markup.escape r.description) ::
    (pieces (· == '\n') r.code.toList).filterMap codeItem ++ [.markup ""]

/-- The row for a counter. -/
def counterCells (s : Statistics) (c : Statistics.Counter) : Except DigitFault (List String) :=
  (c.display s).map fun value => [c.label, value]

/-- The table of statistics. -/
def statisticsTable (s : Statistics) : Except DigitFault Item :=
  (Statistics.counters.mapM (counterCells s)).map
    (.table "Performance Statistics" [("Statistic", .left), ("Value", .right)])

/-- What is printed, and why the printing ends early if it does. -/
structure Printout where
  items : List Item := []
  fault : Option DigitFault := none
  deriving DecidableEq

namespace Printout

/-- Prints an item that may not be written, and goes on behind it. -/
def next (item : Except DigitFault Item) (rest : Printout) : Printout :=
  match item with
  | .ok item => { rest with items := item :: rest.items }
  | .error fault => { fault := some fault }

/-- Prints items in front. -/
def behind (items : List Item) (rest : Printout) : Printout :=
  { rest with items := items ++ rest.items }

end Printout

/-- An analysis as it is printed, item by item. -/
def analysisItems : ReportFormat → Analysis → Printout
  | .json, a => { items := [.json (Report.json a)] }
  | .markdown, a => .next ((Report.Markdown.render a).map .text) {}
  | .text, a =>
    .next (planTable a.plan) <|
      .behind (warningPanel a.plan ++ adviceHead a.recommendations ::
        a.recommendations.flatMap adviceItems) <|
      .next (statisticsTable a.statistics) {}

/-! ## The demonstration, and errors -/

/-- What is printed in front of the analysis of the demonstration. -/
def demoItems : ReportFormat → List Item
  | .text => [
      .panel (Markup.escape Demo.query) "Demo query" "cyan",
      .table "Demo index registry" [("Table", .left), ("Index definitions", .left)]
        (Demo.registry.entries.map fun e => [e.table, Markup.escape e.definition])]
  | _ => []

/-- An error as it is printed. -/
def errorItem (message : String) : Item :=
  .markup ("[red]Error:[/red] " ++ message)

end SqlAdvice.Console
