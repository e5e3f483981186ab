import SqlAdvice.Value

/-!
# Registries from documents

A document may hold a registry in two layouts: a mapping from tables to definitions, or a list of
mappings with the keys `table` and `indexes`. Definitions are a text or a list of texts, which is
joined to one text with a line for each of its items that is not blank. Nothing at all is the empty
registry.
-/

namespace SqlAdvice.Registry

open SqlAdvice.Text

/-- Why a document holds no registry. -/
inductive DocumentFault where
  | blankTable
  | noDefinitions (table : String)
  /-- The definitions of a table are neither a text nor a list of texts. -/
  | definitionKind (table : String)
  /-- An item of the list is no mapping with a table. -/
  | listItem
  /-- The document is neither a mapping nor a list. -/
  | layout (kind : String)
  | entry (fault : EntryFault)
  /-- The value that names a table holds an integer that is too long to be written. -/
  | digits (fault : Number.DigitFault)
  deriving DecidableEq

/-- The text of a refused document. -/
def DocumentFault.message : DocumentFault → String
  | .blankTable => blankTableMessage
  | .noDefinitions table => noDefinitionsMessage table
  | .definitionKind table =>
    "Index definitions for table '" ++ table ++ "' must be text or a list of text"
  | .listItem => "Registry list items must be objects with a 'table' key"
  | .layout kind => "Registry must be a mapping or a list, got " ++ kind
  | .entry fault => fault.message
  | .digits fault => fault.message

/-- The table that a value names: the text of the value without blanks at its ends. -/
def tableOfValue (v : Value) : Except DocumentFault String := do
  let name ← match v with
    | .null => .ok ""
    | v => (v.written.map stripped).mapError .digits
  if name.isEmpty then .error .blankTable else .ok name

/-- The text of a value that is one. -/
def textOfValue? : Value → Option String
  | .text s => some s
  | _ => none

/-- The items of a list of definitions as one text. -/
def joinDefinitions (items : List String) : String :=
  "\n".intercalate ((items.map stripped).filter (!·.isEmpty))

/-- The text of definitions, whether it is blank or not. -/
def definitionText? : Value → Option String
  | .text s => some (stripped s)
  | .list items => (items.mapM textOfValue?).map joinDefinitions
  | _ => none

/-- The definitions of a table that a value spells. -/
def definitionOfValue (table : String) (v : Value) : Except DocumentFault String :=
  match definitionText? v with
  | none => .error (.definitionKind table)
  | some s => if s.isEmpty then .error (.noDefinitions table) else .ok s

/-- The table and the definitions that two values spell. The table is looked at first. -/
def pairOfValues (table definition : Value) : Except DocumentFault (String × String) := do
  let table ← tableOfValue table
  let definition ← definitionOfValue table definition
  return (table, definition)

/-- The table and the definitions that an item of a list spells. -/
def pairOfItem : Value → Except DocumentFault (String × String)
  | .mapping pairs =>
    match Value.lookup? pairs "table" with
    | some table => pairOfValues table ((Value.lookup? pairs "indexes").getD (.text ""))
    | none => .error .listItem
  | _ => .error .listItem

/-- The registry with an entry for every pair. -/
def ofPairs (pairs : List (String × String)) : Except EntryFault Registry :=
  (pairs.mapM fun p => Entry.checked p.1 p.2).map Registry.mk

/-- The pairs of table and definitions in a document. -/
def pairsOfDocument : Value → Except DocumentFault (List (String × String))
  | .null => .ok []
  | .mapping pairs => pairs.mapM fun p => pairOfValues p.1 p.2
  | .list items => items.mapM pairOfItem
  | v => .error (.layout v.kindName)

/-- The registry that a document holds. -/
def ofDocument (v : Value) : Except DocumentFault Registry := do
  let pairs ← pairsOfDocument v
  (ofPairs pairs).mapError .entry

end SqlAdvice.Registry
