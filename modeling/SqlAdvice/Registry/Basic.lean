import SqlAdvice.Text.Blank
import SqlAdvice.Text.Lines
import SqlAdvice.Text.Lowercase

/-!
# The index registry

The registry holds what is known of the schema: an ordered list of entries, each a table name with
the text of its index definitions. Table names are compared without regard to letter case, and
definitions are never parsed: a column is *covered* for some tables when its name occurs in the
definition of one of their entries.

A registry is a value; `add?` and `without` give a new one.
-/

namespace SqlAdvice

open SqlAdvice.Text

/-- The index definitions registered for one table. -/
structure Registry.Entry where
  table : String
  definition : String
  deriving DecidableEq

/-- An ordered list of entries. -/
structure Registry where
  entries : List Registry.Entry := []
  deriving DecidableEq

namespace Registry

/-- Why an entry is refused. -/
inductive EntryFault where
  | blankTable
  | noDefinitions (table : String)
  deriving DecidableEq

/-- The text for a table without definitions. -/
def noDefinitionsMessage (table : String) : String :=
  "Table '" ++ table ++ "' has no index definitions"

/-- The text for a table without a name. -/
def blankTableMessage : String :=
  "Registry table name is blank"

/-- The text of a refused entry. -/
def EntryFault.message : EntryFault → String
  | .blankTable => blankTableMessage
  | .noDefinitions table => noDefinitionsMessage table

/-- An entry with both texts stripped, refused when one of them is blank. The table is looked at
first. -/
def Entry.checked (table definition : String) : Except EntryFault Entry :=
  let table := stripped table
  let definition := stripped definition
  if table.isEmpty then .error .blankTable
  else if definition.isEmpty then .error (.noDefinitions table)
  else .ok ⟨table, definition⟩

/-- Tells whether an entry is registered for a table. -/
def Entry.isFor (e : Entry) (table : String) : Bool :=
  sameName e.table table

/-- Tells whether the definitions of an entry mention a column. -/
def Entry.mentions (e : Entry) (column : String) : Bool :=
  occursIn column.toList e.definition.toList

/-- The registry without entries. -/
def empty : Registry := {}

/-- The number of entries. -/
def size (r : Registry) : Nat :=
  r.entries.length

/-- The table names of the entries, in order. -/
def tableNames (r : Registry) : List String :=
  r.entries.map (·.table)

/-- The first entry for a table. -/
def find? (r : Registry) (table : String) : Option Entry :=
  r.entries.find? (·.isFor table)

/-- Tells whether there is an entry for a table. -/
def hasEntry (r : Registry) (table : String) : Bool :=
  (r.find? table).isSome

/-- The registry with one more entry at its end. -/
def add? (r : Registry) (table definition : String) : Except EntryFault Registry :=
  (Entry.checked table definition).map fun e => ⟨r.entries ++ [e]⟩

/-- The registry without the entries for a table. -/
def without (r : Registry) (table : String) : Registry :=
  ⟨r.entries.filter fun e => !e.isFor table⟩

/-- Tells whether a column is covered for some tables. -/
def covers (r : Registry) (column : String) (tables : List String) : Bool :=
  r.entries.any fun e => tables.any e.isFor && e.mentions column

/-- The pairs of table and definition, the first one for every table name as it is written. -/
def toPairs (r : Registry) : List (String × String) :=
  (r.entries.eraseDupsBy fun a b => a.table == b.table).map fun e => (e.table, e.definition)

end Registry

end SqlAdvice
