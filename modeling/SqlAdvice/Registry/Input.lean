import SqlAdvice.Value

/-!
# Registries from values

A caller may hand in a registry in several shapes: a registry, a mapping from tables to definitions,
any sequence of entries or pairs of texts, or nothing. `Registry.ofValue` turns all of them into a
registry, stripping and checking every entry unless it is given a registry, and names the first item
that it refuses.
-/

namespace SqlAdvice.Registry

/-- Why a value is no registry. -/
inductive InputFault where
  /-- An item is neither an entry nor a pair. -/
  | notPair (item : String)
  /-- The parts of a pair are not both texts; given are their kinds. -/
  | pairKinds (table definition : String)
  | entry (fault : EntryFault)
  /-- A text cannot be a registry. -/
  | text
  | unsupported (kind : String)
  /-- An item that is neither an entry nor a pair holds an integer that is too long to be written. -/
  | digits (fault : Number.DigitFault)
  deriving DecidableEq

/-- The text of a refused registry. -/
def InputFault.message : InputFault → String
  | .notPair item => "Registry items must be (table, definitions) pairs, got " ++ item
  | .pairKinds table definition =>
    "Registry pairs must be (str, str), got (" ++ table ++ ", " ++ definition ++ ")"
  | .entry fault => fault.message
  | .text => "Registry must be a mapping or pairs, not text"
  | .unsupported kind => "Unsupported registry type: " ++ kind
  | .digits fault => fault.message

/-- The fault of an item that is neither an entry nor a pair. Its text is part of the fault where it
can be written. -/
def InputFault.ofItem (item : Value) : InputFault :=
  match item.shown with
  | .ok shown => .notPair shown
  | .error fault => .digits fault

/-- The entry for the two parts of a pair. -/
def entryOfPair (table definition : Value) : Except InputFault Entry :=
  match table, definition with
  | .text table, .text definition => (Entry.checked table definition).mapError .entry
  | table, definition => .error (.pairKinds table.kindName definition.kindName)

/-- The entry for one item of a sequence. -/
def entryOfItem : Value → Except InputFault Entry
  | .entry e => (Entry.checked e.table e.definition).mapError .entry
  | .tuple [table, definition] => entryOfPair table definition
  | .list [table, definition] => entryOfPair table definition
  | item => .error (.ofItem item)

/-- The registry for a sequence of items. -/
def ofItems (items : List Value) : Except InputFault Registry :=
  (items.mapM entryOfItem).map Registry.mk

/-- The registry that a value stands for. -/
def ofValue : Value → Except InputFault Registry
  | .null => .ok empty
  | .registry r => .ok r
  | .mapping pairs => ofItems (pairs.map fun p => .tuple [p.1, p.2])
  | .text _ => .error .text
  | .bytes _ => .error .text
  | .list items => ofItems items
  | .tuple items => ofItems items
  | .set items => ofItems items
  | .stream items => ofItems items
  | v => .error (.unsupported v.kindName)

/-- The registry with every entry stripped and checked again. -/
def rebuilt (r : Registry) : Except InputFault Registry :=
  ofItems (r.entries.map .entry)

end SqlAdvice.Registry
