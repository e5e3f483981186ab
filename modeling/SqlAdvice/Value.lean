import SqlAdvice.Calendar
import SqlAdvice.Number.Double
import SqlAdvice.Registry.Basic
import SqlAdvice.Text.Quoted

/-!
# Values

A `Value` is what comes from outside before anything is known about its shape: the content of a
document, a query or a registry handed in by a caller, the fields of a record. `kindName` and
`shown` are how a value appears in a message, and `written` how it reads as a name. A value has
neither text when an integer in it is too long to be written.

Mappings keep the order in which their keys first came; `insert` replaces the value of a key that is
already there.
-/

namespace SqlAdvice

open SqlAdvice.Number SqlAdvice.Text

/-- A value of any shape. -/
inductive Value where
  | null
  | bool (b : Bool)
  | int (i : Int)
  | float (x : Float)
  | text (s : String)
  | bytes (bs : List UInt8)
  | date (d : Date)
  | dateTime (t : DateTime)
  | list (items : List Value)
  | tuple (items : List Value)
  /-- The items in the order in which the set hands them out. -/
  | set (items : List Value)
  | mapping (pairs : List (Value × Value))
  /-- Items that can be gone through once. -/
  | stream (items : List Value)
  | entry (e : Registry.Entry)
  | registry (r : Registry)
  /-- A value of which only the kind and the text matter: one of another kind, or a list or a
  mapping that contains itself. -/
  | other (kind : String) (spelling : Except DigitFault String)

namespace Value

/-- What the kind of a value is called in a message. -/
def kindName : Value → String
  | null => "NoneType"
  | bool _ => "bool"
  | int _ => "int"
  | float _ => "float"
  | text _ => "str"
  | bytes _ => "bytes"
  | date _ => "date"
  | dateTime _ => "datetime"
  | list _ => "list"
  | tuple _ => "tuple"
  | set _ => "set"
  | mapping _ => "dict"
  | stream _ => "iterator"
  | entry _ => "IndexRegistryEntry"
  | registry _ => "IndexRegistrySnapshot"
  | other kind _ => kind

/-- The text of an entry in a message. -/
def shownEntry (e : Registry.Entry) : String :=
  "IndexRegistryEntry(table_name=" ++ quoted e.table ++ ", index_definition=" ++
    quoted e.definition ++ ")"

/-- Items between parentheses; a single item is followed by a comma. -/
def shownTuple (items : List String) : String :=
  match items with
  | [item] => "(" ++ item ++ ",)"
  | items => "(" ++ ", ".intercalate items ++ ")"

/-- Items or pairs between braces. -/
def shownBraces (items : List String) : String :=
  "\x7b" ++ ", ".intercalate items ++ "\x7d"

mutual

/-- The text of a value in a message. -/
def shown : Value → Except DigitFault String
  | null => .ok "None"
  | bool b => .ok (if b then "True" else "False")
  | int i => write i
  | float x => .ok (Double.text x)
  | text s => .ok (quoted s)
  | bytes bs => .ok (quotedBytes bs)
  | date d => .ok d.shown
  | dateTime t => .ok t.shown
  | list items => (shownItems items).map fun items => "[" ++ ", ".intercalate items ++ "]"
  | tuple items => (shownItems items).map shownTuple
  | set [] => .ok "set()"
  | set (item :: items) => (shownItems (item :: items)).map shownBraces
  | mapping pairs => (shownPairs pairs).map shownBraces
  | stream _ => .ok "<iterator>"
  | entry e => .ok (shownEntry e)
  | registry r =>
    .ok ("IndexRegistrySnapshot(entries=" ++ shownTuple (r.entries.map shownEntry) ++ ")")
  | other _ spelling => spelling

/-- The texts of values. -/
def shownItems : List Value → Except DigitFault (List String)
  | [] => .ok []
  | v :: vs => do
    let item ← shown v
    let items ← shownItems vs
    return item :: items

/-- The texts of pairs of a key and a value. -/
def shownPairs : List (Value × Value) → Except DigitFault (List String)
  | [] => .ok []
  | (k, v) :: rest => do
    let key ← shown k
    let item ← shown v
    let items ← shownPairs rest
    return (key ++ ": " ++ item) :: items

end

/-- A value as it reads on its own: a text is itself, a date or a time is as people write it, and
anything else is as in a message. -/
def written : Value → Except DigitFault String
  | text s => .ok s
  | date d => .ok d.text
  | dateTime t => .ok t.text
  | v => v.shown

/-- The number that a value stands for, where a truth value counts as 0 or 1. -/
def integer? : Value → Option Int
  | bool b => some (if b then 1 else 0)
  | int i => some i
  | float x => if Double.isIntegral x then (Double.floor x).toOption else none
  | _ => none

mutual

/-- Tells whether two values are the same key. Numbers are compared by value whatever their kind, one
that is not a number is the same as another such one, and times are compared as instants. What may
not be a key is the same as none. -/
def sameKey (a b : Value) : Bool :=
  match a, b with
  | null, null => true
  | float x, float y => x == y || (x.isNaN && y.isNaN)
  | text s, text t => s == t
  | bytes bs, bytes cs => bs == cs
  | date d, date e => d == e
  | dateTime t, dateTime u => t.isSame u
  | entry e, entry f => e == f
  | registry r, registry q => r == q
  | tuple xs, tuple ys => sameKeys xs ys
  | a, b =>
    match a.integer?, b.integer? with
    | some i, some j => i == j
    | _, _ => false

/-- Tells whether values are the same keys, one by one. -/
def sameKeys : List Value → List Value → Bool
  | [], [] => true
  | x :: xs, y :: ys => sameKey x y && sameKeys xs ys
  | _, _ => false

end

/-- Adds a pair to a mapping. A key that is already there keeps its place and gets the new value. -/
def insert (pairs : List (Value × Value)) (key value : Value) : List (Value × Value) :=
  if pairs.any fun p => p.1.sameKey key then
    pairs.map fun p => if p.1.sameKey key then (p.1, value) else p
  else pairs ++ [(key, value)]

/-- The mapping that pairs written one after another make. -/
def ofPairs (pairs : List (Value × Value)) : Value :=
  mapping (pairs.foldl (fun acc p => insert acc p.1 p.2) [])

/-- The value of a text key in the pairs of a mapping. -/
def lookup? (pairs : List (Value × Value)) (key : String) : Option Value :=
  (pairs.find? fun p => match p.1 with
    | text s => s == key
    | _ => false).map (·.2)

end Value

end SqlAdvice
