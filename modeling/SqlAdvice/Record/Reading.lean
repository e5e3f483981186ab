import SqlAdvice.Record.Issue
import SqlAdvice.Text.Utf8
import SqlAdvice.Value

/-!
# Reading records

Records are read from values field by field, and all that is wrong with them is reported together:
`Checked` gathers the issues of independent parts in order (its `Seq` instance), where a plain
`Except` would stop at the first. A rule that binds several fields is checked only once every field
is read (`Checked.andThen`).

The readers are lenient as to the kind of a value: an integer may come as a truth value, as a text
or as a number without a fraction. Keys that no field asks for are ignored.
-/

namespace SqlAdvice.Record

open SqlAdvice.Number SqlAdvice.Text

/-- A part of a record, or all that is wrong with it. -/
inductive Checked (α : Type) where
  | valid (value : α)
  | invalid (issues : List Issue)

namespace Checked

/-- Applies a function to the part. -/
def map {α β : Type} (f : α → β) : Checked α → Checked β
  | valid a => valid (f a)
  | invalid issues => invalid issues

/-- Combines two parts; the issues of the first come first. -/
def apply {α β : Type} : Checked (α → β) → Checked α → Checked β
  | valid f, valid a => valid (f a)
  | valid _, invalid issues => invalid issues
  | invalid issues, valid _ => invalid issues
  | invalid issues, invalid more => invalid (issues ++ more)

instance : Functor Checked where
  map := map

instance : Seq Checked where
  seq f a := apply f (a ())

/-- Goes on with a part that is right. -/
def andThen {α β : Type} (c : Checked α) (f : α → Checked β) : Checked β :=
  match c with
  | valid a => f a
  | invalid issues => invalid issues

/-- Puts a step in front of the place of every issue. -/
def under {α : Type} (step : Step) : Checked α → Checked α
  | valid a => valid a
  | invalid issues => invalid (issues.map fun i => { i with path := step :: i.path })

/-- A single issue at the place itself. -/
def fail {α : Type} (kind : IssueKind) : Checked α :=
  invalid [⟨[], kind⟩]

/-- The part, or its issues as an error. -/
def toExcept {α : Type} : Checked α → Except (List Issue) α
  | valid a => .ok a
  | invalid issues => .error issues

end Checked

/-- Reads every item of a list, with its position as a step. -/
def readItems {α : Type} (read : Value → Checked α) : Nat → List Value → Checked (List α)
  | _, [] => .valid []
  | i, v :: vs => (List.cons <$> (read v).under (.index i)) <*> readItems read (i + 1) vs

/-- Reads an integer that is at least `minimum`, where there is a minimum. -/
def readInteger (minimum : Option Int) (v : Value) : Checked Int :=
  let bounded := fun i : Int =>
    if minimum.all (· ≤ i) then .valid i else Checked.fail .belowMinimum
  let ofText := fun cs : List Char =>
    match readFieldInteger? cs with
    | some i => bounded i
    | none => .fail .unreadableInteger
  match v with
  | .bool b => bounded (if b then 1 else 0)
  | .int i => bounded i
  | .text s => ofText s.toList
  | .bytes bs =>
    match decodeUtf8 bs with
    | .ok cs => ofText cs
    | .error _ => .fail .unreadableInteger
  | .float x =>
    match Double.floor x with
    | .error _ => .fail .notFinite
    | .ok i => if Double.isIntegral x then bounded i else .fail .fractionalInteger
  | _ => .fail .notInteger

/-- Reads a number that counts something. -/
def readNat (minimum : Nat) (v : Value) : Checked Nat :=
  Int.toNat <$> readInteger (some minimum) v

/-- Reads a text. -/
def readText : Value → Checked String
  | .text s => .valid s
  | _ => .fail .notText

/-- Reads a text that is not empty. -/
def readNonEmptyText (v : Value) : Checked String :=
  (readText v).andThen fun s => if s.isEmpty then .fail .tooShort else .valid s

/-- Reads one of several named things. -/
def readNamed {α : Type} (ofName? : String → Option α) : Value → Checked α
  | .text s => match ofName? s with
    | some a => .valid a
    | none => .fail .notListed
  | _ => .fail .notListed

/-- Reads a sequence. -/
def readSequence {α : Type} (read : Value → Checked α) : Value → Checked (List α)
  | .list items => readItems read 0 items
  | .tuple items => readItems read 0 items
  | .set items => readItems read 0 items
  | _ => .fail .notSequence

/-- Reads a record from a mapping. -/
def readRecord {α : Type} (read : List (Value × Value) → Checked α) : Value → Checked α
  | .mapping pairs => read pairs
  | _ => .fail .notRecord

/-- Reads nothing from the null value and something from any other. -/
def readOptional {α : Type} (read : Value → Checked α) : Value → Checked (Option α)
  | .null => .valid none
  | v => some <$> read v

/-- Reads a field that has to be there. -/
def required {α : Type} (pairs : List (Value × Value)) (name : String)
    (read : Value → Checked α) : Checked α :=
  (match Value.lookup? pairs name with
    | some v => read v
    | none => .fail .missing).under (.field name)

/-- Reads a field that has a default. -/
def withDefault {α : Type} (pairs : List (Value × Value)) (name : String) (default : α)
    (read : Value → Checked α) : Checked α :=
  match Value.lookup? pairs name with
  | some v => (read v).under (.field name)
  | none => .valid default

/-- Tells whether every key of a mapping is a text. -/
def hasTextKeys (pairs : List (Value × Value)) : Bool :=
  pairs.all fun p => match p.1 with
    | .text _ => true
    | _ => false

end SqlAdvice.Record
