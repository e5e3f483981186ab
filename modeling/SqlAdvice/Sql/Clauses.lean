import SqlAdvice.Sql.Fragment
import SqlAdvice.Sql.Name

/-!
# Sorting, wildcards and function calls

The smaller extractors: the text of the `ORDER BY` clause, whether a statement holds a wildcard, and
the names that are called.
-/

namespace SqlAdvice.Sql

open SqlAdvice.Text

/-- The text from the first `ORDER BY` to the end, unless it is empty once cleaned. -/
def orderBy? (sql : List Char) : Option (List Char) :=
  match afterPhrase? [.ORDER, .BY] none sql with
  | none => none
  | some rest =>
    let clause := clean rest
    if clause.isEmpty then none else some clause

/-- Tells whether a statement holds a star, or two percent signs with any text between them. -/
def hasWildcard (sql : List Char) : Bool :=
  sql.contains '*' || 2 ≤ sql.count '%'

/-- Takes an identifier that touches an opening parenthesis off the front of a text, with the
parenthesis. -/
def call? (prev : Option Char) (cs : List Char) : Option (List Char × List Char) :=
  if opensWord prev then
    match identifier? isNameStart cs with
    | some (name, '(' :: rest) => some (name, rest)
    | _ => none
  else none

/-- The names that are called, in order. The first argument counts the characters that are still to
be passed over. -/
def callsFrom : Nat → Option Char → List Char → List (List Char)
  | _, _, [] => []
  | skip + 1, _, c :: cs => callsFrom skip (some c) cs
  | 0, prev, c :: cs =>
    match call? prev (c :: cs) with
    | some (name, rest) => name :: callsFrom (cs.length - rest.length) (some c) cs
    | none => callsFrom 0 (some c) cs

/-- The names that a statement calls, in order and with repeats. -/
def functionCalls (sql : List Char) : List (List Char) :=
  callsFrom 0 none sql

end SqlAdvice.Sql
