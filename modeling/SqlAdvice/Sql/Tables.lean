import SqlAdvice.Sql.Name

/-!
# Tables

The tables of a statement: the name after the first `FROM` that has one, then the name after every
`JOIN`, undecorated, without blank names and without repeats.
-/

namespace SqlAdvice.Sql

open SqlAdvice.Text

/-- Takes a keyword, blanks and a qualified name off the front of a text; gives the name. -/
def nameAfter? (k : Keyword) (prev : Option Char) (cs : List Char) :
    Option (List Char × List Char) :=
  if opensWord prev then do
    let cs ← k.read? cs
    let cs ← skipSomeBlanks? cs
    qualified? isFoldedNameStart cs
  else none

/-- The name after the first place where `FROM` has one. -/
def fromName? : Option Char → List Char → Option (List Char)
  | _, [] => none
  | prev, c :: cs =>
    match nameAfter? .FROM prev (c :: cs) with
    | some (name, _) => some name
    | none => fromName? (some c) cs

/-- The names after `JOIN`, where the search goes on behind a name that was found. The first
argument counts the characters that are still to be passed over. -/
def joinNames : Nat → Option Char → List Char → List (List Char)
  | _, _, [] => []
  | skip + 1, _, c :: cs => joinNames skip (some c) cs
  | 0, prev, c :: cs =>
    match nameAfter? .JOIN prev (c :: cs) with
    | some (name, rest) => name :: joinNames (cs.length - rest.length) (some c) cs
    | none => joinNames 0 (some c) cs

/-- The tables of a statement, in the order in which they are first named. -/
def tables (sql : List Char) : List (List Char) :=
  let found := (fromName? none sql).toList ++ joinNames 0 none sql
  ((found.map undecorate).filter fun name => !name.isEmpty).eraseDups

end SqlAdvice.Sql
