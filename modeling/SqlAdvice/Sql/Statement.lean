import SqlAdvice.Sql.Keyword
import SqlAdvice.Text.Quoted

/-!
# Kinds of statement

A statement is classified by its first word. One spelling of `INSERT` is no kind at all: written
with the dotted capital `İ` it matches the keyword without regard to case, and its upper-case form
is still a different word.
-/

namespace SqlAdvice.Sql

open SqlAdvice.Text

/-- The kind of a statement. -/
inductive StatementKind where
  | select | insert | update | delete | unknown
  deriving DecidableEq

/-- The reported name of a kind. -/
def StatementKind.name : StatementKind → String
  | .select => "SELECT"
  | .insert => "INSERT"
  | .update => "UPDATE"
  | .delete => "DELETE"
  | .unknown => "UNKNOWN"

/-- The kinds, in the order in which they are listed. -/
def StatementKind.all : List StatementKind :=
  [.select, .insert, .update, .delete, .unknown]

/-- The kind with a given reported name. -/
def StatementKind.ofName? (name : String) : Option StatementKind :=
  StatementKind.all.find? (·.name == name)

/-- The text for a name that is no kind of statement. -/
def unknownKindMessage (word : String) : String :=
  quoted word ++ " is not a valid QueryType"

/-- The upper-case form of the letters that a keyword can be spelled with. -/
def upperLetter (c : Char) : Char :=
  if c == 'İ' then c else foldCase c

/-- The keywords that open a statement of a known kind. -/
def leadingKeywords : List (Keyword × StatementKind) :=
  [(.SELECT, .select), (.INSERT, .insert), (.UPDATE, .update), (.DELETE, .delete)]

/-- Classifies a statement by its first word. The error is a first word that reads as a keyword and
whose upper-case form is none. -/
def statementKind (sql : List Char) : Except (List Char) StatementKind :=
  let cs := skipBlanks sql
  match leadingKeywords.find? fun k => (wordPhrase? [k.1] none cs).isSome with
  | none => .ok .unknown
  | some (k, kind) =>
    let word := (cs.take k.letters.length).map upperLetter
    if word == k.letters then .ok kind else .error word

end SqlAdvice.Sql
