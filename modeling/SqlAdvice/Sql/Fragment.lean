import SqlAdvice.Text.Blank

/-!
# Fragments of a statement

The text of a clause, a predicate or a condition is cleaned before it is reported: blanks are
squeezed, statement terminators at the end go, and blanks that they leave at the end go with them
(`clean`).

Where a fragment ends depends on the literals around it. A literal runs from a single or double quote
to the next quote of the same kind, or to the end of the text. Reading from left to right, the state
is the quote of the literal that is open (`Literal.next`); `Literal.flags` tells for every character
whether it belongs to a literal, its quotes included. A doubled quote closes the literal and opens it
again at once, so no character of such a literal goes unflagged.
-/

namespace SqlAdvice.Sql

open SqlAdvice.Text

/-- The reported form of a fragment. -/
def clean (cs : List Char) : List Char :=
  trim (dropTailWhile (· == ';') (squeeze cs))

/-- The reported forms of fragments, without the empty ones. -/
def cleanAll (fragments : List (List Char)) : List (List Char) :=
  (fragments.map clean).filter fun cs => !cs.isEmpty

namespace Literal

/-- Holds of the two characters that open a literal. -/
def isQuote (c : Char) : Bool :=
  c == '\'' || c == '"'

/-- The open literal after one more character. -/
def next (quote : Option Char) (c : Char) : Option Char :=
  match quote with
  | some q => if c == q then none else some q
  | none => if isQuote c then some c else none

/-- Tells whether a character belongs to a literal, given the literal open before it. -/
def covers (quote : Option Char) (c : Char) : Bool :=
  quote.isSome || isQuote c

/-- One flag a character: it belongs to a literal. -/
def flags (quote : Option Char) : List Char → List Bool
  | [] => []
  | c :: cs => covers quote c :: flags (next quote c) cs

/-- The literal that is open at the end of a text. -/
def openAfter (quote : Option Char) (cs : List Char) : Option Char :=
  cs.foldl next quote

theorem length_flags (quote : Option Char) (cs : List Char) :
    (flags quote cs).length = cs.length := by
  induction cs generalizing quote with
  | nil => rfl
  | cons c cs ih => simp [flags, ih]

theorem flags_append (quote : Option Char) (a b : List Char) :
    flags quote (a ++ b) = flags quote a ++ flags (openAfter quote a) b := by
  induction a generalizing quote with
  | nil => rfl
  | cons c a ih => simp [flags, openAfter, ih]

theorem openAfter_append (quote : Option Char) (a b : List Char) :
    openAfter quote (a ++ b) = openAfter (openAfter quote a) b :=
  List.foldl_append

end Literal

end SqlAdvice.Sql
