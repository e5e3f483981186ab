import SqlAdvice.Sql.Fragment
import SqlAdvice.Sql.Keyword

/-!
# Conditions

The conditions of a statement are the parts of its `WHERE` clause between the words `AND` and `OR`
that stand outside literals and outside parentheses. The clause runs from the first `WHERE` to the
next clause; unlike the cut at connectives, this does not look at literals.
-/

namespace SqlAdvice.Sql

open SqlAdvice.Text

/-- The parenthesis depth after one more character outside literals. A closing parenthesis that
closes nothing is ignored. -/
def depthAfter (depth : Nat) (c : Char) : Nat :=
  if c == '(' then depth + 1 else if c == ')' then depth - 1 else depth

/-- Takes a connective that stands alone off the front of a text. -/
def connective? (prev : Option Char) (cs : List Char) : Option (List Char) :=
  (wordPhrase? [.AND] prev cs).or (wordPhrase? [.OR] prev cs)

/-- Cuts a text at its top-level connectives: the part before the first cut, and the parts after
it. The first argument counts the characters of a connective that are still to be passed over. -/
def topLevelParts : Nat → Option Char → Option Char → Nat → List Char →
    List Char × List (List Char)
  | _, _, _, _, [] => ([], [])
  | skip + 1, _, quote, depth, c :: cs => topLevelParts skip (some c) quote depth cs
  | 0, prev, quote, depth, c :: cs =>
    if Literal.covers quote c then
      let (part, parts) := topLevelParts 0 (some c) (Literal.next quote c) depth cs
      (c :: part, parts)
    else match if depth == 0 then connective? prev (c :: cs) else none with
      | some rest =>
        let (part, parts) := topLevelParts (cs.length - rest.length) (some c) quote depth cs
        ([], part :: parts)
      | none =>
        let (part, parts) := topLevelParts 0 (some c) quote (depthAfter depth c) cs
        (c :: part, parts)

/-- The cleaned parts of a text between its top-level connectives, without the empty ones. -/
def splitTopLevel (cs : List Char) : List (List Char) :=
  let (part, parts) := topLevelParts 0 none none 0 cs
  cleanAll (part :: parts)

/-- The phrases that close a `WHERE` clause. -/
def whereEnds : List (List Keyword) :=
  [[.GROUP, .BY], [.HAVING], [.ORDER, .BY]]

/-- The text up to the first place where one of several phrases stands. -/
def upToPhrase (phrases : List (List Keyword)) : Option Char → List Char → List Char
  | _, [] => []
  | prev, c :: cs =>
    if standsAt phrases prev (c :: cs) then [] else c :: upToPhrase phrases (some c) cs

/-- The conditions of a statement, in order. -/
def conditions (sql : List Char) : List (List Char) :=
  match afterPhrase? [.WHERE] none sql with
  | none => []
  | some rest => splitTopLevel (upToPhrase whereEnds none rest)

end SqlAdvice.Sql
