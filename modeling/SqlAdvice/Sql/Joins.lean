import SqlAdvice.Sql.Fragment
import SqlAdvice.Sql.Keyword

/-!
# Join predicates

A join predicate is the text from a word `ON` to the next clause, the next join or the end. Words
inside literals neither open nor close one, and an `ON` inside a predicate belongs to it. A join
begins with its modifiers, so `LEFT OUTER JOIN` closes a predicate in front of `LEFT`.
-/

namespace SqlAdvice.Sql

open SqlAdvice.Text

/-- The words that may stand in front of `JOIN`. -/
def joinModifiers : List Keyword :=
  [.INNER, .LEFT, .RIGHT, .FULL, .CROSS, .OUTER, .NATURAL]

/-- Takes one join modifier and the blanks after it off the front of a text. -/
def joinModifier? (cs : List Char) : Option (List Char) :=
  joinModifiers.findSome? fun k => (k.read? cs).bind skipSomeBlanks?

theorem joinModifier?_length {cs rest : List Char} (h : joinModifier? cs = some rest) :
    rest.length < cs.length := by
  obtain ⟨k, _, hk⟩ := List.exists_of_findSome?_eq_some h
  obtain ⟨mid, hread, hskip⟩ := Option.bind_eq_some_iff.mp hk
  have h₁ := letters?_length hread
  have h₂ := skipSomeBlanks?_length hskip
  omega

/-- Takes `JOIN` with its modifiers off the front of a text. -/
def joinPhrase? (cs : List Char) : Option (List Char) :=
  match _h : joinModifier? cs with
  | some rest => joinPhrase? rest
  | none => Keyword.JOIN.read? cs
termination_by cs.length
decreasing_by exact joinModifier?_length _h

/-- The phrases other than joins that close a join predicate. -/
def clausePhrases : List (List Keyword) :=
  [[.WHERE], [.GROUP, .BY], [.HAVING], [.ORDER, .BY]]

/-- Tells whether a clause or a join begins at a position. -/
def closesPredicate (prev : Option Char) (cs : List Char) : Bool :=
  standsAt clausePhrases prev cs ||
    (opensWord prev && ((joinPhrase? cs).filter closesWord).isSome)

/-- The text up to the first place outside literals where a clause or a join begins. -/
def predicateSpan (prev quote : Option Char) : List Char → List Char
  | [] => []
  | c :: cs =>
    if quote.isNone && closesPredicate prev (c :: cs) then []
    else c :: predicateSpan (some c) (Literal.next quote c) cs

/-- The predicates as they are written. The first argument counts the characters that are still to
be passed over. -/
def predicateSpans : Nat → Option Char → Option Char → List Char → List (List Char)
  | _, _, _, [] => []
  | skip + 1, _, quote, c :: cs => predicateSpans skip (some c) (Literal.next quote c) cs
  | 0, prev, quote, c :: cs =>
    match if quote.isNone then wordPhrase? [.ON] prev (c :: cs) else none with
    | some rest =>
      let span := predicateSpan none none rest
      span :: predicateSpans (cs.length - rest.length + span.length) (some c)
        (Literal.next quote c) cs
    | none => predicateSpans 0 (some c) (Literal.next quote c) cs

/-- The join predicates of a statement, in order. -/
def joinPredicates (sql : List Char) : List (List Char) :=
  cleanAll (predicateSpans 0 none none sql)

end SqlAdvice.Sql
