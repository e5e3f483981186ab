import SqlAdvice.Sql.Name

/-!
# Columns

The columns that a join predicate, a condition and an `ORDER BY` text speak of. Each works on the
text alone: a join predicate has a column on each side of every `=`, a condition has the identifier
in front of its first comparison, and an `ORDER BY` text has the first name of each item.
-/

namespace SqlAdvice.Sql

open SqlAdvice.Text

/-! ## Join predicates -/

/-- The column on one side of an equality: the identifier that follows the last dot, perhaps behind
one opening decoration. -/
def sideColumn? (side : List Char) : Option (List Char) :=
  let cs := skipBlanks (afterLast '.' side)
  let plain := match cs with
    | c :: rest => if c == '[' || c == '"' || c == '\x60' then rest else cs
    | [] => cs
  (identifier? isNameStart plain).map (·.1)

/-- The columns of a join predicate, in order. -/
def joinColumns (predicate : List Char) : List (List Char) :=
  (pieces (· == '=') predicate).filterMap sideColumn?

/-! ## Conditions -/

/-- The words that compare. -/
def comparisonWords : List Keyword :=
  [.LIKE, .IN, .IS, .BETWEEN]

/-- Tells whether a comparison operator begins at a position: one of the signs, or one of the words
standing alone. -/
def comparesAt (prev : Option Char) : List Char → Bool
  | '!' :: '=' :: _ => true
  | cs =>
    cs.head?.any (fun c => c == '=' || c == '<' || c == '>') ||
      standsAt (comparisonWords.map ([·])) prev cs

/-- The last of a character and the blanks that follow it. -/
def lastBlank (last : Char) (cs : List Char) : Char :=
  ((cs.takeWhile isBlank).getLast?).getD last

/-- Tells whether an operator follows, behind blanks and perhaps the word `NOT`. -/
def comparisonFollows (last : Char) (cs : List Char) : Bool :=
  let rest := skipBlanks cs
  let plain := comparesAt (some (lastBlank last cs)) rest
  match (Keyword.NOT.read? rest).bind skipSomeBlanks? with
  | some negated => comparesAt (some ' ') negated || plain
  | none => plain

/-- The longest run of identifier characters at the front of a text that a comparison follows. The
first argument is the character before the text. -/
def comparedRun? (last : Char) : List Char → Option (List Char)
  | [] => none
  | c :: cs =>
    match if isNameRest c then comparedRun? c cs else none with
    | some more => some (c :: more)
    | none => if comparisonFollows last (c :: cs) then some [] else none

/-- The identifier in front of the first comparison, searched from a position on. -/
def filterColumnFrom? : Option Char → List Char → Option (List Char)
  | _, [] => none
  | prev, c :: cs =>
    match if opensWord prev && isFoldedNameStart c then comparedRun? c cs else none with
    | some more => some (c :: more)
    | none => filterColumnFrom? (some c) cs

/-- The column of a condition: the identifier directly in front of the first comparison. -/
def filterColumn? (condition : List Char) : Option (List Char) :=
  filterColumnFrom? none condition

/-! ## Sorting -/

/-- The column of one item of an `ORDER BY` text: the last part of the name it begins with. -/
def itemColumn? (item : List Char) : Option (List Char) :=
  match qualified? isNameStart (skipBlanks item) with
  | none => none
  | some (name, _) =>
    let column := afterLast '.' (undecorate name)
    if column.isEmpty then none else some column

/-- The columns of an `ORDER BY` text, in order. -/
def sortColumns (clause : List Char) : List (List Char) :=
  (pieces (· == ',') clause).filterMap itemColumn?

end SqlAdvice.Sql
