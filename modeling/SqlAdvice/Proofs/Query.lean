import SqlAdvice.Sql.Features
import Mathlib.Tactic.Common

/-!
# Queries and how they are written

The queries of the shape for which feature extraction is exact: columns of a table, joins with one
equality each, conditions that compare a column with a number, and items to sort by.

`Query.text` writes a query on one line, with single spaces between words and a comma and a space
between the items of a list.  `Query.features` is what there is to read off that text.  Both are
read off the query itself, and neither looks at the extractors; that they agree is proved in
`SqlAdvice.Proofs.Extraction`.

Every part of the text but the first begins with the space that parts it from what stands before.
-/

namespace SqlAdvice.Sql

/-! ## Names -/

/-- The keywords that are no identifiers, in any letter case. -/
def reserved : List Keyword :=
  [.FROM, .JOIN, .ON, .WHERE, .GROUP, .BY, .HAVING, .ORDER, .AND, .OR, .NOT, .LIKE, .IN, .IS,
    .BETWEEN, .INNER, .LEFT, .RIGHT, .FULL, .CROSS, .OUTER, .NATURAL]

/-- A word of ASCII letters, digits and underscores that begins with no digit and is not
reserved. -/
structure Identifier where
  first : Char
  more : List Char
  isNameStart_first : isNameStart first = true
  ascii_more : ∀ c ∈ more, c.isAlphanum = true ∨ c = '_'
  not_reserved : ∀ k ∈ reserved, (first :: more).map Char.toUpper ≠ k.letters

def Identifier.text (i : Identifier) : List Char :=
  i.first :: i.more

/-- A column with the name that qualifies it. -/
structure Column where
  owner : Identifier
  name : Identifier

def Column.text (c : Column) : List Char :=
  c.owner.text ++ '.' :: c.name.text

/-- What a name may be written between. -/
inductive Decoration where
  | plain | brackets | doubleQuotes | backticks
  deriving DecidableEq

/-- A text between the characters of a decoration. -/
def Decoration.around (cs : List Char) : Decoration → List Char
  | .plain => cs
  | .brackets => '[' :: cs ++ [']']
  | .doubleQuotes => '"' :: cs ++ ['"']
  | .backticks => '\x60' :: cs ++ ['\x60']

structure Table where
  name : Identifier
  decoration : Decoration

def Table.text (t : Table) : List Char :=
  t.decoration.around t.name.text

/-! ## Joins -/

/-- The words that introduce a join. -/
inductive JoinWord where
  | join | innerJoin | leftJoin
  deriving DecidableEq

def JoinWord.text : JoinWord → List Char
  | .join => Keyword.JOIN.letters
  | .innerJoin => Keyword.INNER.letters ++ ' ' :: Keyword.JOIN.letters
  | .leftJoin => Keyword.LEFT.letters ++ ' ' :: Keyword.JOIN.letters

/-- A join on the equality of two columns. -/
structure Join where
  word : JoinWord
  table : Table
  left : Column
  right : Column

namespace Join

def predicate (j : Join) : List Char :=
  j.left.text ++ ' ' :: '=' :: ' ' :: j.right.text

def text (j : Join) : List Char :=
  ' ' :: j.word.text ++ ' ' :: j.table.text ++ ' ' :: Keyword.ON.letters ++ ' ' :: j.predicate

end Join

/-! ## Conditions -/

inductive Comparison where
  | equal | notEqual | unequal | less | greater | atMost | atLeast
  deriving DecidableEq

def Comparison.text : Comparison → List Char
  | .equal => ['=']
  | .notEqual => ['<', '>']
  | .unequal => ['!', '=']
  | .less => ['<']
  | .greater => ['>']
  | .atMost => ['<', '=']
  | .atLeast => ['>', '=']

/-- The comparison of a column with a number, which is written in decimal digits. -/
structure Condition where
  column : Column
  comparison : Comparison
  number : List Char
  number_ne_nil : number ≠ []
  isDigit_number : ∀ c ∈ number, c.isDigit = true

def Condition.text (c : Condition) : List Char :=
  c.column.text ++ ' ' :: c.comparison.text ++ ' ' :: c.number

inductive Connective where
  | and | or
  deriving DecidableEq

def Connective.keyword : Connective → Keyword
  | .and => .AND
  | .or => .OR

/-- One or more conditions, each but the first with the connective in front of it. -/
structure Filter where
  first : Condition
  more : List (Connective × Condition)

namespace Filter

def conditions (w : Filter) : List Condition :=
  w.first :: w.more.map (·.2)

/-- The text of the conditions from the second one on. -/
def moreText (more : List (Connective × Condition)) : List Char :=
  more.flatMap fun p => ' ' :: p.1.keyword.letters ++ ' ' :: p.2.text

def text (w : Filter) : List Char :=
  ' ' :: Keyword.WHERE.letters ++ ' ' :: w.first.text ++ moreText w.more

end Filter

/-! ## Sorting -/

inductive Direction where
  | ascending | descending
  deriving DecidableEq

def Direction.text : Direction → List Char
  | .ascending => ['A', 'S', 'C']
  | .descending => ['D', 'E', 'S', 'C']

/-- A column to sort by, perhaps with a direction. -/
structure SortItem where
  column : Column
  direction : Option Direction

def SortItem.text (i : SortItem) : List Char :=
  i.column.text ++ i.direction.elim [] fun d => ' ' :: d.text

/-- Items with a comma and a space between neighbours. -/
def listed (items : List (List Char)) : List Char :=
  List.intercalate [',', ' '] items

/-- The text of the items to sort by, which no query without any has. -/
def sortText : List SortItem → List Char
  | [] => []
  | items => ' ' :: Keyword.ORDER.letters ++ ' ' :: Keyword.BY.letters ++
      ' ' :: listed (items.map SortItem.text)

/-! ## Queries -/

structure Query where
  columns : List Identifier
  table : Table
  joins : List Join
  filter : Option Filter
  sort : List SortItem
  columns_ne_nil : columns ≠ []

namespace Query

/-- The conditions of a query, in order. -/
def conditions (q : Query) : List Condition :=
  q.filter.elim [] Filter.conditions

/-- The text in front of `FROM`. -/
def head (q : Query) : List Char :=
  Keyword.SELECT.letters ++ ' ' :: listed (q.columns.map Identifier.text)

/-- The text up to the joins. -/
def start (q : Query) : List Char :=
  q.head ++ ' ' :: Keyword.FROM.letters ++ ' ' :: q.table.text

/-- The text of the conditions, which no query without any has. -/
def filterText (q : Query) : List Char :=
  q.filter.elim [] Filter.text

/-- The text of a query. -/
def text (q : Query) : List Char :=
  q.start ++ q.joins.flatMap Join.text ++ q.filterText ++ sortText q.sort

/-- The features of a query. -/
def features (q : Query) : Features where
  kind := .select
  tables := ((q.table :: q.joins.map (·.table)).map fun t => String.ofList t.name.text).eraseDups
  joinPredicates := q.joins.map fun j => String.ofList j.predicate
  conditions := q.conditions.map fun c => String.ofList c.text
  orderBy :=
    if q.sort.isEmpty then none else some (String.ofList (listed (q.sort.map SortItem.text)))
  sortColumns := q.sort.map fun i => String.ofList i.column.name.text
  hasWildcard := false
  functionCalls := []

end Query

end SqlAdvice.Sql
