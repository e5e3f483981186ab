import SqlAdvice.Text.Blank
import SqlAdvice.Text.Letter

/-!
# Keywords

The keywords that the extractors look for, and how they are recognised: letter by letter without
regard to case, as whole words. `phrase?` reads keywords with blanks between them, such as
`ORDER BY`, and `wordPhrase?` also asks that the phrase stands alone.

A recogniser takes the text from its position on and gives back what follows the match. Where the
character before the position matters it is a separate argument, `none` at the start of the text.
-/

namespace SqlAdvice.Sql

open SqlAdvice.Text

/-- The keywords with a meaning to the extractors. -/
inductive Keyword where
  | SELECT | INSERT | UPDATE | DELETE
  | FROM | JOIN | ON | WHERE | GROUP | BY | HAVING | ORDER
  | AND | OR | NOT | LIKE | IN | IS | BETWEEN
  | INNER | LEFT | RIGHT | FULL | CROSS | OUTER | NATURAL
  deriving DecidableEq

/-- The letters of a keyword, in upper case. -/
def Keyword.letters : Keyword → List Char
  | .SELECT => ['S', 'E', 'L', 'E', 'C', 'T']
  | .INSERT => ['I', 'N', 'S', 'E', 'R', 'T']
  | .UPDATE => ['U', 'P', 'D', 'A', 'T', 'E']
  | .DELETE => ['D', 'E', 'L', 'E', 'T', 'E']
  | .FROM => ['F', 'R', 'O', 'M']
  | .JOIN => ['J', 'O', 'I', 'N']
  | .ON => ['O', 'N']
  | .WHERE => ['W', 'H', 'E', 'R', 'E']
  | .GROUP => ['G', 'R', 'O', 'U', 'P']
  | .BY => ['B', 'Y']
  | .HAVING => ['H', 'A', 'V', 'I', 'N', 'G']
  | .ORDER => ['O', 'R', 'D', 'E', 'R']
  | .AND => ['A', 'N', 'D']
  | .OR => ['O', 'R']
  | .NOT => ['N', 'O', 'T']
  | .LIKE => ['L', 'I', 'K', 'E']
  | .IN => ['I', 'N']
  | .IS => ['I', 'S']
  | .BETWEEN => ['B', 'E', 'T', 'W', 'E', 'E', 'N']
  | .INNER => ['I', 'N', 'N', 'E', 'R']
  | .LEFT => ['L', 'E', 'F', 'T']
  | .RIGHT => ['R', 'I', 'G', 'H', 'T']
  | .FULL => ['F', 'U', 'L', 'L']
  | .CROSS => ['C', 'R', 'O', 'S', 'S']
  | .OUTER => ['O', 'U', 'T', 'E', 'R']
  | .NATURAL => ['N', 'A', 'T', 'U', 'R', 'A', 'L']

/-- The upper-case letter that a character stands for when case is ignored. Four characters outside
ASCII fold to an ASCII letter: the dotted capital and the dotless small `i`, the long `s`, and the
Kelvin sign. -/
def foldCase (c : Char) : Char :=
  if c == 'İ' || c == 'ı' then 'I'
  else if c == 'ſ' then 'S'
  else if c == '\u212A' then 'K'
  else c.toUpper

/-- Takes letters off the front of a text, ignoring case. -/
def letters? : List Char → List Char → Option (List Char)
  | [], cs => some cs
  | _ :: _, [] => none
  | k :: ks, c :: cs => if foldCase c == k then letters? ks cs else none

theorem letters?_length {ks cs rest : List Char} (h : letters? ks cs = some rest) :
    rest.length + ks.length = cs.length := by
  induction ks generalizing cs with
  | nil => simp_all [letters?]
  | cons k ks ih =>
    cases cs with
    | nil => simp [letters?] at h
    | cons c cs =>
      simp only [letters?] at h
      split at h
      · have := ih h
        simp
        omega
      · simp at h

/-- Takes a keyword off the front of a text. -/
def Keyword.read? (k : Keyword) (cs : List Char) : Option (List Char) :=
  letters? k.letters cs

/-- Holds where a word may begin: no word character stands before. -/
def opensWord (prev : Option Char) : Bool :=
  !prev.any isWord

/-- Holds where a word may end: no word character follows. -/
def closesWord (cs : List Char) : Bool :=
  !cs.head?.any isWord

/-- Takes keywords with blanks between them off the front of a text. -/
def phrase? : List Keyword → List Char → Option (List Char)
  | [], cs => some cs
  | [k], cs => k.read? cs
  | k :: ks, cs => do
    let cs ← k.read? cs
    let cs ← skipSomeBlanks? cs
    phrase? ks cs

/-- Takes keywords off the front of a text where they stand alone: no word character touches the
phrase on either side. -/
def wordPhrase? (ks : List Keyword) (prev : Option Char) (cs : List Char) : Option (List Char) :=
  if opensWord prev then (phrase? ks cs).filter closesWord else none

/-- Tells whether one of several phrases stands at a position. -/
def standsAt (phrases : List (List Keyword)) (prev : Option Char) (cs : List Char) : Bool :=
  phrases.any fun ks => (wordPhrase? ks prev cs).isSome

/-- What is left of a text after the first place where a phrase stands. -/
def afterPhrase? (ks : List Keyword) : Option Char → List Char → Option (List Char)
  | _, [] => none
  | prev, c :: cs =>
    match wordPhrase? ks prev (c :: cs) with
    | some rest => some rest
    | none => afterPhrase? ks (some c) cs

end SqlAdvice.Sql
