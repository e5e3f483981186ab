import SqlAdvice.Text.Lines

/-!
# Paths

A path in its normal form: the slashes it begins with and its components. Repeated slashes, slashes
at the end and components `.` mean nothing; a component `..` is kept. The path without components is
written `.`.
-/

namespace SqlAdvice

open SqlAdvice.Text

/-- A path. -/
structure Path where
  /-- The slashes in front: none, one or two. -/
  root : String := ""
  parts : List String := []
  deriving DecidableEq

namespace Path

/-- The slashes in front of a path. Exactly two are kept; three or more are one. -/
def rootOf : List Char → String
  | '/' :: '/' :: '/' :: _ => "/"
  | '/' :: '/' :: _ => "//"
  | '/' :: _ => "/"
  | _ => ""

/-- Holds of the components that mean something. -/
def isPart (cs : List Char) : Bool :=
  !cs.isEmpty && cs != ['.']

/-- The path that a text spells. -/
def ofText (s : String) : Path where
  root := rootOf s.toList
  parts := ((pieces (· == '/') s.toList).filter isPart).map String.ofList

/-- The written form of a path. -/
def text (p : Path) : String :=
  let s := p.root ++ "/".intercalate p.parts
  if s.isEmpty then "." else s

/-- The suffix of a path: the last dot of the last component with what follows it. A dot at either
end of the component makes no suffix. -/
def suffix (p : Path) : String :=
  let name := (p.parts.getLast?.getD "").toList
  let tail := afterLast '.' name
  if tail.isEmpty || name.length ≤ tail.length + 1 then "" else String.ofList ('.' :: tail)

end Path

end SqlAdvice
