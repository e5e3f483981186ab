import SqlAdvice.Json.Basic

/-!
# Writing JSON

The written form of a JSON value has one member or item on each line, two spaces of indentation for
each level, and no text between the brackets of an empty list or object. Texts are written as they
are but for the quote, the backslash and the characters below the space.
-/

namespace SqlAdvice.Json

open SqlAdvice.Number SqlAdvice.Text

/-- One character of a written text. -/
def escape (c : Char) : List Char :=
  if c == '"' then ['\\', '"']
  else if c == '\\' then ['\\', '\\']
  else if c == '\x08' then ['\\', 'b']
  else if c == '\x0c' then ['\\', 'f']
  else if c == '\n' then ['\\', 'n']
  else if c == '\r' then ['\\', 'r']
  else if c == '\t' then ['\\', 't']
  else if c.toNat < 0x20 then '\\' :: 'u' :: hex 4 c.toNat
  else [c]

/-- A written text. -/
def writeText (s : String) : List Char :=
  '"' :: s.toList.flatMap escape ++ ['"']

/-- A new line at a level of indentation. -/
def newLine (level : Nat) : List Char :=
  '\n' :: List.replicate (2 * level) ' '

mutual

/-- A JSON value written at a level of indentation. -/
def writeAt (level : Nat) : Json → List Char
  | null => ['n', 'u', 'l', 'l']
  | bool true => ['t', 'r', 'u', 'e']
  | bool false => ['f', 'a', 'l', 's', 'e']
  | int i => intDigits i
  | float x => (Double.text x).toList
  | text s => writeText s
  | list [] => ['[', ']']
  | list (item :: items) =>
    '[' :: newLine (level + 1) ++ writeAt (level + 1) item ++ writeItems (level + 1) items ++
      newLine level ++ [']']
  | object [] => ['{', '}']
  | object ((name, item) :: members) =>
    '{' :: newLine (level + 1) ++ writeText name ++ ':' :: ' ' :: writeAt (level + 1) item ++
      writeMembers (level + 1) members ++ newLine level ++ ['}']

/-- The items of a list behind the first, each on a line of its own. -/
def writeItems (level : Nat) : List Json → List Char
  | [] => []
  | item :: items => ',' :: newLine level ++ writeAt level item ++ writeItems level items

/-- The members of an object behind the first, each on a line of its own. -/
def writeMembers (level : Nat) : List (String × Json) → List Char
  | [] => []
  | (name, item) :: members =>
    ',' :: newLine level ++ writeText name ++ ':' :: ' ' :: writeAt level item ++
      writeMembers level members

end

/-- The written form of a JSON value. -/
def write (j : Json) : String :=
  String.ofList (writeAt 0 j)

end SqlAdvice.Json
