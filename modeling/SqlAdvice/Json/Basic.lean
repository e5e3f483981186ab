import SqlAdvice.Value

/-!
# JSON values

A JSON text stands for a value of `Json`. Integers and floating-point numbers are told apart, and an
object keeps all its members in the order in which they are written; as a `Value`, the last member
of a name counts.
-/

namespace SqlAdvice

/-- A JSON value. -/
inductive Json where
  | null
  | bool (b : Bool)
  | int (i : Int)
  | float (x : Float)
  | text (s : String)
  | list (items : List Json)
  | object (members : List (String × Json))

namespace Json

/-- A list of texts. -/
def texts (items : List String) : Json :=
  list (items.map text)

mutual

/-- The value that a JSON value stands for. -/
def toValue : Json → Value
  | null => .null
  | bool b => .bool b
  | int i => .int i
  | float x => .float x
  | text s => .text s
  | list items => .list (itemsToValues items)
  | object members => .ofPairs (membersToPairs members)

/-- The values that JSON values stand for. -/
def itemsToValues : List Json → List Value
  | [] => []
  | j :: js => toValue j :: itemsToValues js

/-- The pairs of a mapping that members stand for. -/
def membersToPairs : List (String × Json) → List (Value × Value)
  | [] => []
  | (name, j) :: rest => (.text name, toValue j) :: membersToPairs rest

end

mutual

/-- Tells whether no integer in a JSON value has too many digits to be read from a text. -/
def isShort : Json → Bool
  | int i => decide (Number.IsShort i.natAbs)
  | list items => areShort items
  | object members => areShortMembers members
  | _ => true

/-- Tells whether items are short. -/
def areShort : List Json → Bool
  | [] => true
  | j :: js => isShort j && areShort js

/-- Tells whether the items of members are short. -/
def areShortMembers : List (String × Json) → Bool
  | [] => true
  | (_, j) :: rest => isShort j && areShortMembers rest

end

end Json

end SqlAdvice
