import SqlAdvice.Number.Double
import SqlAdvice.Text.Lines
import SqlAdvice.Value
import SqlAdvice.Yaml.Node
import SqlAdvice.Yaml.Token.Lexer

/-!
# YAML documents

Reading a YAML text as a value. A plain scalar may be null, a truth value, a number, a date or a time
(`plainValue?`); any other scalar is a text. Collections cannot be keys, and of several values for
one key the last one counts. A text cannot be read when a number or a time in it is out of range.
-/

namespace SqlAdvice.Yaml

open SqlAdvice.Number SqlAdvice.Text

/-! ## Plain scalars

A reader of numbers or times gives nothing for a scalar of another form, and an empty answer for one
of the right form whose value is out of range. -/

/-- The spellings of null. -/
def nullWords : List String :=
  ["", "~", "null", "Null", "NULL"]

/-- The spellings of the truth values. -/
def boolWords : List (String × Bool) := [
  ("yes", true), ("Yes", true), ("YES", true), ("no", false), ("No", false), ("NO", false),
  ("true", true), ("True", true), ("TRUE", true),
  ("false", false), ("False", false), ("FALSE", false),
  ("on", true), ("On", true), ("ON", true), ("off", false), ("Off", false), ("OFF", false)]

/-- Holds of the ASCII digits and the underscore. -/
def isNumberPart (c : Char) : Bool :=
  (asciiDigit? c).isSome || c == '_'

/-- The number that digits spell. -/
def digitsValue (cs : List Char) : Nat :=
  ofDigits 10 (cs.filterMap asciiDigit?)

/-- The number that digits of a base spell, where underscores count for nothing. A number in decimal
may not be too long. -/
def spelled? (base : Nat) (cs : List Char) : Option (Option Nat) := do
  let ds ← (cs.filter (· != '_')).mapM hexDigit?
  if cs.isEmpty || !ds.all (· < base) then none
  else if ds.isEmpty || (base == 10 && ds.length > digitLimit) then some none
  else some (ofDigits base ds)

/-- Holds of a place in base 60 behind the first: a digit, or two that make less than sixty. -/
def isSexagesimal : List Char → Bool
  | [d] => (asciiDigit? d).isSome
  | [t, d] => (asciiDigit? t).any (· < 6) && (asciiDigit? d).isSome
  | _ => false

/-- The integer that a plain scalar spells: in binary behind `0b`, in hexadecimal behind `0x`, in
octal behind any other zero, and in decimal, with places of base 60 behind colons. -/
def integer? (cs : List Char) : Option (Option Int) :=
  let (negative, body) := takeSign cs
  let magnitude : Option (Option Nat) := match body with
    | ['0'] => some (some 0)
    | '0' :: 'b' :: ds => spelled? 2 ds
    | '0' :: 'x' :: ds => spelled? 16 ds
    | '0' :: ds => spelled? 8 ('0' :: ds)
    | '_' :: _ => none
    | ds => match pieces (· == ':') ds with
      | whole :: places =>
        if places.all isSexagesimal then
          (spelled? 10 whole).map fun n =>
            n.map fun n => places.foldl (fun n place => 60 * n + digitsValue place) n
        else none
      | [] => none
  magnitude.map fun n => n.map (withSign negative)

/-- Holds of what may stand behind the digits of a floating-point number: nothing, or an exponent
with its sign. -/
def isExponent (cs : List Char) : Bool :=
  match cs with
  | [] => true
  | e :: s :: ds =>
    (e == 'e' || e == 'E') && (s == '+' || s == '-') && !ds.isEmpty &&
      ds.all fun c => (asciiDigit? c).isSome
  | _ => false

/-- The special numbers. -/
def specialFloat? (negative : Bool) (body : String) : Option Float :=
  if body == ".inf" || body == ".Inf" || body == ".INF" then
    some (if negative then -(1.0 / 0.0) else 1.0 / 0.0)
  else none

/-- The double that a plain scalar spells in decimal: digits with a point among them, or a point with
a digit behind it and no sign in front, and perhaps an exponent; or one of the special numbers. -/
def decimalFloat? (cs : List Char) : Option Float :=
  let (negative, body) := takeSign cs
  let signed := body.length != cs.length
  let text := String.ofList body
  if !signed && (text == ".nan" || text == ".NaN" || text == ".NAN") then some (0.0 / 0.0)
  else (specialFloat? negative text).or <|
    let whole := body.takeWhile isNumberPart
    match body.dropWhile isNumberPart with
    | '.' :: after =>
      let rest := after.dropWhile isNumberPart
      let startsRight := match whole with
        | [] => !signed && after.head?.any fun c => (asciiDigit? c).isSome
        | c :: _ => c != '_'
      if startsRight && isExponent rest then Double.read? (cs.filter (· != '_')) else none
    | _ => none

/-- The sum of places in base 60, the last of which counts units. A place whose weight is no double
is out of range. -/
def sexagesimalSum (places : List Float) : Option Float :=
  let weighted := places.reverse.zipIdx.map fun (x, i) => (x, Float.ofNat (Nat.pow 60 i))
  if weighted.all fun p => p.2.isFinite then
    some (weighted.foldl (fun sum p => sum + p.1 * p.2) 0.0)
  else none

/-- The double that a plain scalar spells in base 60: digits, places behind colons, and a point. -/
def sexagesimalFloat? (cs : List Char) : Option (Option Float) :=
  let (negative, body) := takeSign cs
  let (front, fraction) := (body.takeWhile (· != '.'), body.dropWhile (· != '.'))
  match pieces (· == ':') front, fraction with
  | (d :: ds) :: place :: places, '.' :: after =>
    if (asciiDigit? d).isSome && ds.all isNumberPart && (place :: places).all isSexagesimal &&
        after.all isNumberPart then
      let last := ((place :: places).getLast?.getD []) ++ fraction
      let texts := (d :: ds) :: (place :: places).dropLast ++ [last]
      let values := texts.mapM fun text => Double.read? (text.filter (· != '_'))
      some ((values.bind sexagesimalSum).map fun x => if negative then -x else x)
    else none
  | _, _ => none

/-- The double that a plain scalar spells. -/
def float? (cs : List Char) : Option (Option Float) :=
  ((decimalFloat? cs).map some).or (sexagesimalFloat? cs)

/-! ## Dates and times -/

/-- Takes the number of a run of digits off the front of a text. -/
def takeNumber? (least most : Nat) (cs : List Char) : Option (Nat × List Char) :=
  let ds := (cs.take most).takeWhile fun c => (asciiDigit? c).isSome
  if least ≤ ds.length then some (digitsValue ds, cs.drop ds.length) else none

/-- Takes a character off the front of a text. -/
def takeChar? (c : Char) : List Char → Option (List Char)
  | [] => none
  | d :: cs => if c == d then some cs else none

/-- Takes a colon and a number of two digits off the front of a text. -/
def takePlace? (cs : List Char) : Option (Nat × List Char) :=
  (takeChar? ':' cs).bind (takeNumber? 2 2)

/-- Holds of the characters between a time and what stands next to it. -/
def isTimeGap (c : Char) : Bool :=
  c == ' ' || c == '\t'

/-- Drops what stands between a date and a time: one letter, or gaps. -/
def skipDateEnd? : List Char → Option (List Char)
  | [] => none
  | c :: cs =>
    if c == 'T' || c == 't' then some cs
    else if isTimeGap c then some (cs.dropWhile isTimeGap)
    else none

/-- Takes a point and digits off the front of a text, as microseconds. Further digits are dropped. -/
def takeMicroseconds : List Char → Nat × List Char
  | '.' :: cs =>
    let ds := cs.takeWhile fun c => (asciiDigit? c).isSome
    let six := ds.take 6
    (digitsValue (six ++ List.replicate (6 - six.length) '0'), cs.drop ds.length)
  | cs => (0, cs)

/-- The offset that the end of a time spells, in minutes: none, the letter for universal time, or a
sign with hours and perhaps minutes. -/
def offset? (cs : List Char) : Option (Option Int) :=
  match cs.dropWhile isTimeGap with
  | [] => if cs.isEmpty then some none else none
  | ['Z'] => some (some 0)
  | c :: rest =>
    if c == '+' || c == '-' then do
      let (hours, rest) ← takeNumber? 1 2 rest
      let (minutes, rest) ← if rest.isEmpty then some (0, rest) else takePlace? rest
      if rest.isEmpty then some (some (withSign (c == '-') (60 * hours + minutes))) else none
    else none

/-- The date, or the time of a date, that a plain scalar spells. Without a time the month and the day
have two digits each. -/
def time? (cs : List Char) : Option (Option Value) := do
  let (year, rest) ← takeNumber? 4 4 cs
  let (month, rest) ← (takeChar? '-' rest).bind (takeNumber? 1 2)
  let (day, rest) ← (takeChar? '-' rest).bind (takeNumber? 1 2)
  let date := Date.ofNumbers? year month day
  if rest.isEmpty then
    if cs.length == 10 then some (date.map .date) else none
  else do
    let (hour, rest) ← (skipDateEnd? rest).bind (takeNumber? 1 2)
    let (minute, rest) ← takePlace? rest
    let (second, rest) ← takePlace? rest
    let (microsecond, rest) := takeMicroseconds rest
    let offset ← offset? rest
    let time := date.bind fun d => DateTime.ofNumbers? d hour minute second microsecond offset
    some (time.map .dateTime)

/-! ## Values of scalars -/

/-- The plain scalars that stand for something that is no value. -/
def reservedWords : List String :=
  ["=", "<<"]

/-- What a plain scalar stands for. -/
def plainValue? (cs : List Char) : Option Value :=
  let word := String.ofList cs
  if nullWords.contains word then some .null
  else if reservedWords.contains word then none
  else match boolWords.find? (·.1 == word) with
    | some (_, b) => some (.bool b)
    | none =>
      let number := ((integer? cs).map fun i => i.map Value.int).or
        ((float? cs).map fun x => x.map Value.float)
      (number.or (time? cs)).getD (some (.text word))

/-! ## Trees -/

/-- Holds of the values that may be keys. -/
def isKey : Value → Bool
  | .list _ => false
  | .mapping _ => false
  | _ => true

mutual

/-- The value of a tree. -/
def Node.toValue? : Node → Option Value
  | .scalar cs true => plainValue? cs
  | .scalar cs false => some (.text (String.ofList cs))
  | .sequence items => (Node.itemsToValues? items).map .list
  | .mapping pairs => (Node.pairsToValues? pairs).map .ofPairs

/-- The values of trees. -/
def Node.itemsToValues? : List Node → Option (List Value)
  | [] => some []
  | item :: items => do
    let v ← Node.toValue? item
    let vs ← Node.itemsToValues? items
    return v :: vs

/-- The values of pairs of trees. -/
def Node.pairsToValues? : List (Node × Node) → Option (List (Value × Value))
  | [] => some []
  | (key, item) :: pairs => do
    let k ← Node.toValue? key
    if !isKey k then none
    let v ← Node.toValue? item
    let rest ← Node.pairsToValues? pairs
    return (k, v) :: rest

end

/-- Reads a text as the value of its only document; a text without a document is null. -/
def read? (cs : List Char) : Option Value := do
  let tokens ← Token.scan? (unifyNewlines cs)
  match ← Node.ofTokens? tokens with
  | none => return .null
  | some node => node.toValue?

end SqlAdvice.Yaml
