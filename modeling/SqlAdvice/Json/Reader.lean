import SqlAdvice.Json.Basic

/-!
# Reading JSON

Reads JSON, and the words `NaN`, `Infinity` and `-Infinity` besides. A number without a fraction and
without an exponent is an integer of any size; any other number is a double. The readers take what
they need off the front of a text and give back the rest.

The recursion of `readValue?` is bounded by its first argument; `read?` passes a bound that no text
exceeds, since each call takes at least one character off the text or follows one that did.
-/

namespace SqlAdvice.Json

open SqlAdvice.Number SqlAdvice.Text

/-- Holds of the characters that may stand between the parts of a JSON text. -/
def isSpace (c : Char) : Bool :=
  c == ' ' || c == '\t' || c == '\n' || c == '\r'

/-- Drops spaces from the front. -/
def skipSpaces (cs : List Char) : List Char :=
  cs.dropWhile isSpace

/-! ## Texts -/

/-- The character for a letter behind a backslash. -/
def unescape? (c : Char) : Option Char :=
  match c with
  | '"' => some '"'
  | '\\' => some '\\'
  | '/' => some '/'
  | 'b' => some '\x08'
  | 'f' => some '\x0c'
  | 'n' => some '\n'
  | 'r' => some '\r'
  | 't' => some '\t'
  | _ => none

/-- The value of four hexadecimal digits. -/
def hexValue? (a b c d : Char) : Option Nat := do
  return ofDigits 16 [← hexDigit? a, ← hexDigit? b, ← hexDigit? c, ← hexDigit? d]

/-- The first half of a surrogate pair that found no second half, as a character. -/
def unpaired : Option Nat → List Char
  | none => []
  | some _ => ['\uFFFD']

/-- What a code unit adds to a text behind a pending first half of a surrogate pair: the characters
that are complete, and the first half that is pending now. -/
def addUnit (pending : Option Nat) (unit : Nat) : List Char × Option Nat :=
  if 0xD800 ≤ unit && unit ≤ 0xDBFF then (unpaired pending, some unit)
  else if 0xDC00 ≤ unit && unit ≤ 0xDFFF then
    match pending with
    | some high => ([Char.ofNat (0x10000 + (high - 0xD800) * 0x400 + (unit - 0xDC00))], none)
    | none => (['\uFFFD'], none)
  else (unpaired pending ++ [Char.ofNat unit], none)

/-- Takes a text up to its closing quote. -/
def readText? (pending : Option Nat) : List Char → Option (List Char × List Char)
  | [] => none
  | '"' :: rest => some (unpaired pending, rest)
  | '\\' :: 'u' :: a :: b :: c :: d :: rest => do
    let unit ← hexValue? a b c d
    let (done, pending) := addUnit pending unit
    let (more, rest) ← readText? pending rest
    return (done ++ more, rest)
  | '\\' :: e :: rest => do
    let c ← unescape? e
    let (more, rest) ← readText? none rest
    return (unpaired pending ++ c :: more, rest)
  | c :: rest =>
    if c.toNat < 0x20 || c == '\\' then none
    else do
      let (more, rest) ← readText? none rest
      return (unpaired pending ++ c :: more, rest)

/-! ## Numbers -/

/-- Holds of the ASCII digits. -/
def isDigit (c : Char) : Bool :=
  (asciiDigit? c).isSome

/-- Takes a point and digits off the front of a text, or nothing where they do not stand. -/
def takeFraction : List Char → List Char × List Char
  | '.' :: cs =>
    if cs.head?.any isDigit then ('.' :: cs.takeWhile isDigit, cs.dropWhile isDigit)
    else ([], '.' :: cs)
  | cs => ([], cs)

/-- Takes an exponent off the front of a text, or nothing where there is none. -/
def takeExponent : List Char → List Char × List Char
  | [] => ([], [])
  | c :: cs =>
    if c == 'e' || c == 'E' then
      let (sign, digits) := match cs with
        | '+' :: ds => (['+'], ds)
        | '-' :: ds => (['-'], ds)
        | ds => ([], ds)
      if digits.head?.any isDigit then
        ('e' :: sign ++ digits.takeWhile isDigit, digits.dropWhile isDigit)
      else ([], c :: cs)
    else ([], c :: cs)

/-- Takes the digits in front of a point off the front of a text: a zero alone, or digits that begin
with another one. -/
def takeWhole? : List Char → Option (List Char × List Char)
  | [] => none
  | c :: cs =>
    if c == '0' then some (['0'], cs)
    else if isDigit c then some (c :: cs.takeWhile isDigit, cs.dropWhile isDigit)
    else none

/-- Takes a number off the front of a text. -/
def readNumber? (cs : List Char) : Option (Json × List Char) := do
  let (negative, body) := match cs with
    | '-' :: body => (true, body)
    | body => (false, body)
  let (whole, rest) ← takeWhole? body
  let (fraction, rest) := takeFraction rest
  let (exponent, rest) := takeExponent rest
  if fraction.isEmpty && exponent.isEmpty then
    return (int (withSign negative (ofDigits 10 (whole.filterMap asciiDigit?))), rest)
  else
    let x ← Double.read? (whole ++ fraction ++ exponent)
    return (float (if negative then -x else x), rest)

/-! ## Values -/

/-- Takes given characters off the front of a text. -/
def dropText? : List Char → List Char → Option (List Char)
  | [], cs => some cs
  | _ :: _, [] => none
  | k :: ks, c :: cs => if k == c then dropText? ks cs else none

/-- The words that stand for values. -/
def words : List (List Char × Json) := [
  (['n', 'u', 'l', 'l'], null),
  (['t', 'r', 'u', 'e'], bool true),
  (['f', 'a', 'l', 's', 'e'], bool false),
  (['N', 'a', 'N'], float (0.0 / 0.0)),
  (['I', 'n', 'f', 'i', 'n', 'i', 't', 'y'], float (1.0 / 0.0)),
  (['-', 'I', 'n', 'f', 'i', 'n', 'i', 't', 'y'], float (-(1.0 / 0.0)))]

/-- Takes a word or a number off the front of a text. -/
def readScalar? (cs : List Char) : Option (Json × List Char) :=
  (words.findSome? fun (word, j) => (dropText? word cs).map fun rest => (j, rest)).or
    (readNumber? cs)

mutual

/-- Takes a value off the front of a text. -/
def readValue? : Nat → List Char → Option (Json × List Char)
  | 0, _ => none
  | n + 1, cs =>
    match cs with
    | '"' :: cs => (readText? none cs).map fun (s, rest) => (text (String.ofList s), rest)
    | '[' :: cs =>
      match skipSpaces cs with
      | ']' :: rest => some (list [], rest)
      | cs => (readItems? n cs).map fun (items, rest) => (list items, rest)
    | '{' :: cs =>
      match skipSpaces cs with
      | '}' :: rest => some (object [], rest)
      | cs => (readMembers? n cs).map fun (members, rest) => (object members, rest)
    | cs => readScalar? cs

/-- Takes the items of a list and its closing bracket off the front of a text. -/
def readItems? : Nat → List Char → Option (List Json × List Char)
  | 0, _ => none
  | n + 1, cs => do
    let (item, rest) ← readValue? n cs
    match skipSpaces rest with
    | ']' :: rest => return ([item], rest)
    | ',' :: rest =>
      let (items, rest) ← readItems? n (skipSpaces rest)
      return (item :: items, rest)
    | _ => none

/-- Takes the members of an object and its closing brace off the front of a text. -/
def readMembers? : Nat → List Char → Option (List (String × Json) × List Char)
  | 0, _ => none
  | n + 1, cs =>
    match cs with
    | '"' :: cs => do
      let (name, rest) ← readText? none cs
      match skipSpaces rest with
      | ':' :: rest =>
        let (item, rest) ← readValue? n (skipSpaces rest)
        let member := (String.ofList name, item)
        match skipSpaces rest with
        | '}' :: rest => return ([member], rest)
        | ',' :: rest =>
          let (members, rest) ← readMembers? n (skipSpaces rest)
          return (member :: members, rest)
        | _ => none
      | _ => none
    | _ => none

end

/-- Reads a whole text as one JSON value with spaces around it. -/
def read? (cs : List Char) : Option Json := do
  let (j, rest) ← readValue? (2 * cs.length + 1) (skipSpaces cs)
  if (skipSpaces rest).isEmpty then return j else none

end SqlAdvice.Json
