import SqlAdvice.Text.Digit
import SqlAdvice.Text.Letter
import SqlAdvice.Text.PrintableTable

/-!
# Quoted texts

How a text is shown inside a message: between single quotes, or between double quotes when it
holds a single quote and no double one, with a backslash in front of the quote in use and of a
backslash, short escapes for tab, line feed and carriage return, and hexadecimal escapes for every
other character that has no printed form.
-/

namespace SqlAdvice.Text

/-- Holds of the characters that are shown as they are. -/
def isPrintable (c : Char) : Bool :=
  if c.toNat < 0x80 then 0x20 ≤ c.toNat && c.toNat < 0x7F
  else !inRanges unprintedRanges c.toNat

/-- The quote around a text: double when only single quotes occur in it. -/
def quoteFor (cs : List Char) : Char :=
  if cs.contains '\'' && !cs.contains '"' then '"' else '\''

/-- The hexadecimal escape of a character, in the shortest of the three widths. -/
def hexEscape (c : Char) : List Char :=
  let n := c.toNat
  if n < 0x100 then '\\' :: 'x' :: hex 2 n
  else if n < 0x10000 then '\\' :: 'u' :: hex 4 n
  else '\\' :: 'U' :: hex 8 n

/-- One character of a quoted text, where `shown` tells which ones need no escape. -/
def escapeWith (shown : Char → Bool) (quote c : Char) : List Char :=
  if c == '\\' || c == quote then ['\\', c]
  else if c == '\n' then ['\\', 'n']
  else if c == '\r' then ['\\', 'r']
  else if c == '\t' then ['\\', 't']
  else if shown c then [c]
  else hexEscape c

/-- A text between quotes, where `shown` tells which characters need no escape. -/
def quotedWith (shown : Char → Bool) (cs : List Char) : List Char :=
  let q := quoteFor cs
  q :: cs.flatMap (escapeWith shown q) ++ [q]

/-- A string as it is shown in a message. -/
def quoted (s : String) : String :=
  String.ofList (quotedWith isPrintable s.toList)

/-- A byte string as it is shown in a message: a letter `b`, then the bytes as characters, all but
the printable ASCII ones escaped. -/
def quotedBytes (bytes : List UInt8) : String :=
  let cs := bytes.map fun b => Char.ofNat b.toNat
  String.ofList ('b' :: quotedWith (fun c => c.toNat < 0x80 && isPrintable c) cs)

end SqlAdvice.Text
