/-!
# Places in a YAML text

A cursor is a place in a text: what is left of it, and the line and the column where it is left. The
texts have their newlines unified, so a line ends at a line feed, at a next-line character or at one
of the two Unicode separators.
-/

namespace SqlAdvice.Yaml

/-- Holds of the characters that end a line. -/
def isBreak (c : Char) : Bool :=
  c == '\n' || c == '\u0085' || c == '\u2028' || c == '\u2029'

/-- Holds of the characters that separate tokens. -/
def isGap (c : Char) : Bool :=
  c == ' ' || c == '\t' || isBreak c

/-- A gap or the end of the text comes next. -/
def gapFollows (cs : List Char) : Bool :=
  cs.head?.all isGap

/-- Holds of the characters that a text may hold: those with a written form, tab, line ends and the
byte order mark. -/
def isWritable (c : Char) : Bool :=
  let n := c.toNat
  n == 0x09 || n == 0x0A || n == 0x0D || (0x20 ≤ n && n ≤ 0x7E) || n == 0x85 ||
    (0xA0 ≤ n && n ≤ 0xD7FF) || (0xE000 ≤ n && n ≤ 0xFFFD) || 0x10000 ≤ n

/-- A place in a text. -/
structure Cursor where
  rest : List Char
  index : Nat := 0
  line : Nat := 0
  column : Nat := 0

namespace Cursor

/-- The next character. -/
def peek? (c : Cursor) : Option Char :=
  c.rest.head?

/-- The place behind the next character. -/
def step (c : Cursor) : Cursor :=
  match c.rest with
  | [] => c
  | x :: rest =>
    if isBreak x then ⟨rest, c.index + 1, c.line + 1, 0⟩
    else if x == '\uFEFF' then ⟨rest, c.index + 1, c.line, c.column⟩
    else ⟨rest, c.index + 1, c.line, c.column + 1⟩

/-- The place behind the next `n` characters. -/
def skip (c : Cursor) : Nat → Cursor
  | 0 => c
  | n + 1 => c.step.skip n

/-- The place behind the characters that satisfy `p`. -/
def skipWhile (p : Char → Bool) (c : Cursor) : Cursor :=
  c.skip (c.rest.takeWhile p).length

/-- Takes a line end, written as the line feed unless it is one of the two separators. -/
def takeBreak? (c : Cursor) : Option (Char × Cursor) :=
  match c.peek? with
  | some x => if isBreak x then some (if x == '\u0085' then '\n' else x, c.step) else none
  | none => none

/-- One of the two document markers stands here: three characters, then a gap. -/
def atMarker (c : Cursor) : Bool :=
  match c.rest with
  | '-' :: '-' :: '-' :: rest => gapFollows rest
  | '.' :: '.' :: '.' :: rest => gapFollows rest
  | _ => false

end Cursor

end SqlAdvice.Yaml
