import SqlAdvice.Number.Decimal
import SqlAdvice.Yaml.Cursor

/-!
# YAML tokens

A YAML text is first cut into tokens. Indentation becomes tokens of its own: a block collection
opens where a column is first used and closes where the text falls back to the left of it. Whether a
scalar is the key of a mapping is known only at the colon behind it, so the key token is put in
front of the scalar then; the scalar has to stand on the line of the colon and not too far in front
of it.

The readers cover block and flow collections, scalars of all five styles, comments and document
markers. Anchors, aliases, tags and directives are refused.
-/

namespace SqlAdvice.Yaml

open SqlAdvice.Number SqlAdvice.Text

/-- A part of a YAML text. -/
inductive Token where
  | documentStart
  | documentEnd
  | blockSequenceStart
  | blockMappingStart
  | blockEnd
  | flowSequenceStart
  | flowSequenceEnd
  | flowMappingStart
  | flowMappingEnd
  | blockEntry
  | flowEntry
  | key
  | value
  /-- A scalar; a plain one stands without quotes and may be more than a text. -/
  | scalar (text : List Char) (plain : Bool)
  deriving DecidableEq

/-! ## Scalars in quotes -/

/-- The line ends, and the blanks around them, behind a line end inside quotes. A document marker
may not stand there. The bound is the length of what is left. -/
def quotedBreaks : Nat → Cursor → Option (List Char × Cursor)
  | 0, _ => none
  | n + 1, c =>
    if c.atMarker then none
    else
      let c := c.skipWhile fun x => x == ' ' || x == '\t'
      match c.takeBreak? with
      | some (b, c) => (quotedBreaks n c).map fun (bs, c) => (b :: bs, c)
      | none => some ([], c)

/-- What a line end and further line ends behind it stand for: a single one is a space, and of
several the first goes. -/
def foldBreaks (b : Char) (more : List Char) : List Char :=
  if b != '\n' then b :: more else if more.isEmpty then [' '] else more

/-- Blanks inside quotes: they stand for themselves unless a line ends behind them. -/
def quotedBlanks (c : Cursor) : Option (List Char × Cursor) :=
  let isBlank := fun x => x == ' ' || x == '\t'
  let blanks := c.rest.takeWhile isBlank
  let c := c.skipWhile isBlank
  match c.takeBreak? with
  | some (b, c) =>
    (quotedBreaks (c.rest.length + 1) c).map fun (bs, c) => (foldBreaks b bs, c)
  | none => some (blanks, c)

/-- The character for a letter behind a backslash. -/
def escaped? (c : Char) : Option Char :=
  match c with
  | '0' => some '\x00'
  | 'a' => some '\x07'
  | 'b' => some '\x08'
  | 't' => some '\t'
  | '\t' => some '\t'
  | 'n' => some '\n'
  | 'v' => some '\x0b'
  | 'f' => some '\x0c'
  | 'r' => some '\r'
  | 'e' => some '\x1b'
  | ' ' => some ' '
  | '"' => some '"'
  | '\\' => some '\\'
  | '/' => some '/'
  | 'N' => some '\u0085'
  | '_' => some '\u00a0'
  | 'L' => some '\u2028'
  | 'P' => some '\u2029'
  | _ => none

/-- How many hexadecimal digits follow a letter behind a backslash. -/
def codeWidth? (c : Char) : Option Nat :=
  match c with
  | 'x' => some 2
  | 'u' => some 4
  | 'U' => some 8
  | _ => none

/-- Takes an escape, the backslash being gone already. -/
def takeEscape (c : Cursor) : Option (List Char × Cursor) := do
  let x ← c.peek?
  if isBreak x then quotedBreaks c.rest.length c.step
  else match escaped? x, codeWidth? x with
    | some y, _ => return ([y], c.step)
    | none, some width =>
      let c := c.step
      let digits := c.rest.take width
      let code := ofDigits 16 (← digits.mapM hexDigit?)
      if digits.length == width && code.isValidChar then
        return ([Char.ofNat code], c.skip width)
      else none
    | none, none => none

/-- Takes a scalar in quotes up to its closing quote. The bound is the length of what is left. -/
def takeQuoted (quote : Char) : Nat → Cursor → Option (List Char × Cursor)
  | 0, _ => none
  | n + 1, c => do
    let x ← c.peek?
    let (part, c) ←
      if x == quote then
        if quote == '\'' && c.step.peek? == some '\'' then pure (['\''], c.skip 2)
        else return ([], c.step)
      else if quote == '"' && x == '\\' then takeEscape c.step
      else if isGap x then quotedBlanks c
      else pure ([x], c.step)
    let (more, c) ← takeQuoted quote n c
    return (part ++ more, c)

/-! ## Plain scalars -/

/-- Holds of the characters with a meaning inside brackets and braces. -/
def isFlowMark (c : Char) : Bool :=
  c == ',' || c == '[' || c == ']' || c == '{' || c == '}'

/-- The characters of a plain scalar up to the next gap, or to the next mark that ends it. -/
def plainRun (inFlow : Bool) : List Char → List Char
  | [] => []
  | c :: cs =>
    if isGap c then []
    else if c == ':' && (gapFollows cs || (inFlow && cs.head?.any isFlowMark)) then []
    else if inFlow && (isFlowMark c || c == '?') then []
    else c :: plainRun inFlow cs

/-- The further line ends, and the spaces around them, behind a line end in a plain scalar; nothing
at all where a document marker stands. The bound is the length of what is left. -/
def plainBreaks : Nat → Cursor → Option (List Char) × Cursor
  | 0, c => (none, c)
  | n + 1, c =>
    if c.atMarker then (none, c)
    else
      let c := c.skipWhile (· == ' ')
      match c.takeBreak? with
      | some (b, c) =>
        let (bs, c) := plainBreaks n c
        (bs.map (b :: ·), c)
      | none => (some [], c)

/-- What separates two runs of a plain scalar, and whether a line ends there. -/
def plainGap (c : Cursor) : List Char × Bool × Cursor :=
  let spaces := c.rest.takeWhile (· == ' ')
  let c := c.skipWhile (· == ' ')
  match c.takeBreak? with
  | some (b, c) =>
    let (bs, c) := plainBreaks (c.rest.length + 1) c
    ((bs.map (foldBreaks b)).getD [], true, c)
  | none => (spaces, false, c)

/-- A plain scalar that goes on: its text, whether it ends at a line end, and the place behind it.
Outside brackets it goes on only as long as the text stays right of column `least`. -/
def takePlain (inFlow : Bool) (least : Int) : Nat → Cursor → List Char → Bool →
    List Char × Bool × Cursor
  | 0, c, _, ended => ([], ended, c)
  | n + 1, c, gap, ended =>
    let run := if c.peek? == some '#' then [] else plainRun inFlow c.rest
    if run.isEmpty then ([], ended, c)
    else
      let (nextGap, broken, c) := plainGap (c.skip run.length)
      if nextGap.isEmpty || c.peek? == some '#' || (!inFlow && (c.column : Int) < least) then
        (gap ++ run, broken, c)
      else
        let (more, ended, c) := takePlain inFlow least n c nextGap broken
        (gap ++ run ++ more, ended, c)

/-! ## Block scalars -/

/-- What the header of a block scalar asks for: whether the line ends at its end are kept (all of
them, one or none) and how far it is indented. -/
structure BlockHeader where
  keep : Option Bool := none
  increment : Option Nat := none

/-- Takes the mark for the line ends at the end. -/
def takeKeep (c : Cursor) : Option Bool × Cursor :=
  match c.peek? with
  | some '+' => (some true, c.step)
  | some '-' => (some false, c.step)
  | _ => (none, c)

/-- Takes the digit for the indentation, which may not be zero. -/
def takeIncrement (c : Cursor) : Option (Option Nat × Cursor) :=
  match c.peek?.bind asciiDigit? with
  | some 0 => none
  | some d => some (some d, c.step)
  | none => some (none, c)

/-- Takes the header of a block scalar with the rest of its line, which may hold a comment only. -/
def takeBlockHeader (c : Cursor) : Option (BlockHeader × Cursor) := do
  let (keep, c) := takeKeep c
  let (increment, c) ← takeIncrement c
  let (keep, c) := if keep.isNone then takeKeep c else (keep, c)
  if c.peek?.any fun x => x != ' ' && !isBreak x then none
  let c := c.skipWhile (· == ' ')
  let c := if c.peek? == some '#' then c.skipWhile fun x => !isBreak x else c
  match c.peek? with
  | none => return (⟨keep, increment⟩, c)
  | some _ =>
    let (_, c) ← c.takeBreak?
    return (⟨keep, increment⟩, c)

/-- The empty lines in front of a block scalar and the widest indentation among them. The bound is
the length of what is left. -/
def leadingBreaks : Nat → Nat → Cursor → List Char × Nat × Cursor
  | 0, widest, c => ([], widest, c)
  | n + 1, widest, c =>
    let c := c.skipWhile (· == ' ')
    let widest := max widest c.column
    match c.takeBreak? with
    | some (b, c) =>
      let (bs, widest, c) := leadingBreaks n widest c
      (b :: bs, widest, c)
    | none => ([], widest, c)

/-- Skips spaces up to a column. -/
def skipIndent (column : Nat) (c : Cursor) : Cursor :=
  c.skip ((c.rest.takeWhile (· == ' ')).length.min (column - c.column))

/-- The empty lines between two lines of a block scalar. The bound is the length of what is left. -/
def blockBreaks (column : Nat) : Nat → Cursor → List Char × Cursor
  | 0, c => ([], c)
  | n + 1, c =>
    let c := skipIndent column c
    match c.takeBreak? with
    | some (b, c) =>
      let (bs, c) := blockBreaks column n c
      (b :: bs, c)
    | none => ([], c)

/-- The lines of a block scalar whose text begins at a column, behind the line ends `before`. In a
folded scalar the line end between two lines that both begin with a text is a space, or nothing
where empty lines follow. The bound is the length of what is left. -/
def blockLines (folded : Bool) (keep : Option Bool) (column : Nat) :
    Nat → List Char → Cursor → List Char × Cursor
  | 0, _, c => ([], c)
  | n + 1, before, c =>
    let isBlank := fun x => x == ' ' || x == '\t'
    let startsWithText := c.peek?.all fun x => !isBlank x
    let line := c.rest.takeWhile fun x => !isBreak x
    let c := c.skip line.length
    let (lineEnd, c) := match c.takeBreak? with
      | some (b, c) => ([b], c)
      | none => ([], c)
    let (breaks, c) := blockBreaks column (c.rest.length + 1) c
    if c.column == column && c.peek?.isSome then
      let joined :=
        if folded && lineEnd == ['\n'] && startsWithText && c.peek?.all (fun x => !isBlank x) then
          if breaks.isEmpty then [' '] else []
        else lineEnd
      let (more, c) := blockLines folded keep column n breaks c
      (before ++ line ++ joined ++ more, c)
    else
      let tail := if keep == some false then [] else lineEnd
      (before ++ line ++ tail ++ (if keep == some true then breaks else []), c)

/-- Takes a block scalar, its mark being gone already, inside a block of a given indentation. -/
def takeBlock (folded : Bool) (indent : Int) (c : Cursor) : Option (List Char × Cursor) := do
  let (header, c) ← takeBlockHeader c
  let least := max 1 (indent + 1).toNat
  let (breaks, column, c) := match header.increment with
    | none =>
      let (breaks, widest, c) := leadingBreaks (c.rest.length + 1) 0 c
      (breaks, max least widest, c)
    | some d =>
      let column := least + d - 1
      let (breaks, c) := blockBreaks column (c.rest.length + 1) c
      (breaks, column, c)
  if c.column == column && c.peek?.isSome then
    return blockLines folded header.keep column (c.rest.length + 1) breaks c
  else return (if header.keep == some true then breaks else [], c)

end SqlAdvice.Yaml
