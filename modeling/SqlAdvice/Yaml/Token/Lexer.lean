import SqlAdvice.Yaml.Token

/-!
# Cutting a YAML text into tokens

`Token.scan?` reads a text from left to right. Its state (`Lexer`) knows how deep in brackets the
text is, which columns of block collections are open, whether a scalar may be a key at this place,
and where a key would have begun at every depth.
-/

namespace SqlAdvice.Yaml

/-- A place where a key may have begun: how many tokens stand in front of it, where it is in the
text, and whether it has to be a key because a block mapping goes on there. -/
structure KeyStart where
  tokens : Nat
  required : Bool
  place : Cursor

/-- The state of a reader of tokens. -/
structure Lexer where
  cursor : Cursor
  /-- How many brackets and braces are open. -/
  depth : Nat := 0
  /-- The column of the innermost open block collection. -/
  indent : Int := -1
  /-- The columns of the block collections around it. -/
  outer : List Int := []
  keyAllowed : Bool := true
  keys : List (Nat × KeyStart) := []
  tokens : Array Token := #[]

namespace Lexer

/-- How far a key may stand in front of its colon. -/
def keyReach : Nat := 1024

/-- Adds a token. -/
def emit (t : Token) (lx : Lexer) : Lexer :=
  { lx with tokens := lx.tokens.push t }

/-- Goes on behind the next `n` characters. -/
def advance (n : Nat) (lx : Lexer) : Lexer :=
  { lx with cursor := lx.cursor.skip n }

/-- Says whether a key may begin at the next token. -/
def allowKey (allowed : Bool) (lx : Lexer) : Lexer :=
  { lx with keyAllowed := allowed }

/-- The place at this depth where a key may have begun. -/
def key? (lx : Lexer) : Option KeyStart :=
  (lx.keys.find? (·.1 == lx.depth)).map (·.2)

/-- Forgets the place at this depth. A key that has to be there cannot be forgotten. -/
def forgetKey (lx : Lexer) : Option Lexer :=
  if lx.key?.any (·.required) then none
  else some { lx with keys := lx.keys.filter (·.1 != lx.depth) }

/-- Notes that a key may begin here. -/
def noteKey (lx : Lexer) : Option Lexer := do
  if !lx.keyAllowed then return lx
  let required := lx.depth == 0 && lx.indent == lx.cursor.column
  let lx ← lx.forgetKey
  return { lx with keys := (lx.depth, ⟨lx.tokens.size, required, lx.cursor⟩) :: lx.keys }

/-- Forgets the places that are on another line or too far back. -/
def forgetStaleKeys (lx : Lexer) : Option Lexer :=
  let stale := fun k : KeyStart =>
    k.place.line != lx.cursor.line || keyReach < lx.cursor.index - k.place.index
  if lx.keys.any fun k => stale k.2 && k.2.required then none
  else some { lx with keys := lx.keys.filter fun k => !stale k.2 }

/-- Closes block collections of given columns that lie right of `column`, the innermost first. -/
def closeRightOf (column indent : Int) (tokens : Array Token) :
    List Int → Int × List Int × Array Token
  | [] => (indent, [], tokens)
  | next :: outer =>
    if indent > column then closeRightOf column next (tokens.push .blockEnd) outer
    else (indent, next :: outer, tokens)

/-- Closes the block collections that lie right of a column; inside brackets indentation means
nothing. -/
def unwind (column : Int) (lx : Lexer) : Lexer :=
  if lx.depth > 0 then lx
  else
    let (indent, outer, tokens) := closeRightOf column lx.indent lx.tokens lx.outer
    { lx with indent, outer, tokens }

/-- Opens a block collection at a column right of the innermost one, its token going to a given
place. -/
def openBlock (column : Nat) (t : Token) (at_ : Nat) (lx : Lexer) : Lexer :=
  if lx.indent < column then
    { lx with
      indent := column
      outer := lx.indent :: lx.outer
      tokens := lx.tokens.insertIdxIfInBounds at_ t }
  else lx

/-- Skips spaces, comments and line ends. Outside brackets a key may begin on a new line. The bound
is the length of what is left. -/
def skipToToken : Nat → Lexer → Lexer
  | 0, lx => lx
  | n + 1, lx =>
    let c := lx.cursor.skipWhile (· == ' ')
    let c := if c.peek? == some '#' then c.skipWhile fun x => !isBreak x else c
    match c.takeBreak? with
    | some (_, c) =>
      skipToToken n { lx with cursor := c, keyAllowed := lx.keyAllowed || lx.depth == 0 }
    | none => { lx with cursor := c }

/-! ## One token -/

/-- Takes a document marker. -/
def marker (t : Token) (lx : Lexer) : Option Lexer := do
  let lx ← (lx.unwind (-1)).forgetKey
  return ((lx.allowKey false).advance 3).emit t

/-- Takes an opening bracket or brace. -/
def openFlow (t : Token) (lx : Lexer) : Option Lexer := do
  let lx ← lx.noteKey
  return (({ lx with depth := lx.depth + 1 }.allowKey true).advance 1).emit t

/-- Takes a closing bracket or brace. -/
def closeFlow (t : Token) (lx : Lexer) : Option Lexer := do
  if lx.depth == 0 then none
  let lx ← lx.forgetKey
  return (({ lx with depth := lx.depth - 1 }.allowKey false).advance 1).emit t

/-- Takes the comma between two items. -/
def flowEntry (lx : Lexer) : Option Lexer := do
  let lx ← (lx.allowKey true).forgetKey
  return (lx.advance 1).emit .flowEntry

/-- Takes the dash in front of an item of a block sequence. -/
def blockEntry (lx : Lexer) : Option Lexer := do
  if lx.depth == 0 && !lx.keyAllowed then none
  let lx := if lx.depth == 0 then
    lx.openBlock lx.cursor.column .blockSequenceStart lx.tokens.size else lx
  let lx ← (lx.allowKey true).forgetKey
  return (lx.advance 1).emit .blockEntry

/-- Takes the question mark in front of a key. -/
def explicitKey (lx : Lexer) : Option Lexer := do
  if lx.depth == 0 && !lx.keyAllowed then none
  let lx := if lx.depth == 0 then
    lx.openBlock lx.cursor.column .blockMappingStart lx.tokens.size else lx
  let lx ← (lx.allowKey (lx.depth == 0)).forgetKey
  return (lx.advance 1).emit .key

/-- Takes the colon between a key and its value. Where a key may have begun on the same line, its
token is put there, and a block mapping opens at its column. -/
def colon (lx : Lexer) : Option Lexer := do
  match lx.key? with
  | some k =>
    let lx := { lx with
      keys := lx.keys.filter (·.1 != lx.depth)
      tokens := lx.tokens.insertIdxIfInBounds k.tokens .key }
    let lx := if lx.depth == 0 then
      lx.openBlock k.place.column .blockMappingStart k.tokens else lx
    return ((lx.allowKey false).advance 1).emit .value
  | none =>
    if lx.depth == 0 && !lx.keyAllowed then none
    let lx := if lx.depth == 0 then
      lx.openBlock lx.cursor.column .blockMappingStart lx.tokens.size else lx
    let lx ← (lx.allowKey (lx.depth == 0)).forgetKey
    return (lx.advance 1).emit .value

/-- Takes a block scalar. -/
def blockScalar (folded : Bool) (lx : Lexer) : Option Lexer := do
  let lx ← (lx.allowKey true).forgetKey
  let (text, c) ← takeBlock folded lx.indent lx.cursor.step
  return { lx with cursor := c }.emit (.scalar text false)

/-- Takes a scalar in quotes. -/
def quotedScalar (quote : Char) (lx : Lexer) : Option Lexer := do
  let lx ← lx.noteKey
  let (text, c) ← takeQuoted quote lx.cursor.rest.length lx.cursor.step
  return ({ lx with cursor := c }.allowKey false).emit (.scalar text false)

/-- Takes a plain scalar. -/
def plainScalar (lx : Lexer) : Option Lexer := do
  let lx ← lx.noteKey
  let (text, ended, c) :=
    takePlain (lx.depth > 0) (lx.indent + 1) (lx.cursor.rest.length + 1) lx.cursor [] false
  return ({ lx with cursor := c }.allowKey ended).emit (.scalar text true)

/-- The characters with a meaning of their own, which begin no plain scalar, or only where no gap
follows them. -/
def marks : List Char :=
  ['-', '?', ':', ',', '[', ']', '{', '}', '#', '&', '*', '!', '|', '>', '\'', '"', '%', '@',
    '\x60']

/-- Takes the token that begins with a character. -/
def take (lx : Lexer) (x : Char) (after : List Char) : Option Lexer :=
  let column := lx.cursor.column
  let inFlow := lx.depth > 0
  let gap := gapFollows after
  if x == '%' && column == 0 then none
  else if column == 0 && lx.cursor.atMarker then
    lx.marker (if x == '-' then .documentStart else .documentEnd)
  else if x == '[' then lx.openFlow .flowSequenceStart
  else if x == '{' then lx.openFlow .flowMappingStart
  else if x == ']' then lx.closeFlow .flowSequenceEnd
  else if x == '}' then lx.closeFlow .flowMappingEnd
  else if x == ',' then lx.flowEntry
  else if x == '-' && gap then lx.blockEntry
  else if x == '?' && (inFlow || gap) then lx.explicitKey
  else if x == ':' && (inFlow || gap) then lx.colon
  else if x == '|' && !inFlow then lx.blockScalar false
  else if x == '>' && !inFlow then lx.blockScalar true
  else if x == '\'' || x == '"' then lx.quotedScalar x
  else if !isGap x && !marks.contains x then lx.plainScalar
  else if !gap && (x == '-' || (!inFlow && (x == '?' || x == ':'))) then lx.plainScalar
  else none

/-- Takes all tokens that are left. Every round takes a character or is the last one, so the number
of rounds is bounded by the length of the text. -/
def scanRest : Nat → Lexer → Option (Array Token)
  | 0, _ => none
  | n + 1, lx => do
    let lx := lx.skipToToken (lx.cursor.rest.length + 1)
    let lx ← lx.forgetStaleKeys
    let lx := lx.unwind lx.cursor.column
    match lx.cursor.rest with
    | [] =>
      let lx ← (lx.unwind (-1)).forgetKey
      return lx.tokens
    | x :: after =>
      let lx ← lx.take x after
      scanRest n lx

end Lexer

/-- The tokens of a text. -/
def Token.scan? (cs : List Char) : Option (List Token) :=
  let start : Cursor := ⟨cs, 0, 0, 0⟩
  let start := if start.peek? == some '\uFEFF' then start.step else start
  if cs.all isWritable then
    (Lexer.scanRest (cs.length + 1) { cursor := start }).map (·.toList)
  else none

end SqlAdvice.Yaml
