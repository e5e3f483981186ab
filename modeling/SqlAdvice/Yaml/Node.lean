import SqlAdvice.Yaml.Token

/-!
# YAML nodes

The tokens of a document make up a tree of scalars, sequences and mappings. A sequence in a block
mapping need not be indented. A key or a value that is not written is the empty plain scalar.

The readers take what they need off the front of the tokens. Their recursion is bounded by the first
argument; `Node.ofTokens?` passes a bound that no list of tokens exceeds.
-/

namespace SqlAdvice.Yaml

/-- A tree of a YAML document. -/
inductive Node where
  | scalar (text : List Char) (plain : Bool)
  | sequence (items : List Node)
  | mapping (pairs : List (Node × Node))

namespace Node

/-- The node that stands for nothing. -/
def empty : Node :=
  scalar [] true

/-- Tells whether the next token is one of several. -/
def nextIs (ts : List Token) (kinds : List Token) : Bool :=
  ts.head?.any kinds.contains

/-- Takes the comma that stands in front of every item but the first. -/
def takeSeparator (first : Bool) (ts : List Token) : Option (List Token) :=
  if first then some ts
  else match ts with
    | .flowEntry :: ts => some ts
    | _ => none

mutual

/-- Takes a node. Block collections are taken outside brackets only, and a sequence without its own
indentation only as a key or a value of a block mapping. -/
def take (inBlock indentless : Bool) : Nat → List Token →
    Option (Node × List Token)
  | 0, _ => none
  | n + 1, ts =>
    match ts with
    | .scalar text plain :: ts => some (scalar text plain, ts)
    | .flowSequenceStart :: ts =>
      (takeFlowItems true n ts).map fun (items, ts) => (sequence items, ts)
    | .flowMappingStart :: ts =>
      (takeFlowPairs true n ts).map fun (pairs, ts) => (mapping pairs, ts)
    | .blockSequenceStart :: ts =>
      if inBlock then do
        let (items, ts) ← takeEntries true n ts
        match ts with
        | .blockEnd :: ts => return (sequence items, ts)
        | _ => none
      else none
    | .blockMappingStart :: ts =>
      if inBlock then (takePairs n ts).map fun (pairs, ts) => (mapping pairs, ts) else none
    | .blockEntry :: _ =>
      if indentless then (takeEntries false n ts).map fun (items, ts) => (sequence items, ts)
      else none
    | _ => none

/-- Takes a node unless one of several tokens comes next. -/
def takeUnless (stops : List Token) (inBlock indentless : Bool) : Nat → List Token →
    Option (Node × List Token)
  | 0, _ => none
  | n + 1, ts =>
    if nextIs ts stops then some (empty, ts)
    else take inBlock indentless n ts

/-- Takes the entries of a block sequence, which has its own indentation or not. -/
def takeEntries (indented : Bool) : Nat → List Token →
    Option (List Node × List Token)
  | 0, _ => none
  | n + 1, ts =>
    match ts with
    | .blockEntry :: ts => do
      let stops := if indented then [.blockEntry, .blockEnd]
        else [.blockEntry, .key, .value, .blockEnd]
      let (item, ts) ← takeUnless stops true false n ts
      let (items, ts) ← takeEntries indented n ts
      return (item :: items, ts)
    | ts => some ([], ts)

/-- Takes the pairs of a block mapping and its end. -/
def takePairs : Nat → List Token →
    Option (List (Node × Node) × List Token)
  | 0, _ => none
  | n + 1, ts =>
    match ts with
    | .key :: ts => do
      let (key, ts) ← takeUnless [.key, .value, .blockEnd] true true n ts
      let (value, ts) ← takeValue [.key, .value, .blockEnd] true n ts
      let (pairs, ts) ← takePairs n ts
      return ((key, value) :: pairs, ts)
    | .blockEnd :: ts => some ([], ts)
    | _ => none

/-- Takes a colon and the value behind it, or nothing where no colon stands. -/
def takeValue (stops : List Token) (inBlock : Bool) : Nat → List Token →
    Option (Node × List Token)
  | 0, _ => none
  | n + 1, ts =>
    match ts with
    | .value :: ts => takeUnless stops inBlock inBlock n ts
    | ts => some (empty, ts)

/-- Takes the items of a sequence in brackets and its end. -/
def takeFlowItems (first : Bool) : Nat → List Token →
    Option (List Node × List Token)
  | 0, _ => none
  | n + 1, ts =>
    match ts with
    | .flowSequenceEnd :: ts => some ([], ts)
    | ts => do
      let ts ← takeSeparator first ts
      match ts with
      | .flowSequenceEnd :: ts => return ([], ts)
      | .key :: ts =>
        let (key, ts) ← takeUnless [.value, .flowEntry, .flowSequenceEnd] false false n ts
        let (value, ts) ← takeValue [.flowEntry, .flowSequenceEnd] false n ts
        let (items, ts) ← takeFlowItems false n ts
        return (mapping [(key, value)] :: items, ts)
      | ts =>
        let (item, ts) ← take false false n ts
        let (items, ts) ← takeFlowItems false n ts
        return (item :: items, ts)

/-- Takes the pairs of a mapping in braces and its end. -/
def takeFlowPairs (first : Bool) : Nat → List Token →
    Option (List (Node × Node) × List Token)
  | 0, _ => none
  | n + 1, ts =>
    match ts with
    | .flowMappingEnd :: ts => some ([], ts)
    | ts => do
      let ts ← takeSeparator first ts
      match ts with
      | .flowMappingEnd :: ts => return ([], ts)
      | .key :: ts =>
        let (key, ts) ← takeUnless [.value, .flowEntry, .flowMappingEnd] false false n ts
        let (value, ts) ← takeValue [.flowEntry, .flowMappingEnd] false n ts
        let (pairs, ts) ← takeFlowPairs false n ts
        return ((key, value) :: pairs, ts)
      | ts =>
        let (key, ts) ← take false false n ts
        let (pairs, ts) ← takeFlowPairs false n ts
        return ((key, empty) :: pairs, ts)

end

/-- The tree of the only document, or `none` inside for a text without one. A document may begin
with a marker and end with one. -/
def ofTokens? (ts : List Token) : Option (Option Node) := do
  let bound := 4 * ts.length + 8
  let node ← match ts with
    | [] => return none
    | .documentStart :: ts =>
      if ts.isEmpty || nextIs ts [.documentStart, .documentEnd] then some (empty, ts)
      else take true false bound ts
    | ts => take true false bound ts
  if node.2.all (· == .documentEnd) then return some node.1 else none

end Node

end SqlAdvice.Yaml
