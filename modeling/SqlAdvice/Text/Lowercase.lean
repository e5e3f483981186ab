import SqlAdvice.Text.CaseTable
import SqlAdvice.Text.Letter

/-!
# Lower case

The full lower-casing of Unicode: every character goes to its partner, `İ` goes to two characters,
and a capital sigma that ends a word goes to the final sigma. Two names are the same table name
when their lower-case forms are equal (`sameName`).
-/

namespace SqlAdvice.Text

/-- The lower-case form of one character, apart from its neighbours. -/
def lowerChar (c : Char) : List Char :=
  if c.toNat < 0x80 then [c.toLower]
  else if c == 'İ' then ['i', '\u0307']
  else match caseRuns.find? (·.has c.toNat) with
    | some r => [Char.ofNat (c.toNat + r.shift).toNat]
    | none => [c]

/-- The first character that is not passed over is a cased one. -/
def meetsLetter (cs : List Char) : Bool :=
  (cs.find? fun c => !inRanges caseIgnorableRanges c.toNat).any fun c => inRanges casedRanges c.toNat

/-- The lower-case form of a text whose characters before it are `before`, the nearest first. A
capital sigma is final when a letter stands before it and none after it. -/
def lowerAfter (before : List Char) : List Char → List Char
  | [] => []
  | c :: cs =>
    (if c == 'Σ' then [if meetsLetter before && !meetsLetter cs then 'ς' else 'σ'] else lowerChar c)
      ++ lowerAfter (c :: before) cs

/-- The lower-case form of a text. -/
def lower (cs : List Char) : List Char :=
  lowerAfter [] cs

/-- The lower-case form of a string. -/
def lowered (s : String) : String :=
  String.ofList (lower s.toList)

/-- Two names that differ in letter case only. -/
def sameName (a b : String) : Bool :=
  lowered a == lowered b

end SqlAdvice.Text
