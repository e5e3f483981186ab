import SqlAdvice.Json.Basic
import SqlAdvice.Number.Decimal
import Mathlib.Tactic.Common

/-!
# The grammar of JSON

What a text stands for is said here without a reader, as a relation between values and texts with
one constructor for each production of RFC 8259: `ValueText` with its lists and objects, `CharsText`
for what stands between quotes, and `NatText` and `IntText` for numbers.  Integers have any size.

Where readers differ, a text stands for nothing.  A number with a fraction or an exponent is
approximated by each of them in its own way, a zero with a sign is an integer to some only, and of
the members with one name some keep the first and some the last.  What is left has one meaning, with
the members of an object in order.

A reader follows the grammar (`FollowsGrammar`) when it reads every text that stands for a value,
with spaces around it, as that value.  Nothing is asked of it on other texts.
-/

namespace SqlAdvice.Json

open SqlAdvice.Number

/-! ## Spaces and numbers -/

/-- Holds of texts of spaces, tabs and line ends. -/
def Spaces (cs : List Char) : Prop :=
  ∀ c ∈ cs, c ∈ [' ', '\t', '\n', '\r']

/-- The texts of a natural number: digits, of which the first is a zero only where it is alone. -/
inductive NatText : Nat → List Char → Prop where
  | digit {d : Nat} (hd : d < 10) : NatText d [digitChar d]
  | more {n d : Nat} {cs : List Char} (hn : 0 < n) (hd : d < 10) (h : NatText n cs) :
    NatText (10 * n + d) (cs ++ [digitChar d])

/-- The texts of an integer. -/
inductive IntText : Int → List Char → Prop where
  | nonneg {n : Nat} {cs : List Char} (h : NatText n cs) : IntText n cs
  | neg {n : Nat} {cs : List Char} (hn : 0 < n) (h : NatText n cs) : IntText (-n) ('-' :: cs)

/-! ## Characters between quotes -/

/-- The letters behind a backslash that stand for one character. -/
def shortEscapes : List (Char × Char) :=
  [('"', '"'), ('\\', '\\'), ('/', '/'), ('b', '\x08'), ('f', '\x0c'), ('n', '\n'), ('r', '\r'),
    ('t', '\t')]

/-- The hexadecimal digits with their values. -/
def hexDigits : List (Char × Nat) :=
  [('0', 0), ('1', 1), ('2', 2), ('3', 3), ('4', 4), ('5', 5), ('6', 6), ('7', 7), ('8', 8),
    ('9', 9), ('a', 10), ('b', 11), ('c', 12), ('d', 13), ('e', 14), ('f', 15), ('A', 10),
    ('B', 11), ('C', 12), ('D', 13), ('E', 14), ('F', 15)]

/-- The four-digit texts of a code unit. -/
inductive UnitText : Nat → List Char → Prop where
  | mk {a b c d : Char} {i j k l : Nat} (ha : (a, i) ∈ hexDigits) (hb : (b, j) ∈ hexDigits)
    (hc : (c, k) ∈ hexDigits) (hd : (d, l) ∈ hexDigits) :
    UnitText (((i * 16 + j) * 16 + k) * 16 + l) [a, b, c, d]

/-- The texts of characters between quotes.  A character beyond the code units is escaped as a pair
of surrogates, and a surrogate stands for nothing on its own. -/
inductive CharsText : List Char → List Char → Prop where
  | nil : CharsText [] []
  | plain {c : Char} {s cs : List Char} (hc : 0x20 ≤ c.toNat) (hquote : c ≠ '"')
    (hbackslash : c ≠ '\\') (h : CharsText s cs) : CharsText (c :: s) (c :: cs)
  | short {e c : Char} {s cs : List Char} (he : (e, c) ∈ shortEscapes) (h : CharsText s cs) :
    CharsText (c :: s) ('\\' :: e :: cs)
  | unit {u : Nat} {ds s cs : List Char} (hu : UnitText u ds) (hplane : u < 0xD800 ∨ 0xDFFF < u)
    (h : CharsText s cs) : CharsText (Char.ofNat u :: s) ('\\' :: 'u' :: ds ++ cs)
  | pair {high low : Nat} {ds es s cs : List Char} (hhigh : UnitText high ds)
    (hlow : UnitText low es) (hfirst : 0xD800 ≤ high ∧ high ≤ 0xDBFF)
    (hsecond : 0xDC00 ≤ low ∧ low ≤ 0xDFFF) (h : CharsText s cs) :
    CharsText (Char.ofNat (0x10000 + (high - 0xD800) * 0x400 + (low - 0xDC00)) :: s)
      ('\\' :: 'u' :: ds ++ '\\' :: 'u' :: es ++ cs)

/-! ## Values -/

mutual

/-- The texts of a value. -/
inductive ValueText : Json → List Char → Prop where
  | null : ValueText .null ['n', 'u', 'l', 'l']
  | true : ValueText (.bool .true) ['t', 'r', 'u', 'e']
  | false : ValueText (.bool .false) ['f', 'a', 'l', 's', 'e']
  | int {i : Int} {cs : List Char} (h : IntText i cs) : ValueText (.int i) cs
  | text {s : String} {cs : List Char} (h : CharsText s.toList cs) :
    ValueText (.text s) ('"' :: cs ++ ['"'])
  | emptyList {ws : List Char} (h : Spaces ws) : ValueText (.list []) ('[' :: ws ++ [']'])
  | list {items : List Json} {cs : List Char} (h : ItemsText items cs) :
    ValueText (.list items) ('[' :: cs ++ [']'])
  | emptyObject {ws : List Char} (h : Spaces ws) : ValueText (.object []) ('{' :: ws ++ ['}'])
  | object {members : List (String × Json)} {cs : List Char}
    (hnames : (members.map Prod.fst).Nodup) (h : MembersText members cs) :
    ValueText (.object members) ('{' :: cs ++ ['}'])

/-- The texts of a value with spaces around it. -/
inductive ElementText : Json → List Char → Prop where
  | mk {j : Json} {before cs after : List Char} (hbefore : Spaces before) (h : ValueText j cs)
    (hafter : Spaces after) : ElementText j (before ++ cs ++ after)

/-- The texts of the items of a list that is not empty. -/
inductive ItemsText : List Json → List Char → Prop where
  | last {j : Json} {cs : List Char} (h : ElementText j cs) : ItemsText [j] cs
  | more {j : Json} {items : List Json} {cs ds : List Char} (h : ElementText j cs)
    (hmore : ItemsText items ds) : ItemsText (j :: items) (cs ++ ',' :: ds)

/-- The texts of a member of an object. -/
inductive MemberText : String × Json → List Char → Prop where
  | mk {name : String} {j : Json} {before ns after cs : List Char} (hbefore : Spaces before)
    (hname : CharsText name.toList ns) (hafter : Spaces after) (h : ElementText j cs) :
    MemberText (name, j) (before ++ '"' :: ns ++ '"' :: after ++ ':' :: cs)

/-- The texts of the members of an object that is not empty. -/
inductive MembersText : List (String × Json) → List Char → Prop where
  | last {member : String × Json} {cs : List Char} (h : MemberText member cs) :
    MembersText [member] cs
  | more {member : String × Json} {members : List (String × Json)} {cs ds : List Char}
    (h : MemberText member cs) (hmore : MembersText members ds) :
    MembersText (member :: members) (cs ++ ',' :: ds)

end

/-- Holds of the readers that read every text of a value as that value. -/
def FollowsGrammar (reader : String → Option Json) : Prop :=
  ∀ (j : Json) (text : String), ElementText j text.toList → reader text = some j

end SqlAdvice.Json
