/-!
# Blank characters

Which characters count as blank, and the three things the library does with them: trimming the
ends of a text, cutting a text into its words, and squeezing every run of blanks to one space.

All of it works on lists of characters; `stripped` is the form for `String`.
-/

namespace SqlAdvice.Text

/-- Holds of the characters that separate words: the ASCII controls from tab to carriage return,
the four information separators, the space, and the Unicode space, line and paragraph
separators. -/
def isBlank (c : Char) : Bool :=
  let n := c.toNat
  (0x09 ≤ n && n ≤ 0x0D) || (0x1C ≤ n && n ≤ 0x20) || n == 0x85 || n == 0xA0 || n == 0x1680 ||
    (0x2000 ≤ n && n ≤ 0x200A) || n == 0x2028 || n == 0x2029 || n == 0x202F || n == 0x205F ||
    n == 0x3000

/-- Drops the longest tail whose characters all satisfy `p`. -/
def dropTailWhile (p : Char → Bool) (cs : List Char) : List Char :=
  (cs.reverse.dropWhile p).reverse

/-- The text without the blanks at its two ends. -/
def trim (cs : List Char) : List Char :=
  dropTailWhile isBlank (cs.dropWhile isBlank)

/-- The maximal runs of non-blank characters, in order. -/
def words : List Char → List (List Char)
  | [] => []
  | c :: cs =>
    if isBlank c then words cs
    else if cs.head?.all isBlank then [c] :: words cs
    else match words cs with
      | w :: ws => (c :: w) :: ws
      | [] => [[c]]

/-- The words of a text with one space between neighbours. -/
def squeeze (cs : List Char) : List Char :=
  List.intercalate [' '] (words cs)

/-- Drops blanks from the front. -/
def skipBlanks (cs : List Char) : List Char :=
  cs.dropWhile isBlank

/-- Drops one or more blanks from the front, and fails where there is none. -/
def skipSomeBlanks? : List Char → Option (List Char)
  | [] => none
  | c :: cs => if isBlank c then some (skipBlanks cs) else none

theorem skipSomeBlanks?_length {cs rest : List Char} (h : skipSomeBlanks? cs = some rest) :
    rest.length < cs.length := by
  cases cs with
  | nil => simp [skipSomeBlanks?] at h
  | cons c cs =>
    simp only [skipSomeBlanks?, skipBlanks] at h
    split at h
    · simp only [Option.some.injEq] at h
      have := (List.dropWhile_sublist isBlank (l := cs)).length_le
      rw [h] at this
      simp
      omega
    · simp at h

/-- A string without the blanks at its two ends. -/
def stripped (s : String) : String :=
  String.ofList (trim s.toList)

/-- Holds of a string of blanks, the empty one included. -/
def isBlankString (s : String) : Bool :=
  s.toList.all isBlank

end SqlAdvice.Text
