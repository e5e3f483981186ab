/-!
# Pieces and lines

Cutting a text at separators: `pieces` at every character of a class, `lines` at every line end.
`joinPieces` is the inverse of `pieces` at one character.
-/

namespace SqlAdvice.Text

/-- The parts of a text between the characters that satisfy `p`; one more than there are such
characters. -/
def pieces (p : Char → Bool) : List Char → List (List Char)
  | [] => [[]]
  | c :: cs =>
    if p c then [] :: pieces p cs
    else match pieces p cs with
      | w :: ws => (c :: w) :: ws
      | [] => [[c]]

/-- A text always has a first piece. -/
theorem pieces_ne_nil (p : Char → Bool) (cs : List Char) : pieces p cs ≠ [] := by
  cases cs with
  | nil => simp [pieces]
  | cons c cs =>
    rw [pieces]
    split
    · simp
    · split <;> simp

/-- Texts written one after another with `sep` between neighbours. -/
def joinPieces (sep : Char) (ws : List (List Char)) : List Char :=
  List.intercalate [sep] ws

/-- What follows the last `sep`, or the whole text where there is none. -/
def afterLast (sep : Char) (cs : List Char) : List Char :=
  (cs.reverse.takeWhile (· != sep)).reverse

/-- Turns each pair of carriage return and line feed, and each carriage return that stands alone,
into one line feed. -/
def unifyNewlines : List Char → List Char
  | [] => []
  | '\r' :: '\n' :: cs => '\n' :: unifyNewlines cs
  | c :: cs => (if c == '\r' then '\n' else c) :: unifyNewlines cs

/-- Holds of the characters that end a line. -/
def isLineEnd (c : Char) : Bool :=
  let n := c.toNat
  (0x0A ≤ n && n ≤ 0x0D) || (0x1C ≤ n && n ≤ 0x1E) || n == 0x85 || n == 0x2028 || n == 0x2029

/-- The lines of a text. A line end closes a line and opens none, so a text that ends in a line end
has no empty last line, and the empty text has no line. -/
def lines (cs : List Char) : List (List Char) :=
  let ps := pieces isLineEnd (unifyNewlines cs)
  if ps.getLast? == some [] then ps.dropLast else ps

/-- Tells whether `needle` occurs in a text as a consecutive part. -/
def occursIn (needle : List Char) : List Char → Bool
  | [] => needle.isEmpty
  | c :: cs => needle.isPrefixOf (c :: cs) || occursIn needle cs

theorem occursIn_iff {needle cs : List Char} : occursIn needle cs = true ↔ needle <:+: cs := by
  induction cs with
  | nil => cases needle <;> simp [occursIn]
  | cons c cs ih => simp [occursIn, ih, List.infix_cons_iff]

end SqlAdvice.Text
