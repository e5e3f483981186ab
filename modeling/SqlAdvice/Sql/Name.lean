import SqlAdvice.Sql.Keyword
import SqlAdvice.Text.Lines

/-!
# Names

A name is an identifier, or any text between brackets, double quotes or backticks; a qualified name
is a sequence of names with dots, and blanks around the dots, between them. `undecorate` turns the
text of a qualified name into the form in which tables are reported.

What may start an identifier is a parameter: most places take ASCII letters and the underscore
(`isNameStart`), and places that ignore case take the letters that fold to them as well
(`isFoldedNameStart`).
-/

namespace SqlAdvice.Sql

open SqlAdvice.Text

/-- Holds of the ASCII letters and the underscore. -/
def isNameStart (c : Char) : Bool :=
  c.isAlpha || c == '_'

/-- Holds of the characters that stand for a letter or the underscore when case is ignored. -/
def isFoldedNameStart (c : Char) : Bool :=
  isNameStart (foldCase c)

/-- Holds of the characters that an identifier goes on with. -/
def isNameRest (c : Char) : Bool :=
  isWord c || c == '$'

/-- Takes an identifier off the front of a text. -/
def identifier? (start : Char → Bool) : List Char → Option (List Char × List Char)
  | [] => none
  | c :: cs =>
    if start c then some (c :: cs.takeWhile isNameRest, cs.dropWhile isNameRest) else none

/-- Takes a text that begins with `opening` up to the first `closing`, both included. -/
def enclosed? (opening closing : Char) (cs : List Char) : Option (List Char × List Char) :=
  match cs.dropWhile (· != closing) with
  | [] => none
  | _ :: rest => some (opening :: cs.takeWhile (· != closing) ++ [closing], rest)

/-- Takes one name, plain or decorated, off the front of a text. -/
def component? (start : Char → Bool) : List Char → Option (List Char × List Char)
  | '[' :: cs => enclosed? '[' ']' cs
  | '"' :: cs => enclosed? '"' '"' cs
  | '\x60' :: cs => enclosed? '\x60' '\x60' cs
  | cs => identifier? start cs

/-- Takes a dot and a name, with blanks around the dot, off the front of a text. -/
def dotted? (start : Char → Bool) (cs : List Char) : Option (List Char × List Char) :=
  match skipBlanks cs with
  | '.' :: after => do
    let (name, rest) ← component? start (skipBlanks after)
    return (cs.takeWhile isBlank ++ '.' :: after.takeWhile isBlank ++ name, rest)
  | _ => none

theorem length_dropWhile_le (p : Char → Bool) (cs : List Char) :
    (cs.dropWhile p).length ≤ cs.length :=
  (List.dropWhile_sublist p).length_le

theorem identifier?_length {start : Char → Bool} {cs name rest : List Char}
    (h : identifier? start cs = some (name, rest)) : rest.length < cs.length := by
  cases cs with
  | nil => simp [identifier?] at h
  | cons c cs =>
    simp only [identifier?] at h
    split at h
    · simp only [Option.some.injEq, Prod.mk.injEq] at h
      have := length_dropWhile_le isNameRest cs
      simp [← h.2]
      omega
    · simp at h

theorem enclosed?_length {opening closing : Char} {cs name rest : List Char}
    (h : enclosed? opening closing cs = some (name, rest)) : rest.length < cs.length := by
  simp only [enclosed?] at h
  have := length_dropWhile_le (· != closing) cs
  split at h
  · simp at h
  · rename_i heq
    simp only [Option.some.injEq, Prod.mk.injEq] at h
    rw [heq] at this
    simp at this
    rw [← h.2]
    omega

theorem component?_length {start : Char → Bool} {cs name rest : List Char}
    (h : component? start cs = some (name, rest)) : rest.length < cs.length := by
  unfold component? at h
  split at h
  · exact Nat.lt_succ_of_lt (enclosed?_length h)
  · exact Nat.lt_succ_of_lt (enclosed?_length h)
  · exact Nat.lt_succ_of_lt (enclosed?_length h)
  · exact identifier?_length h

theorem dotted?_length {start : Char → Bool} {cs name rest : List Char}
    (h : dotted? start cs = some (name, rest)) : rest.length < cs.length := by
  unfold dotted? at h
  split at h
  · rename_i after heq
    have h₁ := length_dropWhile_le isBlank cs
    have h₂ := length_dropWhile_le isBlank after
    simp only [skipBlanks] at heq h
    rw [heq] at h₁
    simp only [List.length_cons] at h₁
    cases hc : component? start (List.dropWhile isBlank after) with
    | none => simp [hc] at h
    | some p =>
      obtain ⟨name', rest'⟩ := p
      have h₃ := component?_length hc
      simp [hc] at h
      rw [← h.2]
      omega
  · simp at h

/-- Takes further names of a qualified name, each with its dot, off the front of a text. -/
def dottedTail (start : Char → Bool) (cs : List Char) : List Char × List Char :=
  match _h : dotted? start cs with
  | none => ([], cs)
  | some (name, rest) =>
    let (more, rest) := dottedTail start rest
    (name ++ more, rest)
termination_by cs.length
decreasing_by exact dotted?_length _h

/-- Takes a qualified name off the front of a text. -/
def qualified? (start : Char → Bool) (cs : List Char) : Option (List Char × List Char) := do
  let (name, rest) ← component? start cs
  let (more, rest) := dottedTail start rest
  return (name ++ more, rest)

/-- Holds of the characters that decorate a name. -/
def isDecoration (c : Char) : Bool :=
  c == '[' || c == ']' || c == '"' || c == '\x60'

/-- The reported form of a qualified name: decoration goes, and so do blanks at the ends and around
the dots. -/
def undecorate (cs : List Char) : List Char :=
  joinPieces '.' ((pieces (· == '.') (cs.filter fun c => !isDecoration c)).map trim)

end SqlAdvice.Sql
