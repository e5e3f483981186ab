/-!
# Console markup

Texts for the console may hold tags in brackets that style what follows. A tag begins with a small
letter, a number sign, a slash or an at sign behind its bracket, and has no other opening bracket in
it. A backslash in front of a tag makes it plain text, and a second one stands for itself, so
`escape` doubles the backslashes in front of a tag and adds one more.
-/

namespace SqlAdvice.Console.Markup

/-- Holds of the characters that a tag may begin with. -/
def opensTag (c : Char) : Bool :=
  ('a' ≤ c && c ≤ 'z') || c == '#' || c == '/' || c == '@'

/-- What follows an opening bracket makes it a tag. -/
def isTag : List Char → Bool
  | c :: cs => opensTag c && (cs.find? fun d => d == '[' || d == ']') == some ']'
  | [] => false

/-- Takes the meaning from every tag; `slashes` counts the backslashes just in front. -/
def escapeTags (slashes : Nat) : List Char → List Char
  | [] => []
  | c :: cs =>
    if c == '\\' then c :: escapeTags (slashes + 1) cs
    else if c == '[' && isTag cs then
      List.replicate (slashes + 1) '\\' ++ c :: escapeTags 0 cs
    else c :: escapeTags 0 cs

/-- A single backslash at the very end is doubled. -/
def closeSlash (cs : List Char) : List Char :=
  match cs.reverse with
  | '\\' :: '\\' :: _ => cs
  | '\\' :: _ => cs ++ ['\\']
  | _ => cs

/-- A text as markup that shows it. -/
def escape (s : String) : String :=
  String.ofList (closeSlash (escapeTags 0 s.toList))

/-- The text that markup shows, without its styles: `slashes` backslashes stand just in front, and
inside a tag nothing is shown. -/
def plainFrom (slashes : Nat) (inTag : Bool) : List Char → List Char
  | [] => List.replicate slashes '\\'
  | c :: cs =>
    if inTag then plainFrom 0 (c != ']') cs
    else if c == '\\' then plainFrom (slashes + 1) false cs
    else if c == '[' && isTag cs then
      List.replicate (slashes / 2) '\\' ++
        if slashes % 2 == 1 then c :: plainFrom 0 false cs else plainFrom 0 true cs
    else List.replicate slashes '\\' ++ c :: plainFrom 0 false cs

/-- The text that markup shows, without its styles. -/
def plain (s : String) : String :=
  String.ofList (plainFrom 0 false s.toList)

end SqlAdvice.Console.Markup
