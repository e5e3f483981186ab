import SqlAdvice.Text.Blank
import SqlAdvice.Text.Digit

/-!
# Integers in decimal

Writing integers in decimal, and the two rules by which the library reads them from text.

`decimal` spells any integer. Texts are limited: an integer with more than `digitLimit` digits is
neither written into one (`write`, `writeNat`) nor read from a setting. `decimal` itself is for what
has no limit, JSON, and for counts and positions, which do not come near it.

`readInteger?` is for settings and command-line values and takes the digits of every script;
`readFieldInteger?` is for the fields of a record, takes ASCII digits only, and allows a fraction
of zeros. Both drop white space at the ends, allow one sign, and allow single underscores between
digits.
-/

namespace SqlAdvice.Number

open SqlAdvice.Text

/-- The ASCII digit of a value below ten. -/
def digitChar (d : Nat) : Char :=
  Char.ofNat (0x30 + d)

/-- The decimal digits of a number, without leading zeros. -/
def natDigits (n : Nat) : List Char :=
  if n < 10 then [digitChar n] else natDigits (n / 10) ++ [digitChar (n % 10)]
termination_by n
decreasing_by omega

/-- The decimal digits of an integer, behind a minus sign when it is negative. -/
def intDigits : Int → List Char
  | .ofNat n => natDigits n
  | .negSucc n => '-' :: natDigits (n + 1)

/-- The decimal spelling of an integer. -/
def decimal (i : Int) : String :=
  String.ofList (intDigits i)

/-- The decimal spelling of a natural number. -/
def decimalNat (n : Nat) : String :=
  String.ofList (natDigits n)

/-! ## The limit -/

/-- The most digits that an integer may have where it is written into a text or read from a setting.
-/
def digitLimit : Nat := 4300

/-- A number that is not too long to be written or read. -/
def IsShort (n : Nat) : Prop :=
  (natDigits n).length ≤ digitLimit

instance (n : Nat) : Decidable (IsShort n) :=
  inferInstanceAs (Decidable (_ ≤ _))

/-- Why an integer is not written into a text. -/
inductive DigitFault where
  /-- The integer has more digits than may be written. -/
  | tooMany
  deriving DecidableEq

/-- The text of an integer that is not written. -/
def DigitFault.message : DigitFault → String
  | .tooMany =>
    "Exceeds the limit (" ++ decimalNat digitLimit ++ " digits) for integer string conversion; " ++
      "use sys.set_int_max_str_digits() to increase the limit"

/-- Writes an integer into a text. The sign is no digit. -/
def write (i : Int) : Except DigitFault String :=
  if IsShort i.natAbs then .ok (decimal i) else .error .tooMany

/-- Writes a natural number into a text. -/
def writeNat (n : Nat) : Except DigitFault String :=
  write n

theorem writeNat_of_isShort {n : Nat} (h : IsShort n) : writeNat n = .ok (decimalNat n) :=
  if_pos h

theorem writeNat_of_not_isShort {n : Nat} (h : ¬IsShort n) : writeNat n = .error .tooMany :=
  if_neg h

theorem writeNat_eq_ok_iff {n : Nat} {s : String} :
    writeNat n = .ok s ↔ IsShort n ∧ s = decimalNat n := by
  by_cases h : IsShort n
  · rw [writeNat_of_isShort h, Except.ok.injEq, eq_comm]
    exact (and_iff_right h).symm
  · rw [writeNat_of_not_isShort h]
    exact iff_of_false nofun fun hs => h hs.1

/-! ## Reading -/

/-- The number that a sequence of digit values spells in base `base`. -/
def ofDigits (base : Nat) (ds : List Nat) : Nat :=
  ds.foldl (fun n d => base * n + d) 0

/-- The values of digits in which single underscores may stand between two digits. -/
def groupedDigits? (digit : Char → Option Nat) : List Char → Option (List Nat)
  | [] => none
  | [c] => (digit c).map ([·])
  | c :: '_' :: cs => do
    let d ← digit c
    let ds ← groupedDigits? digit cs
    return d :: ds
  | c :: cs => do
    let d ← digit c
    let ds ← groupedDigits? digit cs
    return d :: ds

/-- Takes one sign off the front and tells whether it was a minus. -/
def takeSign : List Char → Bool × List Char
  | '-' :: cs => (true, cs)
  | '+' :: cs => (false, cs)
  | cs => (false, cs)

/-- A magnitude with its sign. -/
def withSign (negative : Bool) (n : Nat) : Int :=
  if negative then -(n : Int) else n

/-- The characters that may surround a number: the blank characters without the four information
separators. -/
def isWhiteSpace (c : Char) : Bool :=
  isBlank c && !(0x1C ≤ c.toNat && c.toNat ≤ 0x1F)

/-- A text without the white space at its two ends. -/
def trimSpace (cs : List Char) : List Char :=
  dropTailWhile isWhiteSpace (cs.dropWhile isWhiteSpace)

/-- Reads an integer as settings and command-line values spell it. -/
def readInteger? (cs : List Char) : Option Int := do
  let (negative, body) := takeSign (trimSpace cs)
  let ds ← groupedDigits? digit? body
  if ds.length ≤ digitLimit then
    return withSign negative (ofDigits 10 ds)
  else none

/-- Reads an integer as a text field of a record spells it. -/
def readFieldInteger? (cs : List Char) : Option Int := do
  let (negative, body) := takeSign (trimSpace cs)
  let whole := body.takeWhile (· != '.')
  let fraction := body.dropWhile (· != '.')
  let ds ← groupedDigits? asciiDigit? whole
  match fraction with
  | [] => return withSign negative (ofDigits 10 ds)
  | _ :: zeros =>
    if !zeros.isEmpty && zeros.all (· == '0') then return withSign negative (ofDigits 10 ds)
    else none

end SqlAdvice.Number
