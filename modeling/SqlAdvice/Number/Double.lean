import SqlAdvice.Number.Decimal

/-!
# Double-precision numbers

What the library needs of binary64 numbers beyond the arithmetic of `Float`: the exact parts of a
number (`parts`), the fewest decimal digits that read back to it (`shortest`, `text`), rounding to
an integer with halves going up (`roundHalfUp`), and reading a decimal text (`read?`).

Everything but the reader works on the exact value `m · 2 ^ e` that the bits stand for.
-/

namespace SqlAdvice.Number.Double

open SqlAdvice.Text

/-- The exact content of a double. -/
inductive Parts where
  | nan
  | infinite (negative : Bool)
  /-- The value `± mantissa · 2 ^ exponent`. -/
  | finite (negative : Bool) (mantissa : Nat) (exponent : Int)
  deriving DecidableEq

/-- Decodes the bits of a double: the sign, eleven bits of exponent and 52 bits of fraction. -/
def parts (x : Float) : Parts :=
  let bits : Nat := x.toBits.toNat
  let negative := bits / 0x8000000000000000 == 1
  let field : Nat := bits / 0x10000000000000 % 0x800
  let fraction : Nat := bits % 0x10000000000000
  if field == 2047 then
    if fraction == 0 then .infinite negative else .nan
  else if field == 0 then .finite negative fraction (-1074)
  else .finite negative (0x10000000000000 + fraction) ((field : Int) - 1075)

/-! ## The fewest digits that read back -/

/-- A natural number times a power of two, as a natural number times a power of ten. -/
def toDecimalScale (e : Int) : Nat × Int :=
  match e with
  | .ofNat k => (Nat.pow 2 k, 0)
  | .negSucc k => (Nat.pow 5 (k + 1), -(k + 1 : Int))

/-- Of the two neighbours of `v` on the grid of multiples of `unit`, the one that lies between
`low` and `high` and is nearer to `v`, counted in units. -/
def nearestInside (low v high unit : Nat) (closed : Bool) : Option Nat :=
  let below := v / unit
  let above := below + 1
  let inside := fun c =>
    if closed then low ≤ c * unit && c * unit ≤ high else low < c * unit && c * unit < high
  let belowFits := below > 0 && inside below
  let aboveFits := inside above
  if belowFits && aboveFits then
    let d := v - below * unit
    let u := above * unit - v
    some (if d < u || (d == u && below % 2 == 0) then below else above)
  else if belowFits then some below
  else if aboveFits then some above
  else none

/-- The decimal `c · 10 ^ k` with the fewest digits that reads back to `m · 2 ^ e`, and the nearest
one to it where several have equally few digits. The reals that read back to a double reach half
way to its neighbours, ends included exactly when the mantissa is even; below a power of two the
neighbour is half as far. -/
def shortest (m : Nat) (e : Int) : Nat × Int :=
  let (scale, k) := toDecimalScale (e - 2)
  let v := 4 * m * scale
  let low := (4 * m - (if m == 0x10000000000000 && e != -1074 then 1 else 2)) * scale
  let high := (4 * m + 2) * scale
  let size := (natDigits v).length
  let tries := (List.range 17).filterMap fun n =>
    let drop := size - (n + 1)
    (nearestInside low v high (Nat.pow 10 drop) (m % 2 == 0)).map fun c => (c, k + drop)
  tries.head?.getD (v, k)

/-- Digits and the place of the decimal point after them, in the notation of the library:
positional with at least one digit on each side of the point when the first digit stands at
`10 ^ -4` to `10 ^ 15`, and one digit before the point and an exponent of at least two digits
otherwise. -/
def layout (digits : List Char) (point : Int) : List Char :=
  if -4 < point && point ≤ 16 then
    if point ≤ 0 then '0' :: '.' :: List.replicate (-point).toNat '0' ++ digits
    else
      let p := point.toNat
      let whole := digits.take p ++ List.replicate (p - digits.length) '0'
      let rest := digits.drop p
      whole ++ '.' :: (if rest.isEmpty then ['0'] else rest)
  else
    let exponent := point - 1
    let magnitude := natDigits exponent.natAbs
    let padded := if magnitude.length < 2 then '0' :: magnitude else magnitude
    let head := digits.take 1
    let rest := digits.drop 1
    head ++ (if rest.isEmpty then [] else '.' :: rest) ++
      'e' :: (if exponent < 0 then '-' else '+') :: padded

/-- The decimal text of a double. -/
def text (x : Float) : String :=
  match parts x with
  | .nan => "nan"
  | .infinite negative => if negative then "-inf" else "inf"
  | .finite negative m e =>
    let body :=
      if m == 0 then ['0', '.', '0']
      else
        let (c, k) := shortest m e
        let ds := natDigits c
        layout (dropTailWhile (· == '0') ds) (k + ds.length)
    String.ofList (if negative then '-' :: body else body)

/-! ## Rounding to an integer -/

/-- Why a double has no nearest integer. -/
inductive RoundingFault where
  | nan
  | infinite
  deriving DecidableEq

/-- The greatest integer that is at most `x`. -/
def floor (x : Float) : Except RoundingFault Int :=
  match parts x with
  | .nan => .error .nan
  | .infinite _ => .error .infinite
  | .finite negative m e =>
    let n := withSign negative m
    match e with
    | .ofNat k => .ok (n * Nat.pow 2 k)
    | .negSucc k => .ok (Int.fdiv n (Nat.pow 2 (k + 1)))

/-- Rounds to the nearest integer, a half going up. One half is added in double precision first, so
a number just below one half rounds up too. -/
def roundHalfUp (x : Float) : Except RoundingFault Int :=
  floor (x + 0.5)

/-- Holds of a finite double without a fractional part. -/
def isIntegral (x : Float) : Bool :=
  match parts x with
  | .finite _ m (.negSucc k) => m % Nat.pow 2 (k + 1) == 0
  | .finite _ _ (.ofNat _) => true
  | _ => false

/-! ## Reading -/

/-- The double nearest to `± digits · 10 ^ exponent`. Magnitudes past either end of the range need
no arithmetic. -/
def ofDecimal (negative : Bool) (digits : Nat) (exponent : Int) : Float :=
  let size : Int := (natDigits digits).length
  let magnitude : Float :=
    if digits == 0 || size + exponent < -400 then 0.0
    else if size + exponent > 400 then 1.0 / 0.0
    else match exponent with
      | .ofNat k => Float.ofScientific (digits * Nat.pow 10 k) false 0
      | .negSucc k => Float.ofScientific digits true (k + 1)
  if negative then -magnitude else magnitude

/-- Reads the exponent of a decimal text: nothing, or a letter `e`, a sign and digits. -/
def readExponent? : List Char → Option Int
  | [] => some 0
  | c :: cs =>
    if c == 'e' || c == 'E' then
      let (negative, body) := takeSign cs
      match body.mapM asciiDigit? with
      | some (d :: ds) => some (withSign negative (ofDigits 10 (d :: ds)))
      | _ => none
    else none

/-- Reads a decimal text: a sign, digits with at most one point among them, and an exponent. The
words `inf` and `nan` stand for themselves. -/
def read? (cs : List Char) : Option Float :=
  let (negative, body) := takeSign cs
  if body == ['n', 'a', 'n'] then some (0.0 / 0.0)
  else if body == ['i', 'n', 'f'] then some (if negative then -(1.0 / 0.0) else 1.0 / 0.0)
  else
    let isDigit := fun c => (asciiDigit? c).isSome
    let whole := body.takeWhile isDigit
    let rest := body.dropWhile isDigit
    let (fraction, rest) := match rest with
      | '.' :: cs => (cs.takeWhile isDigit, cs.dropWhile isDigit)
      | cs => ([], cs)
    let ds := (whole ++ fraction).filterMap asciiDigit?
    if ds.isEmpty then none
    else (readExponent? rest).map fun e => ofDecimal negative (ofDigits 10 ds) (e - fraction.length)

end SqlAdvice.Number.Double
