import SqlAdvice.Draw.Source

/-!
# The Mersenne Twister

A generator of 624 words of 32 bits that are renewed together, with a tempering of each word that is
read. `ofSeed` initialises it from an integer of any size, and
`source` draws integers by rejection and reals with 53 random bits.
-/

namespace SqlAdvice.Twister

/-- The number of words. -/
def size : Nat := 624

/-- How far apart the words lie that are combined when the words are renewed. -/
def stride : Nat := 397

/-- The words, and how many of them have been read. -/
structure State where
  words : Array UInt32
  read : Nat

/-! ## Initialisation -/

/-- A word spread over all its bits. -/
def spread (w : UInt32) : UInt32 :=
  w ^^^ (w >>> 30)

/-- The words that a single number is expanded to. -/
def expand (seed : UInt32) : Array UInt32 :=
  (List.range (size - 1)).foldl (fun ws i =>
    ws.push (1812433253 * spread (ws.getD i 0) + UInt32.ofNat (i + 1))) #[seed]

/-- One step of a mixing pass over the words at place `i`. The first word takes the place of the
last one when the pass comes round. -/
def mixAt (f : UInt32 → UInt32 → UInt32) (ws : Array UInt32) (i : Nat) : Array UInt32 × Nat :=
  let ws := ws.setIfInBounds i (f (ws.getD i 0) (spread (ws.getD (i - 1) 0)))
  if i + 1 ≥ size then (ws.setIfInBounds 0 (ws.getD (size - 1) 0), 1) else (ws, i + 1)

/-- The words for a key of several words. -/
def ofKey (key : Array UInt32) : Array UInt32 :=
  let rounds := max size key.size
  let (ws, i) := (List.range rounds).foldl (fun (ws, i) k =>
    let j := k % key.size
    mixAt (fun w p => (w ^^^ (p * 1664525)) + key.getD j 0 + UInt32.ofNat j) ws i)
    (expand 19650218, 1)
  let (ws, _) := (List.range (size - 1)).foldl (fun (ws, i) _ =>
    mixAt (fun w p => (w ^^^ (p * 1566083941)) - UInt32.ofNat i) ws i) (ws, i)
  ws.setIfInBounds 0 0x80000000

/-- The words of a natural number, the low ones first; zero has one word. -/
def wordsOf (n : Nat) : List UInt32 :=
  if n < 0x100000000 then [UInt32.ofNat n]
  else UInt32.ofNat (n % 0x100000000) :: wordsOf (n / 0x100000000)
termination_by n
decreasing_by omega

/-- The state for a seed; its sign does not matter. -/
def ofSeed (seed : Int) : State :=
  ⟨ofKey (wordsOf seed.natAbs).toArray, size⟩

/-! ## Reading words -/

/-- The words that follow the present ones. -/
def renew (words : Array UInt32) : Array UInt32 :=
  (List.range size).foldl (fun ws k =>
    let y := (ws.getD k 0 &&& 0x80000000) ||| (ws.getD ((k + 1) % size) 0 &&& 0x7FFFFFFF)
    let twist : UInt32 := if y &&& 1 == 1 then 0x9908B0DF else 0
    ws.setIfInBounds k (ws.getD ((k + stride) % size) 0 ^^^ (y >>> 1) ^^^ twist)) words

/-- The word that is given out for a stored word. -/
def temper (y : UInt32) : UInt32 :=
  let y := y ^^^ (y >>> 11)
  let y := y ^^^ ((y <<< 7) &&& 0x9D2C5680)
  let y := y ^^^ ((y <<< 15) &&& 0xEFC60000)
  y ^^^ (y >>> 18)

/-- Reads the next word. -/
def next : StateM State UInt32 := do
  let s ← get
  let s := if s.read < size then s else ⟨renew s.words, 0⟩
  set { s with read := s.read + 1 }
  return temper (s.words.getD s.read 0)

/-- Reads a number of `k` bits, whole words from the low end on and the high bits of the last
word. -/
def bits (k : Nat) : StateM State Nat := do
  if k == 0 then return 0
  else if k ≤ 32 then return ((← next) >>> UInt32.ofNat (32 - k)).toNat
  else
    let low ← next
    let high ← bits (k - 32)
    return low.toNat + 0x100000000 * high
termination_by k

/-- How often a number outside the range is drawn again. One draw in two hits at least, so the
limit is not met in practice. -/
def attempts : Nat := 4096

/-- Reads numbers of `k` bits until one is below `n`. After the last attempt the number is reduced,
which keeps it below `n`. -/
def belowWith (k n : Nat) : Nat → StateM State Nat
  | 0 => return (← bits k) % n
  | left + 1 => do
    let r ← bits k
    if r < n then return r else belowWith k n left

/-- Reads a number below `n`. -/
def below (n : Nat) : StateM State Nat :=
  belowWith (n.log2 + 1) n attempts

/-- Reads a real below one: 53 bits taken from two words. -/
def unit : StateM State Float := do
  let a := (← next) >>> 5
  let b := (← next) >>> 6
  return Float.ofNat (a.toNat * 0x4000000 + b.toNat) / 9007199254740992.0

/-- The source that draws from the generator. -/
def source : Source State where
  integer low high := do
    let n ← below (high - low + 1).toNat
    return low + n
  real low high := do
    let r ← unit
    return low + (high - low) * r

end SqlAdvice.Twister
