import SqlAdvice.Cause

/-!
# Sources of draws

The plan and the statistics draw numbers. A `Source` says how a state yields an integer from an
inclusive interval and a real from an interval; the library never looks inside the state. A draw may
fail, and the state stays where it was when it failed, so `Draw` keeps the state next to the outcome
(`ExceptT` over `StateM`).

`Script.source` reads its numbers off a list and fails when the list is used up. An integer of the
interval is the next number modulo the size of the interval; a real divides the interval into a
thousand parts.
-/

namespace SqlAdvice

/-- A computation that draws from a source with states `σ` and may fail. -/
abbrev Draw (σ : Type) := ExceptT Cause (StateM σ)

/-- How states `σ` yield numbers. -/
structure Source (σ : Type) where
  /-- An integer between the two bounds, both included. -/
  integer : Int → Int → Draw σ Int
  /-- A real between the two bounds. -/
  real : Float → Float → Draw σ Float

/-! ## Scripted draws -/

namespace Script

/-- Takes the next number of the script. -/
def next : Draw (List Int) Int := do
  match ← get with
  | [] => throw .drawsExhausted
  | n :: rest =>
    set rest
    return n

/-- The source that reads numbers off a list. -/
def source : Source (List Int) where
  integer low high := do
    let n ← next
    return low + Int.fmod n (high - low + 1)
  real low high := do
    let n ← next
    return low + (high - low) * (Float.ofInt (Int.fmod n 1001) / 1000.0)

end Script

end SqlAdvice
