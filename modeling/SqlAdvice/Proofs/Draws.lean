import SqlAdvice.Draw.Twister
import Mathlib.Tactic.Common

/-!
# Running draws

A computation that draws is a function of the state of its source, and `Draw.outcome` runs it: it
gives the value or the failure, and the state in which the source is left.  The lemmas of the first
section say what `pure`, `throw` and `bind` do to an outcome; nothing after them unfolds the monad.

`Source.Serves` is what a caller promises of a source that never fails: every integer that is asked
for from an interval with a lower bound below its upper one is given, and lies in the interval.  It
says nothing of reals and nothing of how the integers are spread.  The twister keeps the promise
(`Twister.source_serves`).

`Source.recorded` is a source with a witness: it answers as the given source does, and its state
holds a list of all requests that were answered so far, with their answers.  It turns statements on
how many numbers are drawn, from which intervals and in which order, into equations on that list.
-/

namespace SqlAdvice

variable {σ α β : Type}

/-! ## Outcomes -/

/-- The value or the failure of a computation that draws, and the state that it leaves. -/
def Draw.outcome (x : Draw σ α) (s : σ) : Except Cause α × σ :=
  x.run.run s

namespace Draw

@[simp] lemma outcome_pure (a : α) (s : σ) : (pure a : Draw σ α).outcome s = (.ok a, s) := rfl

@[simp] lemma outcome_throw (e : Cause) (s : σ) :
    (throw e : Draw σ α).outcome s = (.error e, s) := rfl

lemma outcome_bind (x : Draw σ α) (f : α → Draw σ β) (s : σ) :
    (x >>= f).outcome s =
      match x.outcome s with
      | (.ok a, s') => (f a).outcome s'
      | (.error e, s') => (.error e, s') := by
  simp only [outcome, ExceptT.run_bind, StateT.run_bind]
  rcases h : x.run.run s with ⟨o, s'⟩
  cases o <;> rfl

lemma outcome_bind_of_ok {x : Draw σ α} {f : α → Draw σ β} {s s' : σ} {a : α}
    (h : x.outcome s = (.ok a, s')) : (x >>= f).outcome s = (f a).outcome s' := by
  rw [outcome_bind, h]

lemma outcome_map (x : Draw σ α) (f : α → β) (s : σ) :
    (f <$> x).outcome s =
      match x.outcome s with
      | (.ok a, s') => (.ok (f a), s')
      | (.error e, s') => (.error e, s') := by
  rw [map_eq_pure_bind, outcome_bind]
  rfl

/-- A sequence succeeds exactly when both of its parts do. -/
lemma outcome_bind_eq_ok {x : Draw σ α} {f : α → Draw σ β} {s s'' : σ} {b : β} :
    (x >>= f).outcome s = (.ok b, s'') ↔
      ∃ a s', x.outcome s = (.ok a, s') ∧ (f a).outcome s' = (.ok b, s'') := by
  rw [outcome_bind]
  constructor
  · intro h
    rcases hx : x.outcome s with ⟨o, s'⟩
    rw [hx] at h
    cases o with
    | ok a => exact ⟨a, s', rfl, h⟩
    | error e => simp at h
  · rintro ⟨a, s', hx, hf⟩
    rw [hx]
    exact hf

end Draw

/-! ## Sources that never fail -/

namespace Source

/-- Every integer that is asked for from an interval that is not empty is given, in any state, and
lies in the interval. -/
def Serves (src : Source σ) : Prop :=
  ∀ (low high : Int) (s : σ), low ≤ high →
    ∃ i s', (src.integer low high).outcome s = (.ok i, s') ∧ low ≤ i ∧ i ≤ high

end Source

namespace Twister

lemma belowWith_lt (k n left : Nat) (hn : 0 < n) (s : State) :
    ((belowWith k n left).run s).1 < n := by
  induction left generalizing s with
  | zero => exact Nat.mod_lt _ hn
  | succ left ih =>
    rcases hbits : (bits k).run s with ⟨r, s'⟩
    have hstep : (belowWith k n (left + 1)).run s =
        (if r < n then (pure r : StateM State Nat) else belowWith k n left).run s' := by
      change (((bits k) >>= fun r => if r < n then pure r else belowWith k n left).run s) = _
      rw [StateT.run_bind, hbits]
      rfl
    rw [hstep]
    by_cases hr : r < n
    · rw [if_pos hr]
      exact hr
    · rw [if_neg hr]
      exact ih s'

/-- The generator gives every integer that is asked for. -/
lemma source_serves : source.Serves := by
  intro low high s h
  have hlt := belowWith_lt ((high - low + 1).toNat.log2 + 1) (high - low + 1).toNat attempts
    (by omega) s
  rcases hrun : (below (high - low + 1).toNat).run s with ⟨n, s'⟩
  have hn : n < (high - low + 1).toNat := by
    have hfst : ((below (high - low + 1).toNat).run s).1 = n := by rw [hrun]
    rw [← hfst]
    exact hlt
  refine ⟨low + n, s', ?_, by omega, by omega⟩
  have hlift : (source.integer low high).outcome s =
      (.ok (low + ((below (high - low + 1).toNat).run s).1),
        ((below (high - low + 1).toNat).run s).2) := rfl
  rw [hlift, hrun]

end Twister

/-! ## Recorded draws -/

/-- A draw that was answered. -/
inductive Request where
  | integer (low high answer : Int)
  | real (low high answer : Float)

/-- Runs a computation beside a list of requests, and adds one for its value. -/
def Draw.noting (x : Draw σ α) (request : α → Request) : Draw (σ × List Request) α :=
  ExceptT.mk fun (s, log) =>
    match x.outcome s with
    | (.ok a, s') => (.ok a, (s', log ++ [request a]))
    | (.error e, s') => (.error e, (s', log))

lemma Draw.outcome_noting (x : Draw σ α) (request : α → Request) (s : σ) (log : List Request) :
    (x.noting request).outcome (s, log) =
      match x.outcome s with
      | (.ok a, s') => (.ok a, (s', log ++ [request a]))
      | (.error e, s') => (.error e, (s', log)) := rfl

lemma Draw.outcome_noting_of_ok {x : Draw σ α} {request : α → Request} {s s' : σ} {a : α}
    (h : x.outcome s = (.ok a, s')) (log : List Request) :
    (x.noting request).outcome (s, log) = (.ok a, (s', log ++ [request a])) := by
  rw [outcome_noting, h]

/-- The source that answers as `src` does and keeps a list of all it was asked for. -/
def Source.recorded (src : Source σ) : Source (σ × List Request) where
  integer low high := (src.integer low high).noting (.integer low high)
  real low high := (src.real low high).noting (.real low high)

end SqlAdvice
