import SqlAdvice.Draw.Source
import SqlAdvice.Proofs.Draws

/-!
# Sources that give out

`Source.ServesThen` describes a source that answers a number of requests as it should and then fails
with a cause of its own.  It is a statement on one state, by recursion on the number: an answer
leaves a state from which one draw fewer is served.  Nothing is said of how the answers depend on
the state, and no state can have two such numbers or two such causes (`Source.ServesThen.unique`),
so the number is what is left to draw.

`Draw.Takes` is the triple that goes with it.  A computation that takes `n` draws fails with the
cause of the source where fewer than `n` are left, and otherwise gives a value and leaves `n` fewer.
The rules of the second section follow a computation step by step: numbers of draws add up along a
sequence (`Draw.takes_bind`), and a request is one draw (`Draw.takes_integer_bind`,
`Draw.takes_real_bind`).

A script is a source of this kind: it serves as many draws as it has numbers
(`Script.servesThen_source`).
-/

namespace SqlAdvice

variable {σ α β : Type}

/-! ## What is left to draw -/

/-- From this state the source answers `k` requests within their bounds and then fails with `e`.
The one interval of reals that is ever asked for is the one between 0.8 and 1.2. -/
def Source.ServesThen (src : Source σ) (e : Cause) : Nat → σ → Prop
  | 0, s =>
    (∀ low high, low ≤ high → ((src.integer low high).outcome s).1 = .error e) ∧
      ((src.real 0.8 1.2).outcome s).1 = .error e
  | k + 1, s =>
    (∀ low high, low ≤ high → ∃ i s', (src.integer low high).outcome s = (.ok i, s') ∧
      low ≤ i ∧ i ≤ high ∧ src.ServesThen e k s') ∧
    ∃ x s', (src.real 0.8 1.2).outcome s = (.ok x, s') ∧
      0.8 ≤ x ∧ x ≤ 1.2 ∧ src.ServesThen e k s'

/-- A state has one number of draws that are left, and one cause. -/
lemma Source.ServesThen.unique {src : Source σ} {e e' : Cause} {k l : Nat} {s : σ}
    (h : src.ServesThen e k s) (h' : src.ServesThen e' l s) : k = l ∧ e = e' := by
  induction k generalizing l s with
  | zero =>
    have herror := h.1 0 0 (Int.le_refl 0)
    cases l with
    | zero => exact ⟨rfl, Except.error.inj (herror.symm.trans (h'.1 0 0 (Int.le_refl 0)))⟩
    | succ l =>
      obtain ⟨i, s', hanswer, -⟩ := h'.1 0 0 (Int.le_refl 0)
      simp [hanswer] at herror
  | succ k ih =>
    obtain ⟨i, s₁, hanswer, -, -, hrest⟩ := h.1 0 0 (Int.le_refl 0)
    cases l with
    | zero => simpa [hanswer] using h'.1 0 0 (Int.le_refl 0)
    | succ l =>
      obtain ⟨i', s₂, hanswer', -, -, hrest'⟩ := h'.1 0 0 (Int.le_refl 0)
      obtain ⟨-, rfl⟩ := Prod.mk.inj (hanswer.symm.trans hanswer')
      obtain ⟨rfl, hcause⟩ := ih hrest hrest'
      exact ⟨rfl, hcause⟩

/-! ## Counting draws -/

namespace Draw

/-- The computation makes `n` draws: where fewer are left it fails as the source does, and otherwise
its value has the property `P` and `n` draws fewer are left. -/
def Takes (src : Source σ) (n : Nat) (P : α → Prop) (x : Draw σ α) : Prop :=
  ∀ ⦃e : Cause⦄ ⦃k : Nat⦄ ⦃s : σ⦄, src.ServesThen e k s →
    (k < n ∧ (x.outcome s).1 = .error e) ∨
      ∃ a s', n ≤ k ∧ x.outcome s = (.ok a, s') ∧ P a ∧ src.ServesThen e (k - n) s'

variable {src : Source σ} {n m : Nat} {P Q : α → Prop} {R : β → Prop}

/-- A draw that ends in some way leaves some state. -/
lemma exists_state {x : Draw σ α} {s : σ} {o : Except Cause α} (h : (x.outcome s).1 = o) :
    ∃ s', x.outcome s = (o, s') :=
  ⟨_, Prod.ext h rfl⟩

lemma outcome_bind_of_error {x : Draw σ α} {f : α → Draw σ β} {s : σ} {e : Cause}
    (h : (x.outcome s).1 = .error e) : ((x >>= f).outcome s).1 = .error e := by
  obtain ⟨s', hx⟩ := exists_state h
  rw [outcome_bind, hx]

lemma takes_pure {a : α} (h : P a) : Takes src 0 P (pure a) :=
  fun _ k s hs => .inr ⟨a, s, k.zero_le, rfl, h, hs⟩

/-- **In a sequence** the draws add up. -/
lemma takes_bind {x : Draw σ α} {f : α → Draw σ β} (hx : Takes src n P x)
    (hf : ∀ a, P a → Takes src m R (f a)) : Takes src (n + m) R (x >>= f) := by
  intro e k s hs
  rcases hx hs with ⟨hk, herror⟩ | ⟨a, s₁, hk, hvalue, ha, hs₁⟩
  · exact .inl ⟨by omega, outcome_bind_of_error herror⟩
  · rw [outcome_bind_of_ok hvalue]
    rcases hf a ha hs₁ with ⟨hk₁, herror⟩ | ⟨b, s₂, hk₁, hvalue₁, hb, hs₂⟩
    · exact .inl ⟨by omega, herror⟩
    · rw [Nat.sub_sub] at hs₂
      exact .inr ⟨b, s₂, by omega, hvalue₁, hb, hs₂⟩

lemma takes_integer {low high : Int} (h : low ≤ high) :
    Takes src 1 (fun i => low ≤ i ∧ i ≤ high) (src.integer low high) := by
  intro e k s hs
  cases k with
  | zero => exact .inl ⟨Nat.one_pos, hs.1 low high h⟩
  | succ k =>
    obtain ⟨i, s', hanswer, hlow, hhigh, hrest⟩ := hs.1 low high h
    exact .inr ⟨i, s', by omega, hanswer, ⟨hlow, hhigh⟩, hrest⟩

lemma takes_real :
    Takes src 1 (fun x : Float => 0.8 ≤ x ∧ x ≤ 1.2) (src.real 0.8 1.2) := by
  intro e k s hs
  cases k with
  | zero => exact .inl ⟨Nat.one_pos, hs.2⟩
  | succ k =>
    obtain ⟨x, s', hanswer, hlow, hhigh, hrest⟩ := hs.2
    exact .inr ⟨x, s', by omega, hanswer, ⟨hlow, hhigh⟩, hrest⟩

/-- An integer is one draw. -/
lemma takes_integer_bind {low high : Int} {f : Int → Draw σ β} (h : low ≤ high)
    (hf : ∀ i, low ≤ i → i ≤ high → Takes src n R (f i)) :
    Takes src (n + 1) R (src.integer low high >>= f) :=
  n.add_comm 1 ▸ takes_bind (takes_integer h) fun i hi => hf i hi.1 hi.2

/-- A real is one draw. -/
lemma takes_real_bind {f : Float → Draw σ β}
    (hf : ∀ x : Float, 0.8 ≤ x → x ≤ 1.2 → Takes src n R (f x)) :
    Takes src (n + 1) R (src.real 0.8 1.2 >>= f) :=
  n.add_comm 1 ▸ takes_bind takes_real fun x hx => hf x hx.1 hx.2

end Draw

/-! ## Scripts -/

namespace Script

/-- The real between 0.8 and 1.2 that a number of a script stands for. -/
def factor (n : Int) : Float :=
  0.8 + (1.2 - 0.8) * (Float.ofInt (Int.fmod n 1001) / 1000.0)

/-- A script serves its numbers and is exhausted then.  That a factor keeps within its bounds is a
matter of rounding; it is asked for here since it takes a computation for each number. -/
lemma servesThen_source (draws : List Int) (h : ∀ n ∈ draws, 0.8 ≤ factor n ∧ factor n ≤ 1.2) :
    source.ServesThen .drawsExhausted draws.length draws := by
  induction draws with
  | nil => exact ⟨fun _ _ _ => rfl, rfl⟩
  | cons n draws ih =>
    have hrest := ih fun n' hn' => h n' (List.mem_cons_of_mem n hn')
    refine ⟨fun low high hle => ?_, ?_⟩
    · have hnonneg := Int.fmod_nonneg_of_pos n (b := high - low + 1) (by omega)
      have hlt := Int.fmod_lt_of_pos n (b := high - low + 1) (by omega)
      exact ⟨low + Int.fmod n (high - low + 1), draws, rfl, by omega, by omega, hrest⟩
    · exact ⟨factor n, draws, rfl, (h n List.mem_cons_self).1, (h n List.mem_cons_self).2, hrest⟩

end Script

end SqlAdvice
