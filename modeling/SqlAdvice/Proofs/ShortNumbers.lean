import SqlAdvice.Number.Decimal
import SqlAdvice.Proofs.Fallible
import Mathlib.Algebra.Order.Ring.Nat

/-!
# Numbers that can be written

A number can be written into a text when it is below a fixed power of ten (`isShort_iff`).  So what
is at most a short number is short, and that power is the least number that is too long.

`IsWritten x P a` says that something with numbers in it is written exactly if `P` holds, and that it
is `a` then.  It passes through the steps in which texts are put together.
-/

namespace SqlAdvice.Number

/-- The number of digits says below which power of ten a number is. -/
lemma length_natDigits_le_iff {n k : Nat} (hk : 0 < k) :
    (natDigits n).length ≤ k ↔ n < 10 ^ k := by
  induction n using natDigits.induct generalizing k with
  | case1 n hn =>
    have hpow : 10 ≤ 10 ^ k := Nat.le_self_pow hk.ne' 10
    rw [natDigits, if_pos hn]
    exact iff_of_true hk (by omega)
  | case2 n hn ih =>
    obtain ⟨k, rfl⟩ := Nat.exists_eq_add_one.mpr hk
    rw [natDigits, if_neg hn, List.length_append, List.length_singleton]
    cases k with
    | zero =>
      have hpos : 0 < (natDigits (n / 10)).length := by
        rw [natDigits]
        split <;> simp
      exact iff_of_false (by omega) (by omega)
    | succ k =>
      rw [Nat.add_le_add_iff_right, ih k.succ_pos, Nat.div_lt_iff_lt_mul (by omega), ← Nat.pow_succ]

lemma isShort_iff {n : Nat} : IsShort n ↔ n < 10 ^ digitLimit :=
  length_natDigits_le_iff (by decide)

lemma IsShort.mono {m n : Nat} (hn : IsShort n) (h : m ≤ n) : IsShort m :=
  isShort_iff.mpr (lt_of_le_of_lt h (isShort_iff.mp hn))

/-- The least number that is too long. -/
lemma not_isShort_pow : ¬IsShort (10 ^ digitLimit) := by
  rw [isShort_iff]
  exact lt_irrefl _

/-! ## Texts with numbers -/

/-- Something is written exactly if `P` holds, and then it is `a`. -/
def IsWritten {α : Type} (x : Except DigitFault α) (P : Prop) (a : α) : Prop :=
  ∀ b, x = .ok b ↔ P ∧ b = a

section

variable {α β : Type} {x : Except DigitFault α} {P Q : Prop} {a : α} {b : β}

lemma isWritten_writeNat (n : Nat) : IsWritten (writeNat n) (IsShort n) (decimalNat n) :=
  fun _ => writeNat_eq_ok_iff

lemma isWritten_ok (a : α) : IsWritten (.ok a) True a :=
  fun b => by simp [eq_comm]

namespace IsWritten

lemma eq_ok (hx : IsWritten x P a) (h : P) : x = .ok a :=
  (hx a).mpr ⟨h, rfl⟩

lemma exists_iff (hx : IsWritten x P a) : (∃ a, x = .ok a) ↔ P :=
  ⟨fun ⟨b, hb⟩ => ((hx b).mp hb).1, fun h => ⟨a, hx.eq_ok h⟩⟩

lemma congr (hx : IsWritten x P a) (h : P ↔ Q) : IsWritten x Q a :=
  fun b => (hx b).trans (and_congr_left' h)

lemma map (hx : IsWritten x P a) (g : α → β) : IsWritten (x.map g) P (g a) := by
  intro c
  simp only [Except.map_eq_ok_iff, hx _, and_assoc, exists_and_left, exists_eq_left]
  exact and_congr_right' eq_comm

lemma bind {g : α → Except DigitFault β} (hx : IsWritten x P a) (hg : IsWritten (g a) Q b) :
    IsWritten (x >>= g) (P ∧ Q) b := by
  intro c
  rw [Except.bind_eq_ok_iff, and_assoc, ← hg c]
  constructor
  · rintro ⟨a', ha', hc⟩
    obtain ⟨hP, rfl⟩ := (hx a').mp ha'
    exact ⟨hP, hc⟩
  · exact fun ⟨hP, hc⟩ => ⟨a, hx.eq_ok hP, hc⟩

lemma mapM {l : List α} {f : α → Except DigitFault β} {P : α → Prop} {g : α → β}
    (h : ∀ a, IsWritten (f a) (P a) (g a)) : IsWritten (l.mapM f) (∀ a ∈ l, P a) (l.map g) := by
  induction l with
  | nil => exact (isWritten_ok []).congr (by simp)
  | cons a l ih =>
    have hrest : IsWritten (l.mapM f >>= fun bs => pure (g a :: bs)) (∀ a ∈ l, P a)
        (g a :: l.map g) :=
      (ih.bind (g := fun bs => .ok (g a :: bs)) (isWritten_ok _)).congr (and_iff_left trivial)
    rw [List.mapM_cons]
    exact ((h a).bind hrest).congr List.forall_mem_cons.symm

end IsWritten

end

end SqlAdvice.Number
