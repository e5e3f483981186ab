import Mathlib.Data.List.Forall2
import Mathlib.Tactic.Common

/-!
# Computations that may fail

When a computation that is put together from others gives a result, and when it fails.

Going through a list with a function that may fail gives one result for each item, in order, or the
fault of the first item that is refused (`mapM_eq_ok_iff`, `mapM_eq_error_iff`).  What comes behind
that item is not looked at.
-/

namespace SqlAdvice

variable {ε ε' α β γ : Type}

/-! ## One after another -/

lemma Except.bind_eq_ok_iff {x : Except ε α} {g : α → Except ε γ} {c : γ} :
    (x >>= g) = .ok c ↔ ∃ a, x = .ok a ∧ g a = .ok c := by
  cases x <;> simp [bind, Except.bind]

lemma Except.bind_eq_error_iff {x : Except ε α} {g : α → Except ε γ} {e : ε} :
    (x >>= g) = .error e ↔ x = .error e ∨ ∃ a, x = .ok a ∧ g a = .error e := by
  cases x <;> simp [bind, Except.bind]

lemma Except.map_eq_ok_iff {x : Except ε α} {g : α → β} {b : β} :
    x.map g = .ok b ↔ ∃ a, x = .ok a ∧ g a = b := by
  cases x <;> simp [Except.map]

lemma Except.map_eq_error_iff {x : Except ε α} {g : α → β} {e : ε} :
    x.map g = .error e ↔ x = .error e := by
  cases x <;> simp [Except.map]

lemma Except.mapError_eq_ok_iff {x : Except ε α} {g : ε → ε'} {a : α} :
    x.mapError g = .ok a ↔ x = .ok a := by
  cases x <;> simp [Except.mapError]

lemma Except.mapError_eq_error_iff {x : Except ε α} {g : ε → ε'} {e' : ε'} :
    x.mapError g = .error e' ↔ ∃ e, x = .error e ∧ g e = e' := by
  cases x <;> simp [Except.mapError]

/-! ## Through a list -/

variable {f : α → Except ε β}

lemma exists_mem_of_forall₂ {R : α → β → Prop} {l : List α} {out : List β}
    (h : List.Forall₂ R l out) {b : β} (hb : b ∈ out) : ∃ a ∈ l, R a b := by
  induction h with
  | nil => simp at hb
  | cons hab _ ih =>
    obtain rfl | hb := List.mem_cons.mp hb
    · exact ⟨_, List.mem_cons_self, hab⟩
    · obtain ⟨a, ha, hab⟩ := ih hb
      exact ⟨a, List.mem_cons_of_mem _ ha, hab⟩

/-- What holds of some item holds of some related one, if it is the same for related items. -/
lemma exists_mem_iff_of_forall₂ {R : α → β → Prop} {P : α → Prop} {Q : β → Prop} {l : List α}
    {out : List β} (h : List.Forall₂ R l out) (hsame : ∀ a b, R a b → (P a ↔ Q b)) :
    (∃ a ∈ l, P a) ↔ ∃ b ∈ out, Q b := by
  constructor
  · rintro ⟨a, ha, hP⟩
    obtain ⟨b, hb, hab⟩ := exists_mem_of_forall₂ h.flip ha
    exact ⟨b, hb, (hsame a b hab).mp hP⟩
  · rintro ⟨b, hb, hQ⟩
    obtain ⟨a, ha, hab⟩ := exists_mem_of_forall₂ h hb
    exact ⟨a, ha, (hsame a b hab).mpr hQ⟩

/-- Items are related to some list when each is related to something. -/
lemma exists_forall₂_iff {R : α → β → Prop} {l : List α} :
    (∃ out, List.Forall₂ R l out) ↔ ∀ a ∈ l, ∃ b, R a b := by
  constructor
  · rintro ⟨out, h⟩ a ha
    obtain ⟨b, -, hab⟩ := exists_mem_of_forall₂ h.flip ha
    exact ⟨b, hab⟩
  · intro h
    induction l with
    | nil => exact ⟨[], .nil⟩
    | cons a l ih =>
      obtain ⟨⟨b, hab⟩, hl⟩ := List.forall_mem_cons.mp h
      obtain ⟨out, hout⟩ := ih hl
      exact ⟨b :: out, .cons hab hout⟩

/-- All items are accepted, one result each. -/
lemma mapM_eq_ok_iff {l : List α} {out : List β} :
    l.mapM f = .ok out ↔ List.Forall₂ (fun a b => f a = .ok b) l out := by
  induction l generalizing out with
  | nil =>
    rw [List.forall₂_nil_left_iff]
    exact (Except.ok.injEq [] out).to_iff.trans eq_comm
  | cons a l ih =>
    rw [List.mapM_cons, Except.bind_eq_ok_iff, List.forall₂_cons_left_iff]
    simp only [Except.bind_eq_ok_iff, ih, pure, Except.pure, Except.ok.injEq]
    constructor
    · rintro ⟨b, hb, out', hout, rfl⟩
      exact ⟨b, out', hb, hout, rfl⟩
    · rintro ⟨b, out', hb, hout, rfl⟩
      exact ⟨b, hb, out', hout, rfl⟩

/-- An item is refused, and none before it. -/
lemma mapM_eq_error_iff {l : List α} {e : ε} :
    l.mapM f = .error e ↔ ∃ before a after, l = before ++ a :: after ∧
      (∀ x ∈ before, ∃ b, f x = .ok b) ∧ f a = .error e := by
  induction l with
  | nil => simp [pure, Except.pure]
  | cons a l ih =>
    rw [List.mapM_cons, Except.bind_eq_error_iff]
    simp only [Except.bind_eq_error_iff, ih, pure, Except.pure, reduceCtorEq, and_false,
      exists_false, or_false]
    constructor
    · rintro (ha | ⟨b, hb, before, x, after, rfl, hbefore, hx⟩)
      · exact ⟨[], a, l, rfl, by simp, ha⟩
      · exact ⟨a :: before, x, after, rfl, List.forall_mem_cons.mpr ⟨⟨b, hb⟩, hbefore⟩, hx⟩
    · rintro ⟨before, x, after, hl, hbefore, hx⟩
      cases before with
      | nil =>
        obtain ⟨rfl, rfl⟩ := List.cons_eq_cons.mp hl
        exact .inl hx
      | cons y before =>
        obtain ⟨rfl, rfl⟩ := List.cons_eq_cons.mp hl
        obtain ⟨⟨b, hb⟩, hbefore⟩ := List.forall_mem_cons.mp hbefore
        exact .inr ⟨b, hb, before, x, after, rfl, hbefore, hx⟩

/-- There is a fault when some item is refused. -/
lemma exists_mapM_eq_error_iff {l : List α} :
    (∃ e, l.mapM f = .error e) ↔ ∃ a ∈ l, ∃ e, f a = .error e := by
  constructor
  · rintro ⟨e, he⟩
    obtain ⟨before, a, after, rfl, -, ha⟩ := mapM_eq_error_iff.mp he
    exact ⟨a, by simp, e, ha⟩
  · rintro ⟨a, ha, e, he⟩
    cases hl : l.mapM f with
    | error e' => exact ⟨e', rfl⟩
    | ok out =>
      obtain ⟨b, hb⟩ := exists_forall₂_iff.mp ⟨out, mapM_eq_ok_iff.mp hl⟩ a ha
      rw [hb] at he
      exact nomatch he

end SqlAdvice
