import Mathlib.Data.List.Basic
import Mathlib.Tactic.Common

/-!
# Lists without repeats

Warnings, recommendations and tables are all listed once, in the order in which they first come up:
`List.eraseDups` keeps the first of several equal items.  This file collects what the library
relies on: the result has no repeats (`nodup_eraseDups`) and keeps the order (`eraseDups_sublist`),
and dropping repeats commutes with a map that tells the items apart (`eraseDups_map`), with a filter
(`eraseDups_filter`) and with adding new items at the end (`eraseDups_append_of_disjoint`).  With
any map it commutes up to repeats that the map makes (`eraseDups_map_eraseDups`).

The first section is about `List.eraseDupsBy`, which keeps the first of several items that stand in
a relation.  A search that does not tell such items apart finds the same in what is kept
(`find?_eraseDupsBy`), and all is kept where no item is related to an earlier one
(`eraseDupsBy_eq_self_iff`).

The induction of all of them is that of the function itself, which goes on with the list without
the items related to the head (`keepInduction`), or equal to it (`filterInduction`).
-/

namespace SqlAdvice

/-! ## Items related to earlier ones -/

section Related

variable {α : Type} {r : α → α → Bool}

/-- Induction along `List.eraseDupsBy`: what holds of a list without the items related to `a` is to
be carried over to the list with `a` in front. -/
lemma keepInduction {motive : List α → Prop} (nil : motive [])
    (cons : ∀ a l, motive (l.filter fun b => r b a = false) → motive (a :: l)) (l : List α) :
    motive l := by
  have hall : ∀ n (l : List α), l.length ≤ n → motive l := by
    intro n
    induction n with
    | zero => exact fun l hl => List.length_eq_zero_iff.mp (Nat.le_zero.mp hl) ▸ nil
    | succ n ih =>
      intro l hl
      cases l with
      | nil => exact nil
      | cons a l =>
        have hfilter := List.length_filter_le (fun b => r b a = false) l
        exact cons a l (ih _ (Nat.le_trans hfilter (Nat.le_of_succ_le_succ hl)))
  exact hall l.length l (Nat.le_refl _)

/-- What is kept is kept in its order. -/
lemma eraseDupsBy_sublist (r : α → α → Bool) (l : List α) : (l.eraseDupsBy r).Sublist l := by
  induction l using keepInduction (r := r) with
  | nil => simp
  | cons a l ih =>
    rw [List.eraseDupsBy_cons]
    exact (ih.trans List.filter_sublist).cons_cons a

lemma pairwise_eraseDupsBy (r : α → α → Bool) (l : List α) :
    (l.eraseDupsBy r).Pairwise fun a b => r b a = false := by
  induction l using keepInduction (r := r) with
  | nil => simp
  | cons a l ih =>
    rw [List.eraseDupsBy_cons]
    refine List.pairwise_cons.mpr ⟨fun b hb => ?_, ih⟩
    have hmem := (eraseDupsBy_sublist r _).subset hb
    exact of_decide_eq_true (List.mem_filter.mp hmem).2

/-- All of a list is kept when no item is related to an earlier one. -/
lemma eraseDupsBy_eq_self_iff {l : List α} :
    l.eraseDupsBy r = l ↔ l.Pairwise fun a b => r b a = false := by
  refine ⟨fun h => h ▸ pairwise_eraseDupsBy r l, fun h => ?_⟩
  induction l with
  | nil => rfl
  | cons a l ih =>
    obtain ⟨ha, hl⟩ := List.pairwise_cons.mp h
    have hkeep : l.filter (fun b => r b a = false) = l :=
      List.filter_eq_self.mpr fun b hb => decide_eq_true (ha b hb)
    rw [List.eraseDupsBy_cons, hkeep, ih hl]

/-- **Searching what is kept**: where related items are found alike, the first item that is found is
one of those that are kept. -/
lemma find?_eraseDupsBy {p : α → Bool} (hp : ∀ a b, r b a = true → p b = p a) (l : List α) :
    (l.eraseDupsBy r).find? p = l.find? p := by
  induction l using keepInduction (r := r) with
  | nil => rfl
  | cons a l ih =>
    rw [List.eraseDupsBy_cons, List.find?_cons, List.find?_cons, ih]
    cases ha : p a with
    | true => rfl
    | false =>
      -- what is dropped is related to `a`, so it is not found either
      have hsame : (fun b => decide (decide (r b a = false) = true ∧ p b = true)) = p := by
        funext b
        cases hb : r b a with
        | true => simp [hp a b hb, ha]
        | false => simp
      rw [List.find?_filter, hsame]

end Related

/-! ## Equal items -/

variable {α β : Type} [BEq α] [LawfulBEq α] [BEq β] [LawfulBEq β]

omit [LawfulBEq α] in
/-- Induction along `List.eraseDups`: what holds of a list without the items equal to `a` is to be
carried over to the list with `a` in front. -/
lemma filterInduction {motive : List α → Prop} (nil : motive [])
    (cons : ∀ a l, motive (l.filter fun b => !b == a) → motive (a :: l)) (l : List α) :
    motive l := by
  refine keepInduction (r := (· == ·)) nil (fun a l h => cons a l ?_) l
  simpa only [Bool.decide_eq_false] using h

lemma nodup_eraseDups (l : List α) : l.eraseDups.Nodup :=
  (pairwise_eraseDupsBy (· == ·) l).imp fun h => (ne_of_beq_false h).symm

omit [LawfulBEq α] in
lemma eraseDups_sublist (l : List α) : l.eraseDups.Sublist l :=
  eraseDupsBy_sublist (· == ·) l

/-- A list without repeats is left as it is. -/
lemma eraseDups_of_nodup {l : List α} (h : l.Nodup) : l.eraseDups = l :=
  eraseDupsBy_eq_self_iff.mpr (h.imp fun hne => beq_eq_false_iff_ne.mpr hne.symm)

/-- Nothing is dropped of a list without repeats, and of no other one. -/
lemma length_eraseDups_eq_iff {l : List α} : l.eraseDups.length = l.length ↔ l.Nodup := by
  constructor
  · intro h
    rw [← (eraseDups_sublist l).eq_of_length h]
    exact nodup_eraseDups l
  · exact fun h => by rw [eraseDups_of_nodup h]

/-- Dropping repeats commutes with a map that tells all items apart. -/
lemma eraseDups_map {f : α → β} (hf : Function.Injective f) (l : List α) :
    (l.map f).eraseDups = l.eraseDups.map f := by
  induction l using filterInduction with
  | nil => rfl
  | cons a l ih =>
    have hfilter : (l.map f).filter (fun b => !b == f a) =
        (l.filter fun b => !b == a).map f := by
      rw [List.filter_map]
      refine congrArg _ (List.filter_congr fun b _ => ?_)
      by_cases hba : b = a
      · simp [hba]
      · have hne : f b ≠ f a := fun h => hba (hf h)
        simp [beq_eq_false_iff_ne.mpr hba, beq_eq_false_iff_ne.mpr hne]
    rw [List.map_cons, List.eraseDups_cons, hfilter, ih, List.eraseDups_cons, List.map_cons]

/-- Dropping repeats commutes with a filter: of equal items it keeps all or none. -/
lemma eraseDups_filter (p : α → Bool) (l : List α) :
    (l.filter p).eraseDups = l.eraseDups.filter p := by
  induction l using filterInduction with
  | nil => rfl
  | cons a l ih =>
    have hcomm : (l.filter p).filter (fun b => !b == a) =
        (l.filter fun b => !b == a).filter p := by
      rw [List.filter_filter, List.filter_filter]
      exact List.filter_congr fun b _ => Bool.and_comm _ _
    rw [List.eraseDups_cons]
    by_cases ha : p a = true
    · rw [List.filter_cons_of_pos ha, List.filter_cons_of_pos ha, List.eraseDups_cons, hcomm, ih]
    · -- the items that are dropped for being equal to `a` are not kept by the filter either
      have hskip : (l.filter fun b => !b == a).filter p = l.filter p := by
        rw [← hcomm]
        refine List.filter_eq_self.mpr fun b hb => ?_
        have hne : b ≠ a := fun hba => ha (hba ▸ (List.mem_filter.mp hb).2)
        simpa using hne
      rw [List.filter_cons_of_neg ha, List.filter_cons_of_neg ha, ← ih, hskip]

/-- Repeats that a map makes can be dropped at the end alone. -/
lemma eraseDups_map_eraseDups (f : α → β) (l : List α) :
    (l.eraseDups.map f).eraseDups = (l.map f).eraseDups := by
  induction l using filterInduction with
  | nil => rfl
  | cons a l ih =>
    -- an item that is equal to the head is mapped to what the head is mapped to
    have hhead : (l.map f).filter (fun b => !b == f a) =
        ((l.filter fun b => !b == a).map f).filter fun b => !b == f a := by
      rw [List.filter_map, List.filter_map, List.filter_filter]
      refine congrArg _ (List.filter_congr fun b _ => ?_)
      by_cases hba : b = a
      · simp [hba]
      · simp [beq_eq_false_iff_ne.mpr hba]
    rw [List.eraseDups_cons, List.map_cons, List.eraseDups_cons, List.map_cons,
      List.eraseDups_cons, hhead, eraseDups_filter fun b => !b == f a,
      eraseDups_filter fun b => !b == f a, ih]

/-- New items at the end stay at the end. -/
lemma eraseDups_append_of_disjoint {l m : List α} (h : ∀ a ∈ m, a ∉ l) :
    (l ++ m).eraseDups = l.eraseDups ++ m.eraseDups := by
  have hkeep : m.removeAll l = m := by
    refine List.filter_eq_self.mpr fun a ha => ?_
    simpa using h a ha
  rw [List.eraseDups_append, hkeep]

end SqlAdvice
