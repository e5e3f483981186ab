import SqlAdvice.Sql.Fragment
import SqlAdvice.Proofs.WholeWords

/-!
# Statements with holes in their literals

A statement in which every literal is closed is a `Template` that has been filled in: the characters
outside its literals stand in the template itself, and of a literal there is only the quote and a
hole for what it contains.  A `Filling` gives the contents, in which the quote that closes a literal
may only occur doubled.  `openAfter_eq_none_iff` says that these are all the statements whose
literals are closed, and that every literal can be given a hole of its own.

What an extractor does with a statement can depend on three things that are here shown to be in the
template already: which character stands before a position (`lastChar_fill`), whether a literal is
open there (`openAfter_fill`), and the text up to the next literal (`front`, `fill_eq_append`).
-/

namespace SqlAdvice.Sql

/-! ## Closed literals -/

/-- A quote occurs in a text only doubled. -/
inductive OnlyDoubled (q : Char) : List Char → Prop
  | nil : OnlyDoubled q []
  | char {c : Char} {x : List Char} (hc : c ≠ q) (h : OnlyDoubled q x) : OnlyDoubled q (c :: x)
  | quote {x : List Char} (h : OnlyDoubled q x) : OnlyDoubled q (q :: q :: x)

lemma onlyDoubled_of_notMem {q : Char} {x : List Char} (h : q ∉ x) : OnlyDoubled q x := by
  induction x with
  | nil => exact .nil
  | cons c x ih =>
    obtain ⟨hc, hx⟩ := List.ne_and_not_mem_of_not_mem_cons h
    exact .char hc.symm (ih hx)

/-- Every character of a text belongs to a literal. -/
def IsCovered (quote : Option Char) (a : List Char) : Prop :=
  ∀ flag ∈ Literal.flags quote a, flag = true

@[simp] lemma isCovered_nil {quote : Option Char} : IsCovered quote [] :=
  List.forall_mem_nil _

@[simp] lemma isCovered_cons {quote : Option Char} {c : Char} {a : List Char} :
    IsCovered quote (c :: a) ↔
      Literal.covers quote c = true ∧ IsCovered (Literal.next quote c) a := by
  rw [IsCovered, Literal.flags, List.forall_mem_cons]
  rfl

/-- Up to the quote that closes it, the contents of a literal belong to it, and nothing is open
after that.  A doubled quote closes the literal and opens it again. -/
lemma OnlyDoubled.isCovered {q : Char} (hq : Literal.isQuote q = true) {x : List Char}
    (h : OnlyDoubled q x) :
    IsCovered (some q) (x ++ [q]) ∧ Literal.openAfter (some q) (x ++ [q]) = none := by
  induction h with
  | nil => simp [Literal.covers, Literal.openAfter, Literal.next]
  | char hc _ ih =>
    simpa [Literal.covers, Literal.openAfter, Literal.next, hc] using ih
  | quote _ ih =>
    simpa [Literal.covers, Literal.openAfter, Literal.next, hq] using ih

/-- All of a literal belongs to it, its quotes included, and nothing is open after it. -/
lemma OnlyDoubled.isCovered_literal {q : Char} (hq : Literal.isQuote q = true) {x : List Char}
    (h : OnlyDoubled q x) :
    IsCovered none (q :: (x ++ [q])) ∧ Literal.openAfter none (q :: (x ++ [q])) = none := by
  have hopens : Literal.next none q = some q := by rw [Literal.next, if_pos hq]
  have hcovers : Literal.covers none q = true := by rw [Literal.covers, hq, Bool.or_true]
  rw [isCovered_cons, Literal.openAfter, List.foldl_cons, hopens]
  exact ⟨⟨hcovers, (h.isCovered hq).1⟩, (h.isCovered hq).2⟩

/-- A literal that is closed has been closed for the first time somewhere. -/
lemma exists_closing {q : Char} {cs : List Char}
    (h : Literal.openAfter (some q) cs ≠ some q) :
    ∃ x rest, cs = x ++ q :: rest ∧ q ∉ x ∧
      Literal.openAfter none rest = Literal.openAfter (some q) cs := by
  induction cs with
  | nil => simp [Literal.openAfter] at h
  | cons c cs ih =>
    by_cases hc : c = q
    · subst hc
      exact ⟨[], cs, rfl, List.not_mem_nil, by simp [Literal.openAfter, Literal.next]⟩
    · have hnext : Literal.openAfter (some q) (c :: cs) = Literal.openAfter (some q) cs := by
        simp [Literal.openAfter, Literal.next, hc]
      rw [hnext] at h ⊢
      obtain ⟨x, rest, rfl, hx, hrest⟩ := ih h
      exact ⟨c :: x, rest, rfl, List.not_mem_cons_of_ne_of_not_mem (Ne.symm hc) hx, hrest⟩

/-! ## Templates -/

/-- A character outside literals, or a literal with a hole for its contents. -/
inductive Slot where
  | plain (c : Char) (hc : Literal.isQuote c = false)
  | literal (q : Char) (hq : Literal.isQuote q = true) (hole : Nat)

/-- A statement without the contents of its literals. -/
abbrev Template := List Slot

/-- Contents for the holes of templates, for both kinds of quotes. -/
structure Filling where
  content : Char → Nat → List Char
  doubled : ∀ q hole, OnlyDoubled q (content q hole)

namespace Slot

/-- The text in the place of a slot. -/
def fill (σ : Filling) : Slot → List Char
  | plain c _ => [c]
  | literal q _ hole => q :: (σ.content q hole ++ [q])

/-- The last character of that text, which does not depend on the filling. -/
def last : Slot → Char
  | plain c _ => c
  | literal q _ _ => q

def hole? : Slot → Option Nat
  | plain _ _ => none
  | literal _ _ hole => some hole

def isPlain (s : Slot) : Bool :=
  s.hole?.isNone

variable {σ : Filling} {s : Slot}

lemma fill_of_isPlain (h : s.isPlain = true) : s.fill σ = [s.last] := by
  cases s with
  | plain c hc => rfl
  | literal q hq hole => exact nomatch h

lemma isQuote_last : Literal.isQuote s.last = !s.isPlain := by
  cases s with
  | plain c hc => exact hc
  | literal q hq hole => exact hq

/-- The text in front of the last character. -/
lemma exists_fill_eq_concat (σ : Filling) (s : Slot) : ∃ cs, s.fill σ = cs ++ [s.last] := by
  cases s with
  | plain c hc => exact ⟨[], rfl⟩
  | literal q hq hole => exact ⟨q :: σ.content q hole, rfl⟩

lemma fill_ne_nil : s.fill σ ≠ [] := by
  obtain ⟨cs, hcs⟩ := s.exists_fill_eq_concat σ
  simp [hcs]

lemma getLast?_fill : (s.fill σ).getLast? = some s.last := by
  obtain ⟨cs, hcs⟩ := s.exists_fill_eq_concat σ
  rw [hcs, List.getLast?_concat]

lemma lastChar_fill {prev : Option Char} : lastChar prev (s.fill σ) = some s.last := by
  obtain ⟨cs, hcs⟩ := s.exists_fill_eq_concat σ
  rw [hcs, lastChar_concat]

lemma isCovered_fill (h : s.isPlain = false) : IsCovered none (s.fill σ) := by
  cases s with
  | plain c hc => exact nomatch h
  | literal q hq hole => exact ((σ.doubled q hole).isCovered_literal hq).1

lemma openAfter_fill : Literal.openAfter none (s.fill σ) = none := by
  cases s with
  | plain c hc => simp [fill, Literal.openAfter, Literal.next, hc]
  | literal q hq hole => exact ((σ.doubled q hole).isCovered_literal hq).2

end Slot

/-- The statement that a template becomes. -/
def fill (σ : Filling) (t : Template) : List Char :=
  t.flatMap (Slot.fill σ)

section Fill

variable {σ : Filling} {t t' : Template}

@[simp] lemma fill_nil : fill σ [] = [] :=
  rfl

@[simp] lemma fill_cons {s : Slot} : fill σ (s :: t) = s.fill σ ++ fill σ t :=
  List.flatMap_cons

@[simp] lemma fill_append : fill σ (t ++ t') = fill σ t ++ fill σ t' :=
  List.flatMap_append

lemma fill_of_isPlain (h : ∀ s ∈ t, s.isPlain = true) : fill σ t = t.map Slot.last := by
  induction t with
  | nil => rfl
  | cons s t ih =>
    obtain ⟨hs, ht⟩ := List.forall_mem_cons.mp h
    rw [fill_cons, Slot.fill_of_isPlain hs, ih ht, List.map_cons, List.singleton_append]

lemma fill_ne_nil (h : t ≠ []) : fill σ t ≠ [] := by
  obtain ⟨s, t, rfl⟩ := List.exists_cons_of_ne_nil h
  simp [Slot.fill_ne_nil]

/-- The character before what follows a filled template is the last one of its last slot. -/
lemma lastChar_fill {prev : Option Char} :
    lastChar prev (fill σ t) = lastChar prev (t.map Slot.last) := by
  induction t generalizing prev with
  | nil => rfl
  | cons s t ih =>
    rw [fill_cons, lastChar_append, Slot.lastChar_fill, ih]
    rfl

/-- All literals of a filled template are closed. -/
lemma openAfter_fill : Literal.openAfter none (fill σ t) = none := by
  induction t with
  | nil => rfl
  | cons s t ih =>
    rw [fill_cons, Literal.openAfter_append, Slot.openAfter_fill, ih]

/-! ## Up to the next literal -/

/-- The text of a template in front of its first literal. -/
def front (t : Template) : List Char :=
  (t.takeWhile Slot.isPlain).map Slot.last

/-- A template from its first literal on. -/
def back (t : Template) : Template :=
  t.dropWhile Slot.isPlain

lemma fill_eq_append (σ : Filling) (t : Template) : fill σ t = front t ++ fill σ (back t) := by
  have hplain : ∀ s ∈ t.takeWhile Slot.isPlain, s.isPlain = true := fun s hs =>
    List.mem_takeWhile_imp hs
  rw [front, ← fill_of_isPlain (σ := σ) hplain, back, ← fill_append,
    List.takeWhile_append_dropWhile]

/-- What comes after the front begins with a quote. -/
lemma isQuote_of_mem_head?_back {c : Char} (hc : c ∈ (fill σ (back t)).head?) :
    Literal.isQuote c = true := by
  have hnot := List.head?_dropWhile_not Slot.isPlain t
  rw [back] at hc
  cases hback : t.dropWhile Slot.isPlain with
  | nil => simp [hback] at hc
  | cons s b =>
    rw [hback] at hc hnot
    cases s with
    | plain d hd => exact absurd hnot (by simp [Slot.isPlain, Slot.hole?])
    | literal q hq hole =>
      obtain rfl : q = c := by simpa [Slot.fill] using hc
      exact hq

/-- A cut in the front of a template is a cut of the template between two of its slots. -/
lemma exists_of_front_eq_append {a b : List Char} (h : front t = a ++ b) :
    ∃ s t', t = s ++ t' ∧ (∀ slot ∈ s, slot.isPlain = true) ∧ s.map Slot.last = a ∧
      ∀ σ, b ++ fill σ (back t) = fill σ t' := by
  obtain ⟨s, b', htake, hs, hb⟩ := List.map_eq_append_iff.mp h
  have hplain : ∀ slot ∈ s ++ b', slot.isPlain = true := fun slot hslot =>
    List.mem_takeWhile_imp (htake ▸ hslot)
  refine ⟨s, b' ++ back t, ?_, fun slot hslot => hplain slot (List.mem_append_left _ hslot), hs,
    fun σ => ?_⟩
  · rw [← List.append_assoc, ← htake, back, List.takeWhile_append_dropWhile]
  · rw [fill_append, fill_of_isPlain fun slot hslot => hplain slot (List.mem_append_right _ hslot),
      hb]

end Fill

/-! ## Every statement with closed literals -/

/-- The holes of a template. -/
def holes (t : Template) : List Nat :=
  t.filterMap Slot.hole?

namespace Filling

/-- Nothing in any literal. -/
def empty : Filling where
  content _ _ := []
  doubled _ _ := .nil

/-- A filling with other contents for one hole. -/
def set (σ : Filling) (hole : Nat) (q : Char) (x : List Char) (hx : OnlyDoubled q x) : Filling where
  content q' hole' := if q' = q ∧ hole' = hole then x else σ.content q' hole'
  doubled q' hole' := by
    split
    · rename_i h
      exact h.1 ▸ hx
    · exact σ.doubled q' hole'

variable {σ : Filling} {hole : Nat} {q : Char} {x : List Char} {hx : OnlyDoubled q x}

lemma fill_set {t : Template} (h : hole ∉ holes t) : fill (σ.set hole q x hx) t = fill σ t := by
  refine List.flatMap_congr fun s hs => ?_
  cases s with
  | plain c hc => rfl
  | literal q' hq hole' =>
    have hne : hole' ≠ hole := by
      rintro rfl
      exact h (List.mem_filterMap.mpr ⟨_, hs, rfl⟩)
    simp [Slot.fill, set, hne]

end Filling

/-- By induction on the length of the statement, with holes from some number on. -/
lemma exists_fill_eq {cs : List Char} (h : Literal.openAfter none cs = none) (n : Nat) :
    ∃ t σ, (holes t).Nodup ∧ (∀ hole ∈ holes t, n ≤ hole) ∧ fill σ t = cs := by
  induction hlength : cs.length using Nat.strong_induction_on generalizing cs n with
  | h length ih =>
    subst hlength
    cases cs with
    | nil => exact ⟨[], .empty, List.nodup_nil, by simp [holes], rfl⟩
    | cons c cs =>
      by_cases hc : Literal.isQuote c = true
      · have hopen : Literal.openAfter (some c) cs = none := by
          simpa [Literal.openAfter, Literal.next, hc] using h
        have hclosed : Literal.openAfter (some c) cs ≠ some c := by simp [hopen]
        obtain ⟨x, rest, rfl, hx, hrest⟩ := exists_closing hclosed
        rw [hopen] at hrest
        obtain ⟨t, σ, hnodup, hmin, hfill⟩ := ih rest.length (by simp; omega) hrest (n + 1) rfl
        have hfresh : n ∉ holes t := fun hn => absurd (hmin n hn) (by omega)
        refine ⟨.literal c hc n :: t, σ.set n c x (onlyDoubled_of_notMem hx), ?_, ?_, ?_⟩
        · exact List.nodup_cons.mpr ⟨hfresh, hnodup⟩
        · exact List.forall_mem_cons.mpr
            ⟨le_rfl, fun hole hmem => Nat.le_of_succ_le (hmin hole hmem)⟩
        · rw [fill_cons, Filling.fill_set hfresh, hfill]
          simp [Slot.fill, Filling.set]
      · rw [Bool.not_eq_true] at hc
        have hrest : Literal.openAfter none cs = none := by
          simpa [Literal.openAfter, Literal.next, hc] using h
        obtain ⟨t, σ, hnodup, hmin, hfill⟩ := ih cs.length (by simp) hrest n rfl
        exact ⟨.plain c hc :: t, σ, hnodup, hmin, by rw [fill_cons, hfill]; rfl⟩

/-- The statements whose literals are all closed are the templates that have been filled in. -/
lemma openAfter_eq_none_iff {cs : List Char} :
    Literal.openAfter none cs = none ↔ ∃ t σ, (holes t).Nodup ∧ fill σ t = cs := by
  constructor
  · intro h
    obtain ⟨t, σ, hnodup, -, hfill⟩ := exists_fill_eq h 0
    exact ⟨t, σ, hnodup, hfill⟩
  · rintro ⟨t, σ, -, rfl⟩
    exact openAfter_fill

end SqlAdvice.Sql
