import SqlAdvice.Sql.Statement
import SqlAdvice.Proofs.WholeWords
import Mathlib.Data.List.Forall2

/-!
# Statements that are read alike

A `Variation` says what may stand in a statement for a character and for a run of blanks.  Two
statements are a `Variant` of each other when they can be read in step: a character outside blanks
meets one that may stand for it, blanks meet blanks, and only at the end may blanks meet nothing.
Two such variations are of interest, other blanks and other letter case, and what is said here holds
of both.

* `Fits` holds of the parts that may be exchanged in the middle of a statement, whatever follows;
* `SamePlace` holds of two positions from which the statements go on as variants, and where a word
  may begin in both or in neither.

The texts that are cut out of variants are variants (`Variant.split`, `forall₂_pieces`,
`Variant.takeWhile`), and once they are cleaned they agree character by character
(`forall₂_clean`).
-/

namespace SqlAdvice.Sql

open SqlAdvice.Text

/-- What may stand for a character, and what for a run of blanks.  A character has to keep its role,
in keywords, in words and at the beginning of a name, so that what belongs to no word only stands
for itself. -/
structure Variation where
  char : Char → Char → Prop
  gap : List Char → List Char → Prop
  fold {c d : Char} (h : char c d) : foldCase c = foldCase d
  upper {c d : Char} (h : char c d) : upperLetter c = upperLetter d
  word {c d : Char} (h : char c d) : isWord c = isWord d
  start {c d : Char} (h : char c d) : isNameStart c = isNameStart d
  mark {c d : Char} (h : char c d) (hc : isWord c = false) : c = d
  self {c : Char} (hc : isWord c = false) (hascii : c.toNat < 0x80) : char c c
  gap_nil : gap [] []

namespace Variation

variable {v : Variation} {c d : Char}

/-- What holds of all word characters or of none cannot tell two such characters apart. -/
lemma apply_eq {α : Type} {f : Char → α} {x : α} (hf : ∀ c, isWord c = true → f c = x)
    (h : v.char c d) : f c = f d := by
  by_cases hc : isWord c = true
  · rw [hf c hc, hf d (v.word h ▸ hc)]
  · rw [v.mark h (Bool.not_eq_true _ ▸ hc)]

lemma isBlank_eq (h : v.char c d) : isBlank c = isBlank d :=
  apply_eq (fun _ => isBlank_of_isWord) h

lemma beq_eq {m : Char} (hm : isWord m = false) (h : v.char c d) : (c == m) = (d == m) := by
  have hne : ∀ e, isWord e = true → (e == m) = false := fun e he =>
    beq_eq_false_iff_ne.mpr (ne_of_apply he hm)
  exact apply_eq (f := (· == m)) hne h

lemma eq_iff {m : Char} (hm : isWord m = false) (h : v.char c d) : c = m ↔ d = m := by
  rw [← beq_iff_eq, beq_eq hm h, beq_iff_eq]

lemma opensWord_eq (h : v.char c d) : opensWord (some c) = opensWord (some d) := by
  simp [opensWord, v.word h]

lemma isNameRest_eq (h : v.char c d) : isNameRest c = isNameRest d := by
  rw [isNameRest, isNameRest, v.word h, beq_eq (by decide) h]

end Variation

/-- A run of blanks, and one that may stand for it. -/
structure Gap (v : Variation) (x y : List Char) : Prop where
  left : ∀ c ∈ x, isBlank c = true
  right : ∀ c ∈ y, isBlank c = true
  alike : v.gap x y

/-- Two texts that can be read in step.  Blanks at the end may be missing in one of them. -/
inductive Variant (v : Variation) : List Char → List Char → Prop
  | ends {x y : List Char} (h : Gap v x y) : Variant v x y
  | gap {x y a b : List Char} (h : Gap v x y) (hx : x ≠ []) (hy : y ≠ []) (hrest : Variant v a b) :
      Variant v (x ++ a) (y ++ b)
  | char {c d : Char} {a b : List Char} (hc : v.char c d) (hblank : isBlank c = false)
      (hrest : Variant v a b) : Variant v (c :: a) (d :: b)

/-- Two parts that may be exchanged, whatever follows. -/
structure Fits (v : Variation) (x y : List Char) : Prop where
  append {a b : List Char} (h : Variant v a b) : Variant v (x ++ a) (y ++ b)
  opens {p q : Option Char} (h : opensWord p = opensWord q) :
    opensWord (lastChar p x) = opensWord (lastChar q y)

/-- Two positions, each given by the character before it and the text behind it, from which texts go
on in step.  Blanks at the very front may be missing in one of them. -/
inductive SamePlace (v : Variation) : Option Char → List Char → Option Char → List Char → Prop
  | ends {p q : Option Char} {x y : List Char} (h : Gap v x y) : SamePlace v p x q y
  | gap {p q : Option Char} {x y a b : List Char} (h : Gap v x y) (hx : x ≠ [])
      (hrest : SamePlace v (lastChar p x) a (lastChar q y) b) : SamePlace v p (x ++ a) q (y ++ b)
  | char {p q : Option Char} {c d : Char} {a b : List Char} (hopens : opensWord p = opensWord q)
      (hc : v.char c d) (hblank : isBlank c = false) (htext : Variant v a b)
      (hrest : SamePlace v (some c) a (some d) b) : SamePlace v p (c :: a) q (d :: b)

variable {v : Variation} {p q : Option Char} {a b x y : List Char}

/-! ## Blanks -/

lemma gap_nil : Gap v [] [] :=
  ⟨List.forall_mem_nil _, List.forall_mem_nil _, v.gap_nil⟩

lemma Variant.nil : Variant v [] [] :=
  .ends gap_nil

lemma opensWord_of_isBlank {c : Char} (h : isBlank c = true) : opensWord (some c) = true := by
  simp [opensWord, isWord_of_isBlank h]

/-- A word may begin behind blanks. -/
lemma opensWord_lastChar_of_blank (hx : ∀ c ∈ x, isBlank c = true) (hp : opensWord p = true) :
    opensWord (lastChar p x) = true := by
  induction x generalizing p with
  | nil => exact hp
  | cons c x ih =>
    obtain ⟨hc, hx⟩ := List.forall_mem_cons.mp hx
    exact ih hx (opensWord_of_isBlank hc)

lemma opensWord_lastChar_of_ne_nil (hx : ∀ c ∈ x, isBlank c = true) (hne : x ≠ []) :
    opensWord (lastChar p x) = true := by
  obtain ⟨c, x, rfl⟩ := List.exists_cons_of_ne_nil hne
  obtain ⟨hc, hmore⟩ := List.forall_mem_cons.mp hx
  exact opensWord_lastChar_of_blank (p := some c) hmore (opensWord_of_isBlank hc)

/-- Blanks are silent about keywords. -/
lemma silent_of_blank {ks : List Keyword} (hx : ∀ c ∈ x, isBlank c = true) : Silent ks a p x := by
  induction x generalizing p with
  | nil => trivial
  | cons c x ih =>
    obtain ⟨hc, hx⟩ := List.forall_mem_cons.mp hx
    exact silent_append.mpr ⟨silent_mark (isWord_of_isBlank hc), ih hx⟩

lemma skipBlanks_of_blank (hx : ∀ c ∈ x, isBlank c = true) (a : List Char) :
    skipBlanks (x ++ a) = skipBlanks a :=
  List.dropWhile_append_of_pos hx

lemma skipBlanks_eq_nil (hx : ∀ c ∈ x, isBlank c = true) : skipBlanks x = [] :=
  List.dropWhile_eq_nil_iff.mpr hx

/-! ## Parts that may be exchanged -/

namespace Fits

variable {x' y' : List Char}

lemma nil : Fits v [] [] :=
  ⟨id, id⟩

lemma trans (h : Fits v x y) (h' : Fits v x' y') : Fits v (x ++ x') (y ++ y') where
  append hrest := by
    rw [List.append_assoc, List.append_assoc]
    exact h.append (h'.append hrest)
  opens hpq := by
    rw [lastChar_append, lastChar_append]
    exact h'.opens (h.opens hpq)

lemma gap (h : Gap v x y) (hx : x ≠ []) (hy : y ≠ []) : Fits v x y where
  append hrest := .gap h hx hy hrest
  opens _ := by
    rw [opensWord_lastChar_of_ne_nil h.left hx, opensWord_lastChar_of_ne_nil h.right hy]

lemma char {c d : Char} (hc : v.char c d) (hblank : isBlank c = false) : Fits v [c] [d] where
  append hrest := .char hc hblank hrest
  opens _ := v.opensWord_eq hc

lemma mark {m : Char} (hword : isWord m = false) (hascii : m.toNat < 0x80)
    (hblank : isBlank m = false) : Fits v [m] [m] :=
  .char (v.self hword hascii) hblank

lemma of_forall₂ (h : List.Forall₂ v.char x y) (hblank : ∀ c ∈ x, isBlank c = false) :
    Fits v x y := by
  induction h with
  | nil => exact nil
  | cons hc _ ih =>
    obtain ⟨hblank, hblanks⟩ := List.forall_mem_cons.mp hblank
    exact (Fits.char hc hblank).trans (ih hblanks)

lemma variant (h : Fits v x y) : Variant v x y := by
  simpa using h.append Variant.nil

end Fits

/-! ## Positions -/

lemma SamePlace.of_variant (h : Variant v a b) (hopens : opensWord p = opensWord q) :
    SamePlace v p a q b := by
  induction h generalizing p q with
  | ends h => exact .ends h
  | gap h hx hy _ ih => exact .gap h hx (ih ((Fits.gap h hx hy).opens hopens))
  | char hc hblank hrest ih =>
    exact .char hopens hc hblank hrest (ih (v.opensWord_eq hc))

/-! ## The front of variants -/

namespace Variant

/-- Either both texts begin with characters that stand for each other, or neither begins with
anything but a blank. -/
lemma head_cases (h : Variant v a b) :
    (∃ c d a' b', a = c :: a' ∧ b = d :: b' ∧ v.char c d ∧ isBlank c = false ∧ Variant v a' b') ∨
      (∀ c ∈ a.head?, isBlank c = true) ∧ ∀ d ∈ b.head?, isBlank d = true := by
  cases h with
  | ends h =>
    exact .inr ⟨fun c hc => h.left c (List.mem_of_mem_head? hc),
      fun d hd => h.right d (List.mem_of_mem_head? hd)⟩
  | gap h hx hy =>
    refine .inr ⟨fun c hc => ?_, fun d hd => ?_⟩
    · rw [List.head?_append_of_ne_nil _ hx] at hc
      exact h.left c (List.mem_of_mem_head? hc)
    · rw [List.head?_append_of_ne_nil _ hy] at hd
      exact h.right d (List.mem_of_mem_head? hd)
  | char hc hblank hrest => exact .inl ⟨_, _, _, _, rfl, rfl, hc, hblank, hrest⟩

lemma closesWord_eq (h : Variant v a b) : closesWord a = closesWord b := by
  obtain ⟨c, d, a, b, rfl, rfl, hc, -, -⟩ | ⟨ha, hb⟩ := h.head_cases
  · simp [closesWord, v.word hc]
  · have hcloses : ∀ {cs : List Char}, (∀ c ∈ cs.head?, isBlank c = true) →
        closesWord cs = true := by
      intro cs hcs
      cases cs with
      | nil => rfl
      | cons c cs => simp [closesWord, isWord_of_isBlank (hcs c rfl)]
    rw [hcloses ha, hcloses hb]

/-- The blanks at the front, and what is behind them.  If there is anything else, they are some in
both texts or none in both. -/
lemma blankFront (h : Variant v a b) :
    (∃ x y a' b', a = x ++ a' ∧ b = y ++ b' ∧ Fits v x y ∧ (∀ c ∈ x, isBlank c = true) ∧
      (∀ c ∈ y, isBlank c = true) ∧ (x = [] ↔ y = []) ∧ Variant v a' b' ∧
      ∃ c d a'' b'', a' = c :: a'' ∧ b' = d :: b'' ∧ v.char c d ∧ isBlank c = false ∧
        Variant v a'' b'') ∨
    ((∀ c ∈ a, isBlank c = true) ∧ ∀ c ∈ b, isBlank c = true) := by
  induction h with
  | ends h => exact .inr ⟨h.left, h.right⟩
  | @gap x y a b h hx hy hrest ih =>
    obtain ⟨x', y', a', b', rfl, rfl, hfits, hx', hy', hnil, hmore⟩ | ⟨ha, hb⟩ := ih
    · refine .inl ⟨x ++ x', y ++ y', a', b', by simp, by simp, (Fits.gap h hx hy).trans hfits,
        List.forall_mem_append.mpr ⟨h.left, hx'⟩, List.forall_mem_append.mpr ⟨h.right, hy'⟩, ?_,
        hmore⟩
      simp [hx, hy]
    · exact .inr ⟨List.forall_mem_append.mpr ⟨h.left, ha⟩,
        List.forall_mem_append.mpr ⟨h.right, hb⟩⟩
  | @char c d a b hc hblank hrest _ =>
    exact .inl ⟨[], [], c :: a, d :: b, rfl, rfl, Fits.nil, by simp, by simp, by simp,
      .char hc hblank hrest, c, d, a, b, rfl, rfl, hc, hblank, hrest⟩

lemma skipBlanks (h : Variant v a b) : Variant v (Text.skipBlanks a) (Text.skipBlanks b) := by
  induction h with
  | ends h =>
    rw [skipBlanks_eq_nil h.left, skipBlanks_eq_nil h.right]
    exact .nil
  | gap h _ _ _ ih => rwa [skipBlanks_of_blank h.left, skipBlanks_of_blank h.right]
  | char hc hblank hrest _ =>
    rw [Text.skipBlanks, Text.skipBlanks, dropWhile_of_head (forall_mem_head?_cons.mpr hblank),
      dropWhile_of_head (forall_mem_head?_cons.mpr (v.isBlank_eq hc ▸ hblank))]
    exact .char hc hblank hrest

/-- The longest fronts of a kind without blanks agree character by character. -/
lemma takeWhile {f : Char → Bool} (hf : ∀ {c d}, v.char c d → f c = f d)
    (hblank : ∀ c, isBlank c = true → f c = false) (h : Variant v a b) :
    List.Forall₂ v.char (a.takeWhile f) (b.takeWhile f) ∧
      Variant v (a.dropWhile f) (b.dropWhile f) := by
  have hnone : ∀ {cs : List Char}, (∀ c ∈ cs.head?, isBlank c = true) →
      cs.takeWhile f = [] ∧ cs.dropWhile f = cs := by
    intro cs hcs
    have hhead : ∀ c ∈ cs.head?, f c = false := fun c hc => hblank c (hcs c hc)
    exact ⟨takeWhile_append_of_head (w := []) (by simp) hhead, dropWhile_of_head hhead⟩
  induction h with
  | ends h =>
    obtain ⟨htake, hdrop⟩ := hnone fun c hc => h.left c (List.mem_of_mem_head? hc)
    obtain ⟨htake', hdrop'⟩ := hnone fun c hc => h.right c (List.mem_of_mem_head? hc)
    rw [htake, hdrop, htake', hdrop']
    exact ⟨.nil, .ends h⟩
  | gap h hx hy hrest _ =>
    obtain hchar | ⟨ha, hb⟩ := (Variant.gap h hx hy hrest).head_cases
    · obtain ⟨c, d, a', b', ha, -, -, hblank, -⟩ := hchar
      obtain ⟨e, x, rfl⟩ := List.exists_cons_of_ne_nil hx
      obtain ⟨rfl, -⟩ := List.cons_eq_cons.mp ha
      exact absurd (h.left _ List.mem_cons_self) (by simp [hblank])
    · rw [(hnone ha).1, (hnone ha).2, (hnone hb).1, (hnone hb).2]
      exact ⟨.nil, .gap h hx hy hrest⟩
  | @char c d a b hc hblankc hrest ih =>
    rw [List.takeWhile_cons, List.takeWhile_cons, List.dropWhile_cons, List.dropWhile_cons, ← hf hc]
    split
    · exact ⟨.cons hc ih.1, ih.2⟩
    · exact ⟨.nil, .char hc hblankc hrest⟩

/-! ## Cut at a mark -/

/-- A mark that is no blank occurs in both texts or in neither, and cuts them into variants. -/
lemma split {m : Char} (hword : isWord m = false) (hblank : isBlank m = false)
    (h : Variant v a b) :
    (m ∉ a ∧ m ∉ b) ∨
      ∃ x y a' b', a = x ++ m :: a' ∧ b = y ++ m :: b' ∧ m ∉ x ∧ m ∉ y ∧ Fits v x y ∧
        v.char m m ∧ Variant v a' b' := by
  have hnot : ∀ {cs : List Char}, (∀ c ∈ cs, isBlank c = true) → m ∉ cs := fun hcs =>
    not_mem_of_apply hcs hblank
  induction h with
  | ends h => exact .inl ⟨hnot h.left, hnot h.right⟩
  | @gap x y a b h hx hy _ ih =>
    obtain ⟨ha, hb⟩ | ⟨x', y', a', b', rfl, rfl, hx', hy', hfits, hm, hrest⟩ := ih
    · exact .inl ⟨by simp [hnot h.left, ha], by simp [hnot h.right, hb]⟩
    · exact .inr ⟨x ++ x', y ++ y', a', b', by simp, by simp, by simp [hnot h.left, hx'],
        by simp [hnot h.right, hy'], (Fits.gap h hx hy).trans hfits, hm, hrest⟩
  | @char c d a b hc hblankc hrest ih =>
    by_cases hcm : c = m
    · obtain rfl : d = m := (v.eq_iff hword hc).mp hcm
      subst hcm
      exact .inr ⟨[], [], a, b, rfl, rfl, List.not_mem_nil, List.not_mem_nil, Fits.nil, hc, hrest⟩
    · have hdm : d ≠ m := fun hd => hcm ((v.eq_iff hword hc).mpr hd)
      obtain ⟨ha, hb⟩ | ⟨x', y', a', b', rfl, rfl, hx', hy', hfits, hm, hrest⟩ := ih
      · exact .inl ⟨List.not_mem_cons_of_ne_of_not_mem (Ne.symm hcm) ha,
          List.not_mem_cons_of_ne_of_not_mem (Ne.symm hdm) hb⟩
      · exact .inr ⟨c :: x', d :: y', a', b', rfl, rfl,
          List.not_mem_cons_of_ne_of_not_mem (Ne.symm hcm) hx',
          List.not_mem_cons_of_ne_of_not_mem (Ne.symm hdm) hy',
          (Fits.char hc hblankc).trans hfits, hm, hrest⟩

lemma filter {f : Char → Bool} (hf : ∀ {c d}, v.char c d → f c = f d)
    (hkept : ∀ c, isBlank c = true → f c = true) (h : Variant v a b) :
    Variant v (a.filter f) (b.filter f) := by
  have hkeep : ∀ {cs : List Char}, (∀ c ∈ cs, isBlank c = true) → cs.filter f = cs := fun hcs =>
    List.filter_eq_self.mpr fun c hc => hkept c (hcs c hc)
  induction h with
  | ends h =>
    rw [hkeep h.left, hkeep h.right]
    exact .ends h
  | gap h hx hy _ ih =>
    rw [List.filter_append, List.filter_append, hkeep h.left, hkeep h.right]
    exact .gap h hx hy ih
  | char hc hblank _ ih =>
    rw [List.filter_cons, List.filter_cons, ← hf hc]
    split
    · exact .char hc hblank ih
    · exact ih

end Variant

/-- By induction on the length, since a mark cuts off a part of any length. -/
lemma forall₂_pieces {m : Char} (hword : isWord m = false) (hblank : isBlank m = false)
    (h : Variant v a b) :
    List.Forall₂ (Variant v) (pieces (· == m) a) (pieces (· == m) b) := by
  induction hlength : a.length using Nat.strong_induction_on generalizing a b with
  | h length ih =>
    subst hlength
    obtain ⟨ha, hb⟩ | ⟨x, y, a', b', rfl, rfl, hx, hy, hfits, -, hrest⟩ := h.split hword hblank
    · rw [pieces_eq_singleton ha, pieces_eq_singleton hb]
      exact .cons h .nil
    · have hcut : ∀ {x a : List Char}, m ∉ x →
          pieces (· == m) (x ++ m :: a) = x :: pieces (· == m) a := by
        intro x a hx
        rw [pieces_append_cons (by simp), pieces_eq_singleton hx, List.singleton_append]
      rw [hcut hx, hcut hy]
      exact .cons hfits.variant (ih a'.length (by simp; omega) hrest rfl)

/-! ## Blanks at the end -/

/-- A character that is no blank in front keeps blanks off the end. -/
lemma getLast?_cons_of_not_blank {c : Char} (hc : isBlank c = false)
    (ha : ∀ e ∈ a.getLast?, isBlank e = false) : ∀ e ∈ (c :: a).getLast?, isBlank e = false := by
  intro e he
  cases a with
  | nil => exact Option.mem_some.mp he ▸ hc
  | cons d a => exact ha e (by rwa [List.getLast?_cons_cons] at he)

namespace Variant

/-- The blanks at the end, and what is in front of them. -/
lemma blankEnd (h : Variant v a b) :
    ∃ x y s t, a = x ++ s ∧ b = y ++ t ∧ Fits v x y ∧ (x = [] ↔ y = []) ∧
      (∀ c ∈ s, isBlank c = true) ∧ (∀ c ∈ t, isBlank c = true) ∧
      (∀ c ∈ x.getLast?, isBlank c = false) ∧ ∀ c ∈ y.getLast?, isBlank c = false := by
  induction h with
  | @ends x y h =>
    exact ⟨[], [], x, y, rfl, rfl, .nil, by simp, h.left, h.right, by simp, by simp⟩
  | @gap x y a b h hx hy _ ih =>
    obtain ⟨x', y', s, t, rfl, rfl, hfits, hnil, hs, ht, hxlast, hylast⟩ := ih
    by_cases hx' : x' = []
    · obtain rfl := hnil.mp hx'
      subst hx'
      exact ⟨[], [], x ++ s, y ++ t, rfl, rfl, .nil, by simp,
        List.forall_mem_append.mpr ⟨h.left, hs⟩, List.forall_mem_append.mpr ⟨h.right, ht⟩,
        by simp, by simp⟩
    · have hy' : y' ≠ [] := fun hy' => hx' (hnil.mpr hy')
      refine ⟨x ++ x', y ++ y', s, t, by simp, by simp, (Fits.gap h hx hy).trans hfits,
        by simp [hx, hy], hs, ht, ?_, ?_⟩
      · rwa [List.getLast?_append_of_ne_nil _ hx']
      · rwa [List.getLast?_append_of_ne_nil _ hy']
  | @char c d a b hc hblank _ ih =>
    obtain ⟨x', y', s, t, rfl, rfl, hfits, hnil, hs, ht, hxlast, hylast⟩ := ih
    exact ⟨c :: x', d :: y', s, t, rfl, rfl, (Fits.char hc hblank).trans hfits, by simp, hs, ht,
      getLast?_cons_of_not_blank hblank hxlast,
      getLast?_cons_of_not_blank (v.isBlank_eq hc ▸ hblank) hylast⟩

/-- Trimmed texts may be exchanged. -/
lemma trim (h : Variant v a b) : Fits v (Text.trim a) (Text.trim b) := by
  obtain ⟨x, y, s, t, ha, hb, hfits, -, hs, ht, hx, hy⟩ := h.skipBlanks.blankEnd
  have htrim : ∀ {cs x s : List Char}, Text.skipBlanks cs = x ++ s → (∀ c ∈ s, isBlank c = true) →
      (∀ c ∈ x.getLast?, isBlank c = false) → Text.trim cs = x := by
    intro cs x s hcs hs hx
    rw [Text.trim, ← Text.skipBlanks, hcs, dropTailWhile_append_of_last hs hx]
  rwa [htrim ha hs hx, htrim hb ht hy]

lemma blank_iff (h : Variant v a b) :
    (∀ c ∈ a, isBlank c = true) ↔ ∀ c ∈ b, isBlank c = true := by
  induction h with
  | ends h => exact iff_of_true h.left h.right
  | gap h _ _ _ ih =>
    rw [List.forall_mem_append, List.forall_mem_append, and_iff_right h.left, and_iff_right h.right,
      ih]
  | char hc hblank _ ih =>
    rw [List.forall_mem_cons, List.forall_mem_cons, v.isBlank_eq hc, ih]

/-- Texts without a blank at the end are empty together. -/
lemma eq_nil_iff (h : Variant v a b) (ha : ∀ c ∈ a.getLast?, isBlank c = false)
    (hb : ∀ c ∈ b.getLast?, isBlank c = false) : a = [] ↔ b = [] := by
  have hnil : ∀ {cs : List Char}, (∀ c ∈ cs.getLast?, isBlank c = false) →
      ((∀ c ∈ cs, isBlank c = true) ↔ cs = []) := by
    intro cs hcs
    constructor
    · intro hall
      by_contra hne
      have hlast := List.getLast?_eq_some_getLast hne
      exact Bool.false_ne_true ((hcs _ hlast).symm.trans (hall _ (List.getLast_mem hne)))
    · rintro rfl
      exact List.forall_mem_nil _
  rw [← hnil ha, ← hnil hb, h.blank_iff]

end Variant

/-! ## Cleaned -/

section Forall₂

variable {R : Char → Char → Prop}

lemma forall₂_dropWhile {f : Char → Bool} (hf : ∀ {c d}, R c d → f c = f d)
    (h : List.Forall₂ R a b) : List.Forall₂ R (a.dropWhile f) (b.dropWhile f) := by
  induction h with
  | nil => exact .nil
  | cons hc h ih =>
    rw [List.dropWhile_cons, List.dropWhile_cons, ← hf hc]
    split
    · exact ih
    · exact .cons hc h

lemma forall₂_dropTailWhile {f : Char → Bool} (hf : ∀ {c d}, R c d → f c = f d)
    (h : List.Forall₂ R a b) : List.Forall₂ R (dropTailWhile f a) (dropTailWhile f b) :=
  List.rel_reverse (forall₂_dropWhile hf (List.rel_reverse h))

lemma forall₂_joinPieces {sep : Char} (hsep : R sep sep) {ws us : List (List Char)}
    (h : List.Forall₂ (List.Forall₂ R) ws us) :
    List.Forall₂ R (joinPieces sep ws) (joinPieces sep us) := by
  induction h with
  | nil => exact .nil
  | @cons w u ws us hw h ih =>
    cases h with
    | nil => simpa using hw
    | cons hw' h =>
      rw [joinPieces_cons_cons, joinPieces_cons_cons]
      exact List.rel_append hw (.cons hsep ih)

end Forall₂

lemma words_of_blank_append (hx : ∀ c ∈ x, isBlank c = true) (a : List Char) :
    words (x ++ a) = words a := by
  induction x with
  | nil => rfl
  | cons c x ih =>
    obtain ⟨hc, hx⟩ := List.forall_mem_cons.mp hx
    rw [List.cons_append, words, if_pos hc, ih hx]

/-- Variants have the same words, character by character. -/
lemma forall₂_words (h : Variant v a b) :
    List.Forall₂ (List.Forall₂ v.char) (words a) (words b) := by
  induction h with
  | ends h =>
    rw [words_eq_nil_iff.mpr h.left, words_eq_nil_iff.mpr h.right]
    exact .nil
  | gap h _ _ _ ih => rwa [words_of_blank_append h.left, words_of_blank_append h.right]
  | @char c d a b hc hblank hrest ih =>
    have hends : a.head?.all isBlank = b.head?.all isBlank := by
      obtain ⟨e, f, a, b, rfl, rfl, he, -, -⟩ | ⟨ha, hb⟩ := hrest.head_cases
      · exact v.isBlank_eq he
      · have hall : ∀ {cs : List Char}, (∀ c ∈ cs.head?, isBlank c = true) →
            cs.head?.all isBlank = true := by
          intro cs hcs
          cases cs with
          | nil => rfl
          | cons c cs => exact hcs c rfl
        rw [hall ha, hall hb]
    rw [words, words, ← v.isBlank_eq hc, hblank, if_neg Bool.false_ne_true,
      if_neg Bool.false_ne_true, ← hends]
    generalize words a = ws at ih
    generalize words b = us at ih
    split
    · exact .cons (.cons hc .nil) ih
    · cases ih with
      | nil => exact .cons (.cons hc .nil) .nil
      | cons hw hws => exact .cons (.cons hc hw) hws

lemma forall₂_squeeze (h : Variant v a b) : List.Forall₂ v.char (squeeze a) (squeeze b) :=
  forall₂_joinPieces (v.self (by decide) (by decide)) (forall₂_words h)

/-- **Cleaned variants** agree character by character. -/
lemma forall₂_clean (h : Variant v a b) : List.Forall₂ v.char (clean a) (clean b) := by
  have hterminators : List.Forall₂ v.char (dropTailWhile (· == ';') (squeeze a))
      (dropTailWhile (· == ';') (squeeze b)) :=
    forall₂_dropTailWhile (v.beq_eq (m := ';') (by decide)) (forall₂_squeeze h)
  rw [clean, clean, Text.trim, Text.trim]
  exact forall₂_dropTailWhile v.isBlank_eq (forall₂_dropWhile v.isBlank_eq hterminators)

lemma forall₂_cleanAll {as bs : List (List Char)} (h : List.Forall₂ (Variant v) as bs) :
    List.Forall₂ (List.Forall₂ v.char) (cleanAll as) (cleanAll bs) := by
  have hcleaned : List.Forall₂ (List.Forall₂ v.char) (as.map clean) (bs.map clean) := by
    rw [List.forall₂_map_left_iff, List.forall₂_map_right_iff]
    exact h.imp fun _ _ => forall₂_clean
  refine List.rel_filter (fun w u hwu => ?_) hcleaned
  cases hwu <;> simp

end SqlAdvice.Sql
