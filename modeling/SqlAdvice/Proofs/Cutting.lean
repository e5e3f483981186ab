import SqlAdvice.Sql.Fragment
import SqlAdvice.Proofs.Trimmed
import Mathlib.Data.List.Basic
import Mathlib.Data.List.DropRight
import Mathlib.Tactic.Common

/-!
# Texts cut and put together

A separator cuts a text in two parts that are cut further on their own, for `pieces` as for `words`
(`pieces_append_cons`, `words_append_cons`), and a text without separators is one part
(`pieces_of_none`, `words_of_none`).

A fragment of a statement is reported with its words one space apart.  A text that is written so
from the start is `Tidy`.  Cleaning gives back the tidy text with the same words, whatever the
blanks around them are, unless it ends in a terminator (`clean_of_words`).  The terminators at the
end can be taken off before the blanks are squeezed as well as after that (`clean_eq`).
-/

namespace SqlAdvice.Text

/-! ## The front of a text -/

section Front

variable {p : Char → Bool} {w rest : List Char}

/-- What no character of a text is, by evaluation. -/
lemma forall_mem_of_any (h : w.any p = false) : ∀ c ∈ w, p c = false :=
  fun c hc => Bool.eq_false_iff.mpr (List.any_eq_false.mp h c hc)

/-- Characters of different kinds are different. -/
lemma ne_of_apply {c d : Char} (hc : p c = true) (hd : p d = false) : c ≠ d := by
  rintro rfl
  exact Bool.false_ne_true (hd.symm.trans hc)

lemma not_mem_of_apply {c : Char} (hw : ∀ c ∈ w, p c = true) (hc : p c = false) : c ∉ w :=
  fun hmem => ne_of_apply (hw c hmem) hc rfl

lemma forall_mem_bne {c : Char} (h : c ∉ w) : ∀ d ∈ w, (d != c) = true :=
  fun _ hd => bne_iff_ne.mpr (ne_of_mem_of_not_mem hd h)

lemma forall_mem_head?_cons {P : Char → Prop} {c : Char} {cs : List Char} :
    (∀ d ∈ (c :: cs).head?, P d) ↔ P c := by
  simp

/-- The longest front of a kind ends where a character of another kind follows. -/
lemma takeWhile_append_of_head (hw : ∀ c ∈ w, p c = true) (hrest : ∀ c ∈ rest.head?, p c = false) :
    (w ++ rest).takeWhile p = w := by
  rw [List.takeWhile_append_of_pos hw]
  cases rest with
  | nil => exact List.append_nil w
  | cons c rest => rw [List.takeWhile_cons, hrest c rfl, if_neg Bool.false_ne_true, List.append_nil]

lemma dropWhile_append_of_head (hw : ∀ c ∈ w, p c = true) (hrest : ∀ c ∈ rest.head?, p c = false) :
    (w ++ rest).dropWhile p = rest := by
  rw [List.dropWhile_append_of_pos hw, dropWhile_of_head hrest]

/-- And so does the longest tail, where a character of another kind stands before. -/
lemma dropTailWhile_append_of_last (hrest : ∀ c ∈ rest, p c = true)
    (hw : ∀ c ∈ w.getLast?, p c = false) : dropTailWhile p (w ++ rest) = w := by
  have hreverse : ∀ c ∈ rest.reverse, p c = true := fun c hc => hrest c (List.mem_reverse.mp hc)
  rw [dropTailWhile, List.reverse_append, List.dropWhile_append_of_pos hreverse,
    ← dropTailWhile, dropTailWhile_of_last hw]

end Front

/-! ## Pieces -/

lemma pieces_append_cons {p : Char → Bool} {m : Char} (hm : p m = true) (a b : List Char) :
    pieces p (a ++ m :: b) = pieces p a ++ pieces p b := by
  induction a with
  | nil => simp [pieces, hm]
  | cons c a ih =>
    rw [List.cons_append, pieces, pieces, ih]
    cases hpieces : pieces p a with
    | nil => exact absurd hpieces (pieces_ne_nil p a)
    | cons w ws => by_cases hc : p c = true <;> simp [hc]

lemma pieces_of_none {p : Char → Bool} {w : List Char} (hw : ∀ c ∈ w, p c = false) :
    pieces p w = [w] := by
  induction w with
  | nil => rfl
  | cons c w ih =>
    obtain ⟨hc, hrest⟩ := List.forall_mem_cons.mp hw
    rw [pieces, ih hrest]
    simp [hc]

lemma pieces_eq_singleton {sep : Char} {w : List Char} (h : sep ∉ w) :
    pieces (· == sep) w = [w] :=
  pieces_of_none fun _ hc => beq_eq_false_iff_ne.mpr (ne_of_mem_of_not_mem hc h)

/-- Texts that are joined are cut apart again, and each of them is cut. -/
lemma pieces_joinPieces {sep : Char} {ws : List (List Char)} (hne : ws ≠ []) :
    pieces (· == sep) (joinPieces sep ws) = ws.flatMap (pieces (· == sep)) := by
  induction ws with
  | nil => exact absurd rfl hne
  | cons w ws ih =>
    cases ws with
    | nil => simp
    | cons v ws =>
      rw [joinPieces_cons_cons, pieces_append_cons (p := (· == sep)) (beq_self_eq_true sep),
        ih (List.cons_ne_nil v ws)]
      rfl

/-- Pieces put together again are the text that they were cut from. -/
lemma joinPieces_pieces (sep : Char) (cs : List Char) :
    joinPieces sep (pieces (· == sep) cs) = cs := by
  induction cs with
  | nil => simp [pieces]
  | cons c cs ih =>
    obtain ⟨w, ws, hpieces⟩ := List.exists_cons_of_ne_nil (pieces_ne_nil (· == sep) cs)
    rw [hpieces] at ih
    rw [pieces, hpieces]
    by_cases hc : c = sep
    · rw [if_pos (beq_iff_eq.mpr hc), joinPieces_cons_cons, ih, hc]
      rfl
    · rw [if_neg (by simpa using hc), joinPieces_cons_head, ih]

/-- No separator is left in a piece. -/
lemma not_mem_of_mem_pieces {sep : Char} {w cs : List Char} (h : w ∈ pieces (· == sep) cs) :
    sep ∉ w := by
  induction cs generalizing w with
  | nil =>
    rw [List.mem_singleton.mp h]
    exact List.not_mem_nil
  | cons c cs ih =>
    by_cases hc : c = sep
    · rw [pieces, if_pos (beq_iff_eq.mpr hc)] at h
      obtain rfl | h := List.mem_cons.mp h
      · exact List.not_mem_nil
      · exact ih h
    · rw [pieces, if_neg (by simpa using hc)] at h
      split at h
      · rename_i v vs hpieces
        rw [hpieces] at ih
        obtain rfl | h := List.mem_cons.mp h
        · exact List.not_mem_cons_of_ne_of_not_mem (Ne.symm hc) (ih List.mem_cons_self)
        · exact ih (List.mem_cons_of_mem v h)
      · rename_i hpieces
        exact absurd hpieces (pieces_ne_nil _ cs)

lemma afterLast_of_not_mem {sep : Char} {a : List Char} (h : sep ∉ a) : afterLast sep a = a := by
  have hnone : sep ∉ a.reverse := fun hsep => h (List.mem_reverse.mp hsep)
  rw [afterLast, List.takeWhile_eq_self_iff.mpr (forall_mem_bne hnone), List.reverse_reverse]

/-- Only what follows a separator counts. -/
lemma afterLast_append_separator {sep : Char} (x a : List Char) :
    afterLast sep (x ++ sep :: a) = afterLast sep a := by
  have hreverse : (x ++ sep :: a).reverse = a.reverse ++ sep :: x.reverse := by simp
  rw [afterLast, hreverse, List.takeWhile_append, afterLast]
  split
  · rename_i hall
    rw [List.takeWhile_cons, bne_self_eq_false, if_neg Bool.false_ne_true, List.append_nil,
      (List.takeWhile_prefix _).eq_of_length hall]
  · rfl

/-- What follows the last separator, where one is written out. -/
lemma afterLast_append_cons {sep : Char} {b : List Char} (hb : sep ∉ b) (a : List Char) :
    afterLast sep (a ++ sep :: b) = b :=
  (afterLast_append_separator a b).trans (afterLast_of_not_mem hb)

/-- Of texts that are joined the last one is what follows the last separator. -/
lemma afterLast_joinPieces {sep : Char} {w : List Char} (hw : sep ∉ w) (ws : List (List Char)) :
    afterLast sep (joinPieces sep (ws ++ [w])) = w := by
  by_cases hne : ws = []
  · rw [hne, List.nil_append, joinPieces_singleton, afterLast_of_not_mem hw]
  · rw [joinPieces_concat sep hne, afterLast_append_cons hw]

/-- The first piece is what comes before the first separator. -/
lemma pieces_eq_takeWhile_cons (p : Char → Bool) (cs : List Char) :
    pieces p cs = cs.takeWhile (fun c => !p c) :: (pieces p cs).tail := by
  induction cs with
  | nil => rfl
  | cons c cs ih =>
    rw [pieces]
    by_cases hc : p c = true
    · simp [hc]
    · rw [ih]
      simp [hc]

/-! ## Words -/

lemma words_cons_ne_nil {c : Char} (hc : isBlank c = false) (cs : List Char) :
    words (c :: cs) ≠ [] := by
  rw [words, if_neg (by simp [hc])]
  split
  · exact List.cons_ne_nil _ _
  · split <;> exact List.cons_ne_nil _ _

lemma words_append_cons {m : Char} (hm : isBlank m = true) (a b : List Char) :
    words (a ++ m :: b) = words a ++ words b := by
  induction a with
  | nil => simp [words, hm]
  | cons c a ih =>
    by_cases hc : isBlank c = true
    · simp [words, hc, ih]
    cases a with
    | nil => simp [words, hc, hm]
    | cons d a =>
      rw [List.cons_append, words, words, ih, if_neg hc, if_neg hc]
      by_cases hd : isBlank d = true
      · simp [hd]
      · obtain ⟨w, ws, hws⟩ := List.exists_cons_of_ne_nil
          (words_cons_ne_nil (Bool.eq_false_iff.mpr hd) a)
        simp [hd, hws]

lemma words_of_none {w : List Char} (hne : w ≠ []) (hw : ∀ c ∈ w, isBlank c = false) :
    words w = [w] := by
  induction w with
  | nil => exact absurd rfl hne
  | cons c w ih =>
    obtain ⟨hc, hrest⟩ := List.forall_mem_cons.mp hw
    cases w with
    | nil => simp [words, hc]
    | cons d w =>
      rw [words, ih (List.cons_ne_nil d w) hrest]
      simp [hc, hrest d List.mem_cons_self]

/-! ## Tidy texts -/

/-- One or more words, with one space between neighbours. -/
inductive Tidy : List Char → Prop where
  | word {w : List Char} (hne : w ≠ []) (hw : ∀ c ∈ w, isBlank c = false) : Tidy w
  | more {w cs : List Char} (hne : w ≠ []) (hw : ∀ c ∈ w, isBlank c = false) (h : Tidy cs) :
      Tidy (w ++ ' ' :: cs)

namespace Tidy

lemma append {a b : List Char} (ha : Tidy a) (hb : Tidy b) : Tidy (a ++ ' ' :: b) := by
  induction ha with
  | word hne hw => exact .more hne hw hb
  | more hne hw _ ih =>
    rw [List.append_assoc, List.cons_append]
    exact .more hne hw ih

/-- One more character for the last word. -/
lemma concat {a : List Char} (ha : Tidy a) {c : Char} (hc : isBlank c = false) :
    Tidy (a ++ [c]) := by
  have hglue : ∀ {w : List Char}, (∀ d ∈ w, isBlank d = false) →
      ∀ d ∈ w ++ [c], isBlank d = false := by
    intro w hw d hd
    obtain hd | hd := List.mem_append.mp hd
    · exact hw d hd
    · rw [List.mem_singleton.mp hd]
      exact hc
  induction ha with
  | word hne hw => exact .word (by simp) (hglue hw)
  | more hne hw _ ih =>
    rw [List.append_assoc, List.cons_append]
    exact .more hne hw ih

lemma words_ne_nil {cs : List Char} (h : Tidy cs) : words cs ≠ [] := by
  cases h with
  | word hne hw => simp [words_of_none hne hw]
  | more hne hw _ => simp [words_append_cons (m := ' ') (by decide), words_of_none hne hw]

lemma squeeze_eq {cs : List Char} (h : Tidy cs) : squeeze cs = cs := by
  induction h with
  | word hne hw => simp [squeeze, words_of_none hne hw, List.intercalate]
  | more hne hw h ih =>
    obtain ⟨v, vs, hvs⟩ := List.exists_cons_of_ne_nil h.words_ne_nil
    rw [squeeze, hvs] at ih
    rw [squeeze, words_append_cons (by decide), words_of_none hne hw, hvs, List.singleton_append]
    exact (joinPieces_cons_cons ' ' _ v vs).trans (by rw [joinPieces, ih])

lemma ne_nil {cs : List Char} (h : Tidy cs) : cs ≠ [] := by
  cases h with
  | word hne _ => exact hne
  | more _ _ _ => simp

lemma noBlankEnds {cs : List Char} (h : Tidy cs) : NoBlankEnds cs := by
  induction h with
  | word _ hw =>
    exact ⟨fun c hc => hw c (List.mem_of_mem_head? hc),
      fun c hc => hw c (List.mem_of_getLast? hc)⟩
  | @more w cs hne hw h ih =>
    constructor
    · intro c hc
      rw [List.head?_append_of_ne_nil _ hne] at hc
      exact hw c (List.mem_of_mem_head? hc)
    · intro c hc
      rw [List.getLast?_append_of_ne_nil _ (List.cons_ne_nil _ _),
        List.getLast?_cons_of_ne_nil h.ne_nil] at hc
      exact ih.last c hc

end Tidy

/-! ## Squeezed texts -/

lemma words_eq_nil_iff {cs : List Char} : words cs = [] ↔ ∀ c ∈ cs, isBlank c = true := by
  induction cs with
  | nil => exact iff_of_true rfl (List.forall_mem_nil _)
  | cons c cs ih =>
    rw [List.forall_mem_cons]
    by_cases hc : isBlank c = true
    · rw [words, if_pos hc, ih, and_iff_right hc]
    · exact iff_of_false (words_cons_ne_nil (Bool.eq_false_iff.mpr hc) cs) fun h => hc h.1

lemma words_append_of_blank {b : List Char} (hb : ∀ c ∈ b, isBlank c = true) (a : List Char) :
    words (a ++ b) = words a := by
  cases b with
  | nil => rw [List.append_nil]
  | cons m b =>
    obtain ⟨hm, hb⟩ := List.forall_mem_cons.mp hb
    rw [words_append_cons hm, words_eq_nil_iff.mpr hb, List.append_nil]

/-- A run of other characters behind a blank is one more word. -/
lemma words_append_word {a w : List Char} (ha : ∀ c ∈ a.getLast?, isBlank c = true) (hne : w ≠ [])
    (hw : ∀ c ∈ w, isBlank c = false) : words (a ++ w) = words a ++ [w] := by
  obtain rfl | ⟨a, m, rfl⟩ := List.eq_nil_or_concat' a
  · rw [List.nil_append, words_of_none hne hw]
    rfl
  · have hm : isBlank m = true := ha m List.getLast?_concat
    rw [List.append_assoc, List.singleton_append, words_append_cons hm, words_append_cons hm,
      words_of_none hne hw, words, List.append_nil]

lemma forall_mem_words (cs : List Char) : ∀ w ∈ words cs, w ≠ [] ∧ ∀ c ∈ w, isBlank c = false := by
  induction cs with
  | nil => exact List.forall_mem_nil _
  | cons c cs ih =>
    rw [words]
    split
    · exact ih
    · rename_i hc
      rw [Bool.not_eq_true] at hc
      have hsingle : [c] ≠ [] ∧ ∀ d ∈ [c], isBlank d = false :=
        ⟨List.cons_ne_nil _ _, List.forall_mem_singleton.mpr hc⟩
      split
      · exact List.forall_mem_cons.mpr ⟨hsingle, ih⟩
      · split
        · rename_i w ws hwords
          rw [hwords] at ih
          obtain ⟨hw, hws⟩ := List.forall_mem_cons.mp ih
          exact List.forall_mem_cons.mpr
            ⟨⟨List.cons_ne_nil _ _, List.forall_mem_cons.mpr ⟨hc, hw.2⟩⟩, hws⟩
        · exact List.forall_mem_singleton.mpr hsingle

lemma squeeze_of_words_eq_nil {cs : List Char} (h : words cs = []) : squeeze cs = [] := by
  rw [squeeze, h]
  rfl

lemma squeeze_of_words_ne_nil {cs : List Char} (h : words cs ≠ []) :
    squeeze cs ≠ [] ∧ NoBlankEnds (squeeze cs) := by
  refine noBlankEnds_joinPieces_of_ne_nil h fun w hw => ?_
  obtain ⟨hne, hblank⟩ := forall_mem_words cs w hw
  exact ⟨hne, fun c hc => hblank c (List.mem_of_mem_head? hc),
    fun c hc => hblank c (List.mem_of_getLast? hc)⟩

/-- Squeezing takes only texts of blanks away. -/
lemma squeeze_eq_nil_iff {cs : List Char} : squeeze cs = [] ↔ ∀ c ∈ cs, isBlank c = true := by
  rw [← words_eq_nil_iff]
  constructor
  · intro h
    by_contra hwords
    exact (squeeze_of_words_ne_nil hwords).1 h
  · exact squeeze_of_words_eq_nil

lemma trim_squeeze (cs : List Char) : trim (squeeze cs) = squeeze cs := by
  by_cases h : words cs = []
  · rw [squeeze_of_words_eq_nil h]
    rfl
  · exact trim_of_noBlankEnds (squeeze_of_words_ne_nil h).2

/-- What a squeezed text has in front of one more word. -/
def beforeWord (cs : List Char) : List Char :=
  if words cs = [] then [] else squeeze cs ++ [' ']

lemma squeeze_append_word {a w : List Char} (ha : ∀ c ∈ a.getLast?, isBlank c = true) (hne : w ≠ [])
    (hw : ∀ c ∈ w, isBlank c = false) : squeeze (a ++ w) = beforeWord a ++ w := by
  rw [squeeze, words_append_word ha hne hw, beforeWord]
  by_cases hwords : words a = []
  · simp [hwords, List.intercalate]
  · rw [if_neg hwords, List.append_assoc]
    exact joinPieces_concat ' ' hwords w

lemma eq_of_mem_getLast?_beforeWord {cs : List Char} :
    ∀ c ∈ (beforeWord cs).getLast?, c = ' ' := by
  intro c hc
  rw [beforeWord] at hc
  split at hc
  · simp at hc
  · simpa [eq_comm] using hc

lemma trim_beforeWord (cs : List Char) : trim (beforeWord cs) = squeeze cs := by
  by_cases h : words cs = []
  · rw [beforeWord, if_pos h, squeeze_of_words_eq_nil h]
    rfl
  · obtain ⟨hne, hends⟩ := squeeze_of_words_ne_nil h
    have hhead : ∀ c ∈ (squeeze cs ++ [' ']).head?, isBlank c = false := by
      rw [List.head?_append_of_ne_nil _ hne]
      exact hends.head
    have hspace : ∀ c ∈ [' '], isBlank c = true := List.forall_mem_singleton.mpr (by decide)
    rw [beforeWord, if_neg h, trim, dropWhile_of_head hhead,
      dropTailWhile_append_of_last hspace hends.last]

/-- More characters for the last word. -/
lemma squeeze_append_of_last {d e : List Char} {c : Char} (hc : c ∈ d.getLast?)
    (hblank : isBlank c = false) (he : ∀ c ∈ e, isBlank c = false) :
    squeeze (d ++ e) = squeeze d ++ e ∧ (squeeze d).getLast? = d.getLast? := by
  let a := d.rdropWhile fun c => !isBlank c
  let v := d.rtakeWhile fun c => !isBlank c
  have hd : a ++ v = d := List.rdropWhile_append_rtakeWhile
  have ha : ∀ c ∈ a.getLast?, isBlank c = true := fun c hc => by
    simpa using getLast?_dropTailWhile hc
  have hv : ∀ c ∈ v, isBlank c = false := fun c hc => by simpa using List.mem_rtakeWhile_imp hc
  have hne : v ≠ [] := by
    intro hnil
    rw [hnil, List.append_nil] at hd
    rw [hd] at ha
    exact Bool.false_ne_true (hblank.symm.trans (ha c hc))
  rw [← hd, List.append_assoc, squeeze_append_word ha hne hv,
    squeeze_append_word ha (by simp [hne]) (List.forall_mem_append.mpr ⟨hv, he⟩),
    List.getLast?_append_of_ne_nil _ hne, List.getLast?_append_of_ne_nil _ hne, List.append_assoc]
  exact ⟨rfl, rfl⟩

end SqlAdvice.Text

namespace SqlAdvice.Sql

open SqlAdvice.Text

/-- Cleaning leaves the words of a text, as a tidy text has them. -/
lemma clean_of_words {x cs : List Char} (hcs : Tidy cs) (hwords : words x = words cs)
    (hlast : cs.getLast? ≠ some ';') : clean x = cs := by
  have hsqueeze : squeeze x = cs := by
    rw [squeeze, hwords]
    exact hcs.squeeze_eq
  have hterminator : dropTailWhile (· == ';') cs = cs := by
    refine dropTailWhile_of_last fun c hc => beq_eq_false_iff_ne.mpr ?_
    rintro rfl
    exact hlast hc
  rw [clean, hsqueeze, hterminator, trim_of_noBlankEnds hcs.noBlankEnds]

/-- Terminators at the end of a text go when it is cleaned, and so does a blank in front of them. -/
lemma clean_append_terminators {d e : List Char} (he : ∀ c ∈ e, (c == ';') = true)
    (hd : ∀ c ∈ d.getLast?, (c == ';') = false)
    (hends : ∀ c ∈ (d ++ e).getLast?, isBlank c = false) : clean (d ++ e) = squeeze d := by
  have hword : ∀ c ∈ e, isBlank c = false := by
    intro c hc
    rw [eq_of_beq (he c hc)]
    decide
  by_cases hlast : ∀ c ∈ d.getLast?, isBlank c = true
  · -- The terminators are a word of their own.
    by_cases hne : e = []
    · subst hne
      rw [List.append_nil] at hends ⊢
      have hnil : d.getLast? = none := by
        by_contra hsome
        obtain ⟨c, hc⟩ := Option.ne_none_iff_exists'.mp hsome
        exact Bool.false_ne_true ((hends c hc).symm.trans (hlast c hc))
      rw [List.getLast?_eq_none_iff.mp hnil]
      rfl
    · have hspace : ∀ c ∈ (beforeWord d).getLast?, (c == ';') = false := by
        intro c hc
        rw [eq_of_mem_getLast?_beforeWord c hc]
        decide
      rw [clean, squeeze_append_word hlast hne hword, dropTailWhile_append_of_last he hspace,
        trim_beforeWord]
  · obtain ⟨c, hc, hblank⟩ : ∃ c ∈ d.getLast?, isBlank c = false := by simpa using hlast
    obtain ⟨hsqueeze, hsame⟩ := squeeze_append_of_last hc hblank hword
    rw [clean, hsqueeze, dropTailWhile_append_of_last he (hsame ▸ hd), trim_squeeze]

/-- Cleaning takes the blanks off the end, then the terminators, and squeezes what is left. -/
lemma clean_eq (cs : List Char) :
    clean cs = squeeze (dropTailWhile (· == ';') (dropTailWhile isBlank cs)) := by
  let b := dropTailWhile isBlank cs
  let d := dropTailWhile (· == ';') b
  have hcs : b ++ cs.rtakeWhile isBlank = cs := List.rdropWhile_append_rtakeWhile
  have hb : d ++ b.rtakeWhile (· == ';') = b := List.rdropWhile_append_rtakeWhile
  have hwords : words cs = words b := by
    rw [← hcs]
    exact words_append_of_blank (fun c hc => List.mem_rtakeWhile_imp hc) b
  have hclean : clean cs = clean b := by rw [clean, clean, squeeze, squeeze, hwords]
  rw [hclean, ← hb]
  refine clean_append_terminators (fun c hc => List.mem_rtakeWhile_imp (p := (· == ';')) hc)
    (fun c hc => getLast?_dropTailWhile (p := (· == ';')) hc) fun c hc => ?_
  rw [hb] at hc
  exact getLast?_dropTailWhile hc

end SqlAdvice.Sql
