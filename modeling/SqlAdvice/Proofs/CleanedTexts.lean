import SqlAdvice.Proofs.Cutting

/-!
# Cleaned texts

What is left of a text when it is cleaned is a front of it, squeezed: the blanks at its end are
taken off, and then the terminators (`exists_clean_eq_squeeze`).  So it is empty or `Tidy`, with
single spaces between its words (`tidy_clean`).

Terminators are taken off once.  Where blanks stand between two runs of terminators at the end of a
text, only the second run goes, and the cleaned text ends with a terminator again; this is the one
way for it to do so (`separatesTerminators_of_clean`), and the one way for it to be changed when it
is cleaned again (`clean_eq_self_iff`).
-/

namespace SqlAdvice.Text

/-! ## Tidy texts -/

/-- Words with a space between neighbours are a tidy text. -/
lemma tidy_joinPieces {ws : List (List Char)} (hne : ws ≠ [])
    (h : ∀ w ∈ ws, w ≠ [] ∧ ∀ c ∈ w, isBlank c = false) : Tidy (joinPieces ' ' ws) := by
  induction ws with
  | nil => exact absurd rfl hne
  | cons w ws ih =>
    obtain ⟨⟨hw, hblank⟩, hrest⟩ := List.forall_mem_cons.mp h
    cases ws with
    | nil =>
      have hsingle : joinPieces ' ' [w] = w := joinPieces_singleton ' ' w
      rw [hsingle]
      exact .word hw hblank
    | cons v ws =>
      rw [joinPieces_cons_cons]
      exact .more hw hblank (ih (List.cons_ne_nil v ws) hrest)

/-- A squeezed text is tidy, unless nothing is left of it. -/
lemma tidy_squeeze {cs : List Char} (h : squeeze cs ≠ []) : Tidy (squeeze cs) :=
  tidy_joinPieces (fun hwords => h (squeeze_of_words_eq_nil hwords)) (forall_mem_words cs)

namespace Tidy

variable {cs : List Char}

/-- The only blanks are spaces. -/
lemma eq_space (h : Tidy cs) : ∀ c ∈ cs, isBlank c = true → c = ' ' := by
  have hword : ∀ {w : List Char}, (∀ c ∈ w, isBlank c = false) →
      ∀ c ∈ w, isBlank c = true → c = ' ' := fun hw c hc hblank =>
    absurd (hw c hc) (by simp [hblank])
  induction h with
  | word _ hw => exact hword hw
  | more _ hw _ ih =>
    exact List.forall_mem_append.mpr ⟨hword hw, List.forall_mem_cons.mpr ⟨fun _ => rfl, ih⟩⟩

/-- No two spaces stand beside each other: a space has a word in front of it and behind it. -/
lemma not_infix_spaces (h : Tidy cs) : ¬[' ', ' '] <:+: cs := by
  induction h with
  | word _ hw =>
    intro hspaces
    exact absurd (hw ' ' (hspaces.subset List.mem_cons_self)) (by decide)
  | @more w cs _ hw h ih =>
    have hhead : ∀ {b : List Char}, cs ≠ ' ' :: b := by
      rintro b rfl
      exact absurd (h.noBlankEnds.head ' ' rfl) (by decide)
    rintro ⟨a, b, hab⟩
    rw [List.append_assoc, List.append_eq_append_iff] at hab
    obtain ⟨u, rfl, hu⟩ | ⟨u, rfl, hu⟩ := hab
    · cases u with
      | nil => exact hhead (List.cons.inj hu).2.symm
      | cons d u =>
        obtain rfl : ' ' = d := (List.cons.inj hu).1
        exact absurd (hw ' ' (by simp)) (by decide)
    · cases u with
      | nil => exact hhead (List.cons.inj hu).2
      | cons d u =>
        have hcs : cs = u ++ ([' ', ' '] ++ b) := (List.cons.inj hu).2
        exact ih ⟨u, b, by rw [hcs, List.append_assoc]⟩

end Tidy

/-! ## The end of a squeezed text -/

/-- What `dropTailWhile` drops. -/
lemma exists_tail (p : Char → Bool) (cs : List Char) :
    ∃ tail, dropTailWhile p cs ++ tail = cs ∧ ∀ c ∈ tail, p c = true :=
  ⟨cs.rtakeWhile p, List.rdropWhile_append_rtakeWhile, fun _ => List.mem_rtakeWhile_imp⟩

lemma squeeze_dropTailWhile (cs : List Char) : squeeze (dropTailWhile isBlank cs) = squeeze cs := by
  obtain ⟨tail, hcs, htail⟩ := exists_tail isBlank cs
  have hwords : words cs = words (dropTailWhile isBlank cs) := by
    nth_rewrite 1 [← hcs]
    exact words_append_of_blank htail _
  rw [squeeze, squeeze, hwords]

/-- A squeezed text ends with the last character of the text that is no blank. -/
lemma getLast?_squeeze (cs : List Char) :
    (squeeze cs).getLast? = (dropTailWhile isBlank cs).getLast? := by
  rw [← squeeze_dropTailWhile]
  cases hlast : (dropTailWhile isBlank cs).getLast? with
  | none =>
    rw [List.getLast?_eq_none_iff.mp hlast]
    rfl
  | some c =>
    have hsame := squeeze_append_of_last (e := []) hlast (getLast?_dropTailWhile hlast) (by simp)
    rw [hsame.2, hlast]

end SqlAdvice.Text

namespace SqlAdvice.Sql

open SqlAdvice.Text

variable {cs : List Char}

/-! ## What cleaning leaves -/

/-- Cleaning squeezes a front of the text, behind which only blanks and terminators are left. -/
lemma exists_clean_eq_squeeze (cs : List Char) :
    ∃ d tail, cs = d ++ tail ∧ (∀ c ∈ tail, isBlank c = true ∨ c = ';') ∧ clean cs = squeeze d := by
  obtain ⟨blanks, hcs, hblanks⟩ := exists_tail isBlank cs
  obtain ⟨terminators, hb, hterminators⟩ := exists_tail (· == ';') (dropTailWhile isBlank cs)
  refine ⟨_, terminators ++ blanks, ?_, ?_, clean_eq cs⟩
  · rw [← List.append_assoc, hb, hcs]
  · exact List.forall_mem_append.mpr ⟨fun c hc => .inr (eq_of_beq (hterminators c hc)),
      fun c hc => .inl (hblanks c hc)⟩

lemma tidy_clean (h : clean cs ≠ []) : Tidy (clean cs) := by
  obtain ⟨d, tail, -, -, hclean⟩ := exists_clean_eq_squeeze cs
  rw [hclean] at h ⊢
  exact tidy_squeeze h

/-- Cleaning only minds which words there are. -/
lemma clean_congr {a b : List Char} (h : words a = words b) : clean a = clean b := by
  rw [clean, clean, squeeze, squeeze, h]

lemma exists_of_mem_cleanAll {fragments : List (List Char)} {x : List Char}
    (h : x ∈ cleanAll fragments) : ∃ fragment ∈ fragments, clean fragment = x ∧ x ≠ [] := by
  obtain ⟨hmem, hne⟩ := List.mem_filter.mp h
  obtain ⟨fragment, hfragment, hclean⟩ := List.mem_map.mp hmem
  exact ⟨fragment, hfragment, hclean, by simpa using hne⟩

lemma tidy_of_mem_cleanAll {fragments : List (List Char)} {x : List Char}
    (h : x ∈ cleanAll fragments) : Tidy x := by
  obtain ⟨fragment, -, rfl, hne⟩ := exists_of_mem_cleanAll h
  exact tidy_clean hne

/-- Cleaning leaves a tidy text alone, unless it ends with a terminator. -/
lemma clean_eq_self_iff (h : Tidy cs) : clean cs = cs ↔ cs.getLast? ≠ some ';' := by
  constructor
  · intro hclean hlast
    have hdrop := dropTailWhile_prefix (· == ';') cs
    have htrim := dropTailWhile_prefix isBlank ((dropTailWhile (· == ';') cs).dropWhile isBlank)
    have hsublist : (clean cs).Sublist (dropTailWhile (· == ';') cs) := by
      rw [clean, h.squeeze_eq, trim]
      exact htrim.sublist.trans (List.dropWhile_sublist _)
    rw [hclean] at hsublist
    have hsame : dropTailWhile (· == ';') cs = cs := hdrop.sublist.antisymm hsublist
    rw [← hsame] at hlast
    exact absurd (getLast?_dropTailWhile (p := (· == ';')) hlast) (by simp)
  · exact clean_of_words h rfl

/-! ## Terminators with blanks between them -/

/-- Somewhere in a text there are two terminators with some blanks, and nothing else, between
them. -/
def SeparatesTerminators (cs : List Char) : Prop :=
  ∃ a gap b, cs = a ++ ';' :: (gap ++ ';' :: b) ∧ gap ≠ [] ∧ ∀ c ∈ gap, isBlank c = true

lemma SeparatesTerminators.mono {x : List Char} (h : SeparatesTerminators x) (hx : x <:+: cs) :
    SeparatesTerminators cs := by
  obtain ⟨a, gap, b, rfl, hgap⟩ := h
  obtain ⟨front, back, rfl⟩ := hx
  exact ⟨front ++ a, gap, b ++ back, by simp, hgap⟩

/-- A terminator at the end of a cleaned text was set apart by blanks from those that were taken
off. -/
lemma separatesTerminators_of_clean (h : (clean cs).getLast? = some ';') :
    SeparatesTerminators cs := by
  rw [clean_eq, getLast?_squeeze] at h
  obtain ⟨blanks, hcs, -⟩ := exists_tail isBlank cs
  obtain ⟨terminators, hb, hterminators⟩ := exists_tail (· == ';') (dropTailWhile isBlank cs)
  obtain ⟨gap, hd, hgap⟩ := exists_tail isBlank (dropTailWhile (· == ';') (dropTailWhile isBlank cs))
  obtain ⟨a, ha⟩ := List.getLast?_eq_some_iff.mp h
  have hgapne : gap ≠ [] := by
    rintro rfl
    rw [List.append_nil] at hd
    rw [hd] at h
    exact absurd (getLast?_dropTailWhile (p := (· == ';')) h) (by simp)
  have hmore : terminators ≠ [] := by
    rintro rfl
    rw [List.append_nil] at hb
    have hlast : gap.getLast? = (dropTailWhile isBlank cs).getLast? := by
      rw [← hb, ← hd, List.getLast?_append_of_ne_nil _ hgapne]
    obtain ⟨c, hc⟩ := Option.ne_none_iff_exists'.mp (mt List.getLast?_eq_none_iff.mp hgapne)
    have hkept : isBlank c = false := getLast?_dropTailWhile (hlast ▸ hc)
    exact Bool.false_ne_true (hkept.symm.trans (hgap c (List.mem_of_getLast? hc)))
  obtain ⟨c, more, rfl⟩ := List.exists_cons_of_ne_nil hmore
  obtain rfl : c = ';' := eq_of_beq (hterminators c List.mem_cons_self)
  refine ⟨a, gap, more ++ blanks, ?_, hgapne, hgap⟩
  rw [← hcs, ← hb, ← hd, ha]
  simp

end SqlAdvice.Sql
