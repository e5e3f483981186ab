import SqlAdvice.Proofs.VariantExtraction

/-!
# Where keywords stand

The recognisers take keywords off a text from some position on.  What they find is said here of the
text alone: a part of it *spells* keywords, in any letter case and with blanks between neighbours
(`Spells`), and it *stands* between two positions when it is no part of a longer word and does not
begin in a literal (`Stands`).  `stands_append_iff` says that this is what the recognisers find.

A join predicate is closed by one of a few phrases, or by `JOIN` with any modifiers in front of it
(`IsClosing`, `closesPredicate_iff`).

Where a text is cut off, a phrase that was only part of a word may be found at its end.  This cannot
happen where no word goes on across the cut (`PartsWords`); then what is found in the front of a text
is found in the text as well (`wordPhrase?_append_of_partsWords`).
-/

namespace SqlAdvice.Sql

open SqlAdvice.Text

variable {prev quote : Option Char} {ks : List Keyword} {a b cs rest text w x : List Char}

/-! ## Keywords that are spelled out -/

/-- A text reads as keywords, when case is ignored, with blanks between neighbours. -/
inductive Spells : List Keyword → List Char → Prop
  | one {k : Keyword} {w : List Char} (h : w.map foldCase = k.letters) : Spells [k] w
  | more {k : Keyword} {ks : List Keyword} {w gap cs : List Char} (h : w.map foldCase = k.letters)
      (hne : gap ≠ []) (hgap : ∀ c ∈ gap, isBlank c = true) (hrest : Spells ks cs) :
      Spells (k :: ks) (w ++ (gap ++ cs))

lemma isWord_of_map_foldCase {k : Keyword} (h : w.map foldCase = k.letters) :
    ∀ c ∈ w, isWord c = true :=
  fun _ hc => isWord_of_foldCase (isUpper_of_mem_letters (h ▸ List.mem_map_of_mem hc))

lemma ne_nil_of_map_foldCase {k : Keyword} (h : w.map foldCase = k.letters) : w ≠ [] := by
  rintro rfl
  exact letters_ne_nil k h.symm

namespace Spells

lemma ne_nil (h : Spells ks w) : w ≠ [] := by
  cases h with
  | one h => exact ne_nil_of_map_foldCase h
  | more h _ _ _ => simp [ne_nil_of_map_foldCase h]

lemma isWord_head (h : Spells ks w) : ∀ c ∈ w.head?, isWord c = true := by
  intro c hc
  cases h with
  | one h => exact isWord_of_map_foldCase h c (List.mem_of_mem_head? hc)
  | more h _ _ _ =>
    rw [List.head?_append_of_ne_nil _ (ne_nil_of_map_foldCase h)] at hc
    exact isWord_of_map_foldCase h c (List.mem_of_mem_head? hc)

lemma isWord_last (h : Spells ks w) : ∀ c ∈ w.getLast?, isWord c = true := by
  induction h with
  | one h => exact fun c hc => isWord_of_map_foldCase h c (List.mem_of_getLast? hc)
  | @more _ _ _ gap cs _ _ _ hrest ih =>
    intro c hc
    rw [← List.append_assoc, List.getLast?_append_of_ne_nil _ hrest.ne_nil] at hc
    exact ih c hc

/-- What follows a text that spells keywords does so behind a word character. -/
lemma opensWord_lastChar (h : Spells ks w) (prev : Option Char) :
    opensWord (lastChar prev w) = false := by
  rw [lastChar_eq_getLast?, List.getLast?_eq_some_getLast h.ne_nil, Option.some_or]
  simp [opensWord, h.isWord_last _ (List.getLast?_eq_some_getLast h.ne_nil)]

end Spells

lemma spells_singleton {k : Keyword} : Spells [k] w ↔ w.map foldCase = k.letters := by
  constructor
  · intro h
    cases h with
    | one h => exact h
    | more _ _ _ hrest => cases hrest
  · exact .one

lemma exists_of_spells_cons {k : Keyword} (hks : ks ≠ []) (h : Spells (k :: ks) w) :
    ∃ v gap more, w = v ++ (gap ++ more) ∧ v.map foldCase = k.letters ∧ gap ≠ [] ∧
      (∀ c ∈ gap, isBlank c = true) ∧ Spells ks more := by
  cases h with
  | one _ => exact absurd rfl hks
  | more h hne hgap hrest => exact ⟨_, _, _, rfl, h, hne, hgap, hrest⟩

lemma exists_of_skipSomeBlanks? (h : skipSomeBlanks? cs = some rest) :
    ∃ gap, cs = gap ++ rest ∧ gap ≠ [] ∧ ∀ c ∈ gap, isBlank c = true := by
  cases cs with
  | nil => cases h
  | cons c cs =>
    rw [skipSomeBlanks?] at h
    split at h
    · rename_i hc
      obtain rfl := Option.some.inj h
      refine ⟨c :: cs.takeWhile isBlank, ?_, List.cons_ne_nil _ _, ?_⟩
      · rw [List.cons_append, skipBlanks, List.takeWhile_append_dropWhile]
      · exact List.forall_mem_cons.mpr ⟨hc, fun _ => List.mem_takeWhile_imp⟩
    · cases h

/-- Blanks in front of a text that spells keywords are skipped, and nothing of the text is. -/
lemma skipSomeBlanks?_gap {gap : List Char} (hne : gap ≠ []) (hgap : ∀ c ∈ gap, isBlank c = true)
    (h : Spells ks w) (rest : List Char) :
    skipSomeBlanks? (gap ++ (w ++ rest)) = some (w ++ rest) := by
  have hhead : ∀ c ∈ (w ++ rest).head?, isBlank c = false := by
    rw [List.head?_append_of_ne_nil _ h.ne_nil]
    exact fun c hc => isBlank_of_isWord (h.isWord_head c hc)
  rw [skipSomeBlanks?_of_blank hgap hne, skipBlanks, dropWhile_of_head hhead]

lemma read?_append {k : Keyword} (h : w.map foldCase = k.letters) (rest : List Char) :
    k.read? (w ++ rest) = some rest :=
  letters?_eq_some_iff.mpr ⟨w, rfl, h⟩

/-- **Phrases** take what spells their keywords off the front of a text. -/
lemma phrase?_eq_some_iff (hks : ks ≠ []) :
    phrase? ks cs = some rest ↔ ∃ w, cs = w ++ rest ∧ Spells ks w := by
  constructor
  · intro h
    induction ks generalizing cs with
    | nil => exact absurd rfl hks
    | cons k ks ih =>
      cases ks with
      | nil =>
        obtain ⟨w, rfl, hw⟩ := letters?_eq_some_iff.mp h
        exact ⟨w, rfl, .one hw⟩
      | cons k' ks =>
        rw [phrase?_cons_cons] at h
        obtain ⟨mid, hread, hmore⟩ := Option.bind_eq_some_iff.mp h
        obtain ⟨after, hblanks, hphrase⟩ := Option.bind_eq_some_iff.mp hmore
        obtain ⟨w, rfl, hw⟩ := letters?_eq_some_iff.mp hread
        obtain ⟨gap, rfl, hne, hgap⟩ := exists_of_skipSomeBlanks? hblanks
        obtain ⟨more, rfl, hspells⟩ := ih (List.cons_ne_nil k' ks) hphrase
        exact ⟨w ++ (gap ++ more), by simp, .more hw hne hgap hspells⟩
  · rintro ⟨w, rfl, h⟩
    induction h with
    | one h => exact read?_append h rest
    | @more k ks w gap cs h hne hgap hrest ih =>
      obtain ⟨k', ks, rfl⟩ : ∃ k' more, ks = k' :: more := by
        cases hrest <;> exact ⟨_, _, rfl⟩
      rw [phrase?_cons_cons, List.append_assoc, read?_append h, Option.bind_some, List.append_assoc,
        skipSomeBlanks?_gap hne hgap hrest, Option.bind_some, ih (List.cons_ne_nil k' ks)]

/-- **Phrases that stand alone**, with the characters on both sides of them. -/
lemma wordPhrase?_eq_some_iff (hks : ks ≠ []) :
    wordPhrase? ks prev cs = some rest ↔
      opensWord prev = true ∧ (∃ w, cs = w ++ rest ∧ Spells ks w) ∧ closesWord rest = true := by
  rw [wordPhrase?, ← phrase?_eq_some_iff hks]
  by_cases hprev : opensWord prev = true <;> simp [hprev, Option.filter_eq_some_iff]

lemma spells_of_wordPhrase? (hks : ks ≠ []) (h : wordPhrase? ks prev (w ++ rest) = some rest) :
    Spells ks w := by
  obtain ⟨-, ⟨v, hv, hspells⟩, -⟩ := (wordPhrase?_eq_some_iff hks).mp h
  rwa [List.append_cancel_right hv]

/-- Characters that are no quotes do not begin a literal, and do not end one. -/
lemma openAfter_of_unquoted (hquote : IsOpen quote)
    (h : ∀ c ∈ x, Literal.isQuote c = false) : Literal.openAfter quote x = quote := by
  induction x with
  | nil => rfl
  | cons c x ih =>
    obtain ⟨hc, hx⟩ := List.forall_mem_cons.mp h
    have hnext : Literal.next quote c = quote := by
      cases quote with
      | none => rw [Literal.next, hc, if_neg Bool.false_ne_true]
      | some q => rw [Literal.next, if_neg (by simpa using (ne_of_apply (hquote q rfl) hc).symm)]
    rw [Literal.openAfter, List.foldl_cons, hnext]
    exact ih hx

lemma openAfter_of_isWord (hquote : IsOpen quote) (hw : ∀ c ∈ w, isWord c = true) :
    Literal.openAfter quote w = quote :=
  openAfter_of_unquoted hquote fun c hc => isQuote_of_isWord (hw c hc)

/-! ## Phrases that close a predicate -/

/-- One of the phrases that close a join predicate, or `JOIN` with its modifiers. -/
inductive IsClosing : List Keyword → Prop
  | clause {ks : List Keyword} (h : ks ∈ clausePhrases) : IsClosing ks
  | join {modifiers : List Keyword} (h : ∀ k ∈ modifiers, k ∈ joinModifiers) :
      IsClosing (modifiers ++ [.JOIN])

lemma IsClosing.ne_nil (h : IsClosing ks) : ks ≠ [] := by
  cases h with
  | clause h =>
    rintro rfl
    exact absurd h (by decide)
  | join _ => simp

/-- Where one of the words that open a join can be read, no other one can. -/
lemma read?_eq_none {k k' : Keyword} (hk : k ∈ joinWords) (hk' : k' ∈ joinWords)
    (hread : k'.read? cs = some rest) (hne : k ≠ k') : k.read? cs = none := by
  by_contra hsome
  obtain ⟨rest', hread'⟩ := Option.ne_none_iff_exists'.mp hsome
  exact hne (eq_of_read? hk hk' hread' hread)

/-- What opens a join takes off the text all modifiers that are in front of `JOIN`. -/
lemma joinPhrase?_eq_some_iff :
    joinPhrase? cs = some rest ↔ ∃ modifiers w, (∀ k ∈ modifiers, k ∈ joinModifiers) ∧
      cs = w ++ rest ∧ Spells (modifiers ++ [.JOIN]) w := by
  constructor
  · intro h
    induction cs using joinPhrase?.induct with
    | case1 cs after hmodifier ih =>
      rw [joinPhrase?_of_modifier hmodifier] at h
      obtain ⟨modifiers, more, hmodifiers, rfl, hmore⟩ := ih h
      obtain ⟨k, hk, hfound⟩ := List.exists_of_findSome?_eq_some hmodifier
      obtain ⟨mid, hread, hblanks⟩ := Option.bind_eq_some_iff.mp hfound
      obtain ⟨w, rfl, hw⟩ := letters?_eq_some_iff.mp hread
      obtain ⟨gap, rfl, hne, hgap⟩ := exists_of_skipSomeBlanks? hblanks
      exact ⟨k :: modifiers, w ++ (gap ++ more), List.forall_mem_cons.mpr ⟨hk, hmodifiers⟩,
        by simp, .more hw hne hgap hmore⟩
    | case2 cs hmodifier =>
      rw [joinPhrase?_of_no_modifier hmodifier] at h
      obtain ⟨w, rfl, hw⟩ := letters?_eq_some_iff.mp h
      exact ⟨[], w, List.forall_mem_nil _, rfl, .one hw⟩
  · rintro ⟨modifiers, w, hmodifiers, rfl, hspells⟩
    induction modifiers generalizing w with
    | nil =>
      have hread := read?_append (spells_singleton.mp hspells) rest
      have hnone : joinModifier? (w ++ rest) = none := by
        refine List.findSome?_eq_none_iff.mpr fun k hk => ?_
        rw [read?_eq_none (List.mem_cons_of_mem _ hk) List.mem_cons_self hread ?_, Option.bind_none]
        rintro rfl
        exact absurd hk (by decide)
      rw [joinPhrase?_of_no_modifier hnone, hread]
    | cons k modifiers ih =>
      obtain ⟨hk, hmodifiers⟩ := List.forall_mem_cons.mp hmodifiers
      obtain ⟨v, gap, more, rfl, hv, hne, hgap, hmore⟩ := exists_of_spells_cons (by simp) hspells
      have hread := read?_append hv (gap ++ (more ++ rest))
      have hfound : joinModifier? (v ++ (gap ++ (more ++ rest))) = some (more ++ rest) := by
        have hothers : ∀ k' ∈ joinModifiers, k' ≠ k →
            (k'.read? (v ++ (gap ++ (more ++ rest)))).bind skipSomeBlanks? = none := by
          intro k' hk' hdiffer
          rw [read?_eq_none (List.mem_cons_of_mem _ hk') (List.mem_cons_of_mem _ hk) hread hdiffer,
            Option.bind_none]
        rw [joinModifier?, findSome?_eq_of_unique hk hothers, hread, Option.bind_some,
          skipSomeBlanks?_gap hne hgap hmore]
      rw [List.append_assoc, List.append_assoc, joinPhrase?_of_modifier hfound,
        ih more hmodifiers hmore]

/-- **What closes a join predicate**: a closing phrase that stands alone. -/
lemma closesPredicate_iff :
    closesPredicate prev cs = true ↔
      ∃ ks rest, IsClosing ks ∧ wordPhrase? ks prev cs = some rest := by
  rw [closesPredicate, Bool.or_eq_true, Bool.and_eq_true, standsAt, List.any_eq_true]
  constructor
  · rintro (⟨ks, hks, hstands⟩ | ⟨hprev, hjoin⟩)
    · obtain ⟨rest, hrest⟩ := Option.isSome_iff_exists.mp hstands
      exact ⟨ks, rest, .clause hks, hrest⟩
    · obtain ⟨rest, hrest⟩ := Option.isSome_iff_exists.mp hjoin
      obtain ⟨hphrase, hclose⟩ := Option.filter_eq_some_iff.mp hrest
      obtain ⟨modifiers, w, hmodifiers, hw, hspells⟩ := joinPhrase?_eq_some_iff.mp hphrase
      exact ⟨modifiers ++ [.JOIN], rest, .join hmodifiers,
        (wordPhrase?_eq_some_iff (by simp)).mpr ⟨hprev, ⟨w, hw, hspells⟩, hclose⟩⟩
  · rintro ⟨ks, rest, hclosing, hfound⟩
    cases hclosing with
    | clause h => exact .inl ⟨ks, h, by rw [hfound]; rfl⟩
    | @join modifiers hmodifiers =>
      obtain ⟨hprev, ⟨w, hw, hspells⟩, hclose⟩ := (wordPhrase?_eq_some_iff (by simp)).mp hfound
      have hphrase := joinPhrase?_eq_some_iff.mpr ⟨modifiers, w, hmodifiers, hw, hspells⟩
      exact .inr ⟨hprev, by rw [hphrase, Option.filter_some, if_pos hclose]; rfl⟩

/-! ## Where a text is cut off -/

/-- No word goes on from a text to what follows it. -/
def PartsWords (prev : Option Char) (x rest : List Char) : Prop :=
  closesWord rest = true ∨ opensWord (lastChar prev x) = true

/-- What is found in the front of a text is found in the text. -/
lemma wordPhrase?_append_of_partsWords (hks : ks ≠ []) (hparts : PartsWords prev x b)
    (h : wordPhrase? ks prev x = some rest) : wordPhrase? ks prev (x ++ b) = some (rest ++ b) := by
  obtain ⟨hprev, ⟨w, rfl, hspells⟩, hclose⟩ := (wordPhrase?_eq_some_iff hks).mp h
  refine (wordPhrase?_eq_some_iff hks).mpr
    ⟨hprev, ⟨w, List.append_assoc w rest b, hspells⟩, ?_⟩
  cases rest with
  | nil =>
    refine hparts.resolve_right fun hopens => ?_
    rw [List.append_nil, hspells.opensWord_lastChar] at hopens
    exact Bool.false_ne_true hopens
  | cons c rest => exact hclose

lemma closesPredicate_append_of_partsWords (hparts : PartsWords prev x b)
    (h : closesPredicate prev x = true) : closesPredicate prev (x ++ b) = true := by
  obtain ⟨ks, rest, hclosing, hfound⟩ := closesPredicate_iff.mp h
  exact closesPredicate_iff.mpr
    ⟨ks, rest ++ b, hclosing, wordPhrase?_append_of_partsWords hclosing.ne_nil hparts hfound⟩

/-! ## Positions in a text -/

/-- Keywords stand between two positions of a text: they do not begin in a literal, they are spelled
out between the positions, and no word character touches them on either side. -/
structure Stands (ks : List Keyword) (text : List Char) (i j : Nat) : Prop where
  unquoted : (Literal.flags none text)[i]? = some false
  le_length : j ≤ text.length
  opens : ∀ c ∈ (text.take i).getLast?, isWord c = false
  spells : Spells ks (text.extract i j)
  closes : ∀ c ∈ (text.drop j).head?, isWord c = false

lemma extract_length (start : Nat) (a b : List Char) :
    (a ++ b).extract start a.length = a.drop start := by
  rw [List.extract_eq_take_drop, ← List.drop_take, List.take_left]

/-- Whether a character belongs to a literal. -/
lemma getElem?_flags_append (a b : List Char) :
    (Literal.flags quote (a ++ b))[a.length]? =
      b.head?.map (Literal.covers (Literal.openAfter quote a)) := by
  rw [Literal.flags_append, List.getElem?_append_right (Literal.length_flags quote a).le,
    Literal.length_flags, Nat.sub_self]
  cases b <;> rfl

lemma opensWord_lastChar_iff :
    opensWord (lastChar none a) = true ↔ ∀ c ∈ a.getLast?, isWord c = false := by
  rw [lastChar_eq_getLast?, Option.or_none]
  cases a.getLast? <;> simp [opensWord]

lemma closesWord_iff : closesWord rest = true ↔ ∀ c ∈ rest.head?, isWord c = false := by
  cases rest <;> simp [closesWord]

/-- No word begins with what is cut off when a text is cleaned. -/
lemma closesWord_of_cleaned (h : ∀ c ∈ x, isBlank c = true ∨ c = ';') : closesWord x = true := by
  refine closesWord_iff.mpr fun c hc => ?_
  obtain hblank | rfl := h c (List.mem_of_mem_head? hc)
  · exact isWord_of_isBlank hblank
  · decide

/-- What it is for keywords to stand behind the front of a text. -/
lemma stands_append_add_iff {n : Nat} :
    Stands ks (a ++ b) a.length (a.length + n) ↔
      Literal.openAfter none a = none ∧ n ≤ b.length ∧ opensWord (lastChar none a) = true ∧
        Spells ks (b.take n) ∧ closesWord (b.drop n) = true := by
  have hextract : (a ++ b).extract a.length (a.length + n) = b.take n := by
    rw [List.extract_eq_take_drop, List.drop_left, Nat.add_sub_cancel_left]
  constructor
  · rintro ⟨hunquoted, hlength, hopens, hspells, hcloses⟩
    rw [getElem?_flags_append, Option.map_eq_some_iff] at hunquoted
    obtain ⟨c, -, hc⟩ := hunquoted
    rw [Literal.covers, Bool.or_eq_false_iff, Option.isSome_eq_false_iff,
      Option.isNone_iff_eq_none] at hc
    rw [List.length_append, Nat.add_le_add_iff_left] at hlength
    rw [List.take_left] at hopens
    rw [hextract] at hspells
    rw [List.drop_length_add_append] at hcloses
    exact ⟨hc.1, hlength, opensWord_lastChar_iff.mpr hopens, hspells, closesWord_iff.mpr hcloses⟩
  · rintro ⟨hquote, hlength, hopens, hspells, hcloses⟩
    have hplain : ∀ c ∈ (b.take n).head?, Literal.isQuote c = false :=
      fun c hc => isQuote_of_isWord (hspells.isWord_head c hc)
    obtain ⟨c, w, hw⟩ := List.exists_cons_of_ne_nil hspells.ne_nil
    have hb : b.head? = some c := by rw [← List.take_append_drop n b, hw]; rfl
    refine ⟨?_, by simpa using hlength, ?_, hextract ▸ hspells, ?_⟩
    · rw [getElem?_flags_append, hquote, hb]
      simp [Literal.covers, hplain c (by rw [hw]; rfl)]
    · rw [List.take_left]
      exact opensWord_lastChar_iff.mp hopens
    · rw [List.drop_length_add_append]
      exact closesWord_iff.mp hcloses

/-- **Where keywords stand** is where the recognisers find them outside literals. -/
lemma stands_append_iff (hks : ks ≠ []) {j : Nat} :
    Stands ks (a ++ b) a.length j ↔ Literal.openAfter none a = none ∧
      ∃ w rest, b = w ++ rest ∧ j = (a ++ w).length ∧
        wordPhrase? ks (lastChar none a) b = some rest := by
  constructor
  · intro h
    have hle : a.length ≤ j := by
      by_contra hlt
      have hnil : (a ++ b).extract a.length j = [] := by
        rw [List.extract_eq_take_drop, Nat.sub_eq_zero_of_le (by omega), List.take_zero]
      exact h.spells.ne_nil hnil
    obtain ⟨n, rfl⟩ := Nat.exists_eq_add_of_le hle
    obtain ⟨hquote, hlength, hopens, hspells, hcloses⟩ := stands_append_add_iff.mp h
    have hsplit : b = b.take n ++ b.drop n := (List.take_append_drop n b).symm
    refine ⟨hquote, b.take n, b.drop n, hsplit, ?_, ?_⟩
    · rw [List.length_append, List.length_take, Nat.min_eq_left hlength]
    · exact (wordPhrase?_eq_some_iff hks).mpr ⟨hopens, ⟨b.take n, hsplit, hspells⟩, hcloses⟩
  · rintro ⟨hquote, w, rest, rfl, rfl, hfound⟩
    obtain ⟨hopens, -, hcloses⟩ := (wordPhrase?_eq_some_iff hks).mp hfound
    rw [List.length_append, stands_append_add_iff, List.take_left, List.drop_left]
    exact ⟨hquote, by simp, hopens, spells_of_wordPhrase? hks hfound, hcloses⟩

/-- Where a recogniser has found keywords they stand, and nowhere else from there on. -/
lemma stands_iff_of_wordPhrase? (hks : ks ≠ []) {j : Nat} (hquote : Literal.openAfter none a = none)
    (hfound : wordPhrase? ks (lastChar none a) (w ++ rest) = some rest) :
    Stands ks (a ++ (w ++ rest)) a.length j ↔ j = (a ++ w).length := by
  rw [stands_append_iff hks, hfound]
  constructor
  · rintro ⟨-, v, rest', hv, hj, hsame⟩
    obtain rfl := Option.some.inj hsame
    rw [hj, List.append_cancel_right hv]
  · exact fun hj => ⟨hquote, w, rest, rfl, hj, rfl⟩

lemma Stands.lt_length {i j : Nat} (h : Stands ks text i j) : i < text.length := by
  have hlt := (List.getElem?_eq_some_iff.mp h.unquoted).1
  rwa [Literal.length_flags] at hlt

lemma Stands.exists_append {i j : Nat} (hks : ks ≠ []) (h : Stands ks text i j) :
    ∃ a w rest, text = a ++ (w ++ rest) ∧ a.length = i ∧ (a ++ w).length = j ∧ Spells ks w := by
  obtain ⟨a, b, rfl, rfl⟩ : ∃ a b, text = a ++ b ∧ a.length = i :=
    ⟨text.take i, text.drop i, (List.take_append_drop i text).symm,
      List.length_take_of_le h.lt_length.le⟩
  obtain ⟨-, w, rest, rfl, rfl, hfound⟩ := (stands_append_iff hks).mp h
  exact ⟨a, w, rest, rfl, rfl, rfl, spells_of_wordPhrase? hks hfound⟩

/-- Keywords do not stand behind the first character of a word, nor right behind the word. -/
lemma Stands.le_or_lt {i j : Nat} (h : Stands ks (a ++ (w ++ rest)) i j)
    (hw : ∀ c ∈ w, isWord c = true) : i ≤ a.length ∨ (a ++ w).length < i := by
  by_contra hinside
  rw [List.length_append, not_or, not_le, not_lt] at hinside
  obtain ⟨n, rfl⟩ := Nat.exists_eq_add_of_le hinside.1.le
  have hne : w.take n ≠ [] := by
    refine List.ne_nil_of_length_pos ?_
    rw [List.length_take]
    omega
  have hopens := h.opens
  rw [List.take_length_add_append, List.take_append_of_le_length (by omega),
    List.getLast?_append_of_ne_nil _ hne] at hopens
  have hword := hw _ (List.mem_of_mem_take (List.getLast_mem hne))
  rw [hopens _ (List.getLast?_eq_some_getLast hne)] at hword
  exact Bool.false_ne_true hword

end SqlAdvice.Sql
