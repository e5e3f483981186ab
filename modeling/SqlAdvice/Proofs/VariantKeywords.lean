import SqlAdvice.Proofs.Scanning
import SqlAdvice.Proofs.Variants

/-!
# Keywords in texts that are read alike

The recognisers of keywords find the same in two variants: both fail, or what they take off the
fronts may be exchanged and what follows are variants again (`Consumed`).  This holds of one keyword
and goes through every way in which recognisers are put together, so it holds of phrases
(`rel_wordPhrase?`), of the connectives and of the phrases that open a join
(`rel_joinPhrase?`), and the tests whether a clause begins agree (`closesPredicate_eq`).

Blanks are asked for between two keywords, and only at the end of a text may they be missing in one
of two variants.  Nothing is recognised there, so it does not matter which recogniser fails first
(`rel_skipSomeBlanks?_bind`).  Of the modifiers of a join this is only true since no two of them
can be read at one place (`joinPhrase?_eq`).
-/

namespace SqlAdvice.Sql

open SqlAdvice.Text

section Rel

variable {α β : Type} {R S : α → α → Prop} {T : β → β → Prop} {x x' y y' : Option α}

/-- Two computations one after another either fail both at one of them, or give related results. -/
lemma rel_bind {f g : α → Option β} (h : Option.Rel R x y)
    (hfg : ∀ a b, R a b → Option.Rel T (f a) (g b)) : Option.Rel T (x.bind f) (y.bind g) := by
  cases h with
  | some hab => exact hfg _ _ hab
  | none => exact .none

lemma rel_cases (h : Option.Rel R x y) :
    (x = none ∧ y = none) ∨ ∃ a b, x = some a ∧ y = some b ∧ R a b := by
  cases h with
  | none => exact .inl ⟨rfl, rfl⟩
  | some hab => exact .inr ⟨_, _, rfl, rfl, hab⟩

lemma rel_imp (h : Option.Rel R x y) (hRS : ∀ a b, R a b → S a b) : Option.Rel S x y := by
  cases h with
  | some hab => exact .some (hRS _ _ hab)
  | none => exact .none

lemma rel_or (h : Option.Rel R x y) (h' : Option.Rel R x' y') :
    Option.Rel R (x.or x') (y.or y') := by
  cases h with
  | some hab => exact .some hab
  | none => exact h'

lemma rel_filter {p : α → Bool} (h : Option.Rel R x y) (hp : ∀ a b, R a b → p a = p b) :
    Option.Rel R (x.filter p) (y.filter p) := by
  cases h with
  | none => exact .none
  | @some a b hab =>
    rw [Option.filter_some, Option.filter_some, hp a b hab]
    split
    · exact .some hab
    · exact .none

lemma rel_findSome? {f g : β → Option α} {l : List β} (h : ∀ k ∈ l, Option.Rel R (f k) (g k)) :
    Option.Rel R (l.findSome? f) (l.findSome? g) := by
  induction l with
  | nil => exact .none
  | cons k l ih =>
    obtain ⟨hk, hl⟩ := List.forall_mem_cons.mp h
    simp only [List.findSome?_cons]
    obtain ⟨hf, hg⟩ | ⟨a, b, hf, hg, hab⟩ := rel_cases hk
    · rw [hf, hg]
      exact ih hl
    · rw [hf, hg]
      exact .some hab

lemma isSome_eq (h : Option.Rel R x y) : x.isSome = y.isSome := by
  cases h <;> rfl

end Rel

variable {v : Variation} {p q : Option Char} {a b x y : List Char}

/-- Both texts go on behind fronts that may be exchanged, and go on as variants. -/
def Consumed (v : Variation) (a b rest rest' : List Char) : Prop :=
  ∃ w u, a = w ++ rest ∧ b = u ++ rest' ∧ w ≠ [] ∧ u ≠ [] ∧ Fits v w u ∧ Variant v rest rest'

namespace Consumed

variable {mid mid' rest rest' : List Char}

lemma front (hx : x ≠ []) (hy : y ≠ []) (hfits : Fits v x y) (h : Variant v rest rest') :
    Consumed v (x ++ rest) (y ++ rest') rest rest' :=
  ⟨x, y, rfl, rfl, hx, hy, hfits, h⟩

lemma trans (h : Consumed v a b mid mid') (h' : Consumed v mid mid' rest rest') :
    Consumed v a b rest rest' := by
  obtain ⟨w, u, rfl, rfl, hw, hu, hfits, -⟩ := h
  obtain ⟨w', u', rfl, rfl, -, -, hfits', hrest⟩ := h'
  exact ⟨w ++ w', u ++ u', by simp, by simp, by simp [hw], by simp [hu], hfits.trans hfits', hrest⟩

lemma variant (h : Consumed v a b rest rest') : Variant v rest rest' := by
  obtain ⟨w, u, -, -, -, -, -, hrest⟩ := h
  exact hrest

lemma length_lt (h : Consumed v a b rest rest') : rest.length < a.length := by
  obtain ⟨w, u, rfl, -, hw, -, -, -⟩ := h
  have hpos := List.length_pos_iff.mpr hw
  rw [List.length_append]
  omega

end Consumed

/-! ## Where blanks are -/

/-- Nothing but a blank stands at the front, if anything does. -/
def BlankFront (cs : List Char) : Prop :=
  ∀ c ∈ cs.head?, isBlank c = true

lemma blankFront_of_blank (hx : ∀ c ∈ x, isBlank c = true) : BlankFront x :=
  fun c hc => hx c (List.mem_of_mem_head? hc)

lemma blankFront_append (hx : ∀ c ∈ x, isBlank c = true) (hne : x ≠ []) : BlankFront (x ++ a) := by
  intro c hc
  rw [List.head?_append_of_ne_nil _ hne] at hc
  exact hx c (List.mem_of_mem_head? hc)

/-- No letter is a blank. -/
lemma letters?_of_blankFront {k : Char} {ks : List Char} (hk : k.isUpper = true)
    (h : BlankFront a) : letters? (k :: ks) a = none := by
  cases a with
  | nil => rfl
  | cons c a =>
    have hc : foldCase c ≠ k := by
      rintro rfl
      exact Bool.false_ne_true ((isWord_of_isBlank (h c rfl)).symm.trans (isWord_of_foldCase hk))
    rw [letters?, if_neg (by simpa using hc)]

lemma read?_of_blankFront (k : Keyword) (h : BlankFront a) : k.read? a = none := by
  obtain ⟨c, cs, hletters⟩ := List.exists_cons_of_ne_nil (letters_ne_nil k)
  have hc : c.isUpper = true := isUpper_of_mem_letters (hletters ▸ List.mem_cons_self)
  rw [Keyword.read?, hletters]
  exact letters?_of_blankFront hc h

lemma skipSomeBlanks?_of_blank (hx : ∀ c ∈ x, isBlank c = true) (hne : x ≠ []) (a : List Char) :
    skipSomeBlanks? (x ++ a) = some (skipBlanks a) := by
  obtain ⟨c, x, rfl⟩ := List.exists_cons_of_ne_nil hne
  obtain ⟨hc, hx⟩ := List.forall_mem_cons.mp hx
  rw [List.cons_append, skipSomeBlanks?, if_pos hc, skipBlanks_of_blank hx]

lemma skipSomeBlanks?_of_not_blank {c : Char} (hc : isBlank c = false) (a : List Char) :
    skipSomeBlanks? (c :: a) = none := by
  rw [skipSomeBlanks?, hc, if_neg Bool.false_ne_true]

lemma skipBlanks_of_not_blank {c : Char} (hc : isBlank c = false) (a : List Char) :
    skipBlanks (c :: a) = c :: a :=
  dropWhile_of_head (forall_mem_head?_cons.mpr hc)

/-- Blanks that are asked for are in both variants or in neither, unless nothing follows them. -/
lemma rel_skipSomeBlanks?_bind {α : Type} {R : α → α → Prop} {f : List Char → Option α}
    (hnil : f [] = none) (h : Variant v a b)
    (hf : ∀ rest rest', Consumed v a b rest rest' → Option.Rel R (f rest) (f rest')) :
    Option.Rel R ((skipSomeBlanks? a).bind f) ((skipSomeBlanks? b).bind f) := by
  obtain ⟨x, y, a, b, rfl, rfl, hfits, hx, hy, hnone, hrest, hfront⟩ | ⟨ha, hb⟩ := h.blankFront
  · obtain ⟨c, d, a, b, rfl, rfl, hcd, hc, -⟩ := hfront
    have hd : isBlank d = false := v.isBlank_eq hcd ▸ hc
    by_cases hne : x = []
    · obtain rfl := hnone.mp hne
      subst hne
      rw [List.nil_append, List.nil_append, skipSomeBlanks?_of_not_blank hc,
        skipSomeBlanks?_of_not_blank hd]
      exact .none
    · have hne' : y ≠ [] := fun hy => hne (hnone.mpr hy)
      rw [skipSomeBlanks?_of_blank hx hne, skipSomeBlanks?_of_blank hy hne',
        skipBlanks_of_not_blank hc, skipBlanks_of_not_blank hd]
      exact hf _ _ (.front hne hne' hfits hrest)
  · have hall : ∀ {cs : List Char}, (∀ c ∈ cs, isBlank c = true) →
        (skipSomeBlanks? cs).bind f = none := by
      intro cs hcs
      cases cs with
      | nil => rfl
      | cons c cs =>
        have hskip := skipSomeBlanks?_of_blank hcs (List.cons_ne_nil c cs) []
        rw [List.append_nil] at hskip
        rw [hskip]
        exact hnil
    rw [hall ha, hall hb]
    exact .none

/-! ## Marks -/

/-- Takes a character off the front of a text. -/
def mark? (m : Char) : List Char → Option (List Char)
  | [] => none
  | c :: cs => if c = m then some cs else none

lemma mark?_of_blankFront {m : Char} (hblank : isBlank m = false) (h : BlankFront a) :
    mark? m a = none := by
  cases a with
  | nil => rfl
  | cons c a =>
    rw [mark?, if_neg (ne_of_apply (h c rfl) hblank)]

lemma rel_mark? {m : Char} (hword : isWord m = false) (hblank : isBlank m = false)
    (h : Variant v a b) : Option.Rel (Consumed v a b) (mark? m a) (mark? m b) := by
  obtain ⟨c, d, a, b, rfl, rfl, hc, hblankc, hrest⟩ | ⟨ha, hb⟩ := h.head_cases
  · simp only [mark?, v.eq_iff hword hc]
    split
    · exact .some (.front (List.cons_ne_nil c []) (List.cons_ne_nil d []) (.char hc hblankc) hrest)
    · exact .none
  · rw [mark?_of_blankFront hblank ha, mark?_of_blankFront hblank hb]
    exact .none

/-! ## Keywords and phrases -/

/-- Letters are read one by one. -/
lemma letters?_cons_cons (k k' : Char) (ks cs : List Char) :
    letters? (k :: k' :: ks) cs = (letters? [k] cs).bind (letters? (k' :: ks)) := by
  cases cs with
  | nil => rfl
  | cons c cs =>
    rw [letters?, letters?]
    split <;> rfl

/-- Characters that stand for each other read as the same letter. -/
lemma rel_letters? {ks : List Char} (hne : ks ≠ []) (hks : ∀ k ∈ ks, k.isUpper = true)
    (h : Variant v a b) : Option.Rel (Consumed v a b) (letters? ks a) (letters? ks b) := by
  have hone : ∀ {k : Char}, k.isUpper = true → ∀ {a b}, Variant v a b →
      Option.Rel (Consumed v a b) (letters? [k] a) (letters? [k] b) := by
    intro k hk a b h
    obtain ⟨c, d, a, b, rfl, rfl, hc, hblank, hrest⟩ | ⟨ha, hb⟩ := h.head_cases
    · simp only [letters?, ← v.fold hc]
      split
      · exact .some (.front (List.cons_ne_nil c []) (List.cons_ne_nil d []) (.char hc hblank) hrest)
      · exact .none
    · rw [letters?_of_blankFront hk ha, letters?_of_blankFront hk hb]
      exact .none
  induction ks generalizing a b with
  | nil => exact absurd rfl hne
  | cons k ks ih =>
    obtain ⟨hk, hks⟩ := List.forall_mem_cons.mp hks
    cases ks with
    | nil => exact hone hk h
    | cons k' ks =>
      rw [letters?_cons_cons, letters?_cons_cons]
      refine rel_bind (hone hk h) fun mid mid' hmid => ?_
      exact rel_imp (ih (List.cons_ne_nil k' ks) hks hmid.variant) fun _ _ => hmid.trans

lemma rel_read? (k : Keyword) (h : Variant v a b) :
    Option.Rel (Consumed v a b) (k.read? a) (k.read? b) :=
  rel_letters? (letters_ne_nil k) (fun _ => isUpper_of_mem_letters) h

lemma phrase?_cons_cons (k k' : Keyword) (ks : List Keyword) (cs : List Char) :
    phrase? (k :: k' :: ks) cs =
      (k.read? cs).bind fun mid => (skipSomeBlanks? mid).bind (phrase? (k' :: ks)) :=
  rfl

lemma phrase?_of_blankFront (k : Keyword) (ks : List Keyword) (h : BlankFront a) :
    phrase? (k :: ks) a = none := by
  cases ks with
  | nil => exact read?_of_blankFront k h
  | cons k' ks => rw [phrase?_cons_cons, read?_of_blankFront k h, Option.bind_none]

lemma blankFront_nil : BlankFront [] :=
  fun _ hc => nomatch hc

lemma rel_phrase? (k : Keyword) (ks : List Keyword) (h : Variant v a b) :
    Option.Rel (Consumed v a b) (phrase? (k :: ks) a) (phrase? (k :: ks) b) := by
  induction ks generalizing k a b with
  | nil => exact rel_read? k h
  | cons k' ks ih =>
    rw [phrase?_cons_cons, phrase?_cons_cons]
    refine rel_bind (rel_read? k h) fun mid mid' hmid => ?_
    refine rel_skipSomeBlanks?_bind (phrase?_of_blankFront k' ks blankFront_nil) hmid.variant
      fun rest rest' hrest => ?_
    exact rel_imp (ih k' hrest.variant) fun _ _ hfound => hmid.trans (hrest.trans hfound)

/-! ## Phrases that stand alone -/

/-- What is only looked for where a word may begin. -/
lemma rel_ite_opensWord {α : Type} {R : α → α → Prop} {found found' : Option α}
    (hopens : opensWord p = opensWord q) (h : Option.Rel R found found') :
    Option.Rel R (if opensWord p then found else none) (if opensWord q then found' else none) := by
  rw [hopens]
  split
  · exact h
  · exact .none

variable (hopens : opensWord p = opensWord q) (h : Variant v a b)

include hopens h

/-- **Phrases that stand alone** are found in both of two variants, or in neither. -/
lemma rel_wordPhrase? (k : Keyword) (ks : List Keyword) :
    Option.Rel (Consumed v a b) (wordPhrase? (k :: ks) p a) (wordPhrase? (k :: ks) q b) :=
  rel_ite_opensWord hopens
    (rel_filter (rel_phrase? k ks h) fun _ _ hfound => hfound.variant.closesWord_eq)

lemma rel_connective? : Option.Rel (Consumed v a b) (connective? p a) (connective? q b) :=
  rel_or (rel_wordPhrase? hopens h .AND []) (rel_wordPhrase? hopens h .OR [])

lemma standsAt_eq {phrases : List (List Keyword)} (hphrases : [] ∉ phrases) :
    standsAt phrases p a = standsAt phrases q b := by
  rw [standsAt, standsAt, Bool.eq_iff_iff, List.any_eq_true, List.any_eq_true]
  refine exists_congr fun ks => and_congr_right fun hks => ?_
  cases ks with
  | nil => exact absurd hks hphrases
  | cons k ks => rw [isSome_eq (rel_wordPhrase? hopens h k ks)]

omit hopens h

/-! ## Joins -/

/-- The words that open a join. -/
def joinWords : List Keyword :=
  .JOIN :: joinModifiers

/-- No two of them can be read at one place. -/
lemma eq_of_read? {k k' : Keyword} (hk : k ∈ joinWords) (hk' : k' ∈ joinWords)
    {rest rest' : List Char} (h : k.read? a = some rest) (h' : k'.read? a = some rest') :
    k = k' := by
  have hall : ∀ k ∈ joinWords, ∀ k' ∈ joinWords, k.letters <+: k'.letters → k = k' := by decide
  obtain ⟨w, rfl, hw⟩ := letters?_eq_some_iff.mp h
  obtain ⟨w', hsame, hw'⟩ := letters?_eq_some_iff.mp h'
  have hprefix : w' <+: w ++ rest := ⟨rest', hsame.symm⟩
  obtain hfront | hfront := List.prefix_or_prefix_of_prefix (List.prefix_append w rest) hprefix
  · exact hall k hk k' hk' (hw ▸ hw' ▸ hfront.map foldCase)
  · exact (hall k' hk' k hk (hw ▸ hw' ▸ hfront.map foldCase)).symm

/-- Takes a join modifier, the blanks after it and what opens the join off the front of a text. -/
def modifiedBy? (k : Keyword) (cs : List Char) : Option (List Char) :=
  (k.read? cs).bind fun mid => (skipSomeBlanks? mid).bind joinPhrase?

lemma modifiedBy?_eq (k : Keyword) (cs : List Char) :
    modifiedBy? k cs = ((k.read? cs).bind skipSomeBlanks?).bind joinPhrase? :=
  (Option.bind_assoc _ _ _).symm

lemma findSome?_eq_of_unique {α β : Type} {f : β → Option α} {k : β} {l : List β} (hk : k ∈ l)
    (h : ∀ k' ∈ l, k' ≠ k → f k' = none) : l.findSome? f = f k := by
  induction l with
  | nil => exact absurd hk List.not_mem_nil
  | cons k' l ih =>
    obtain ⟨hk', hl⟩ := List.forall_mem_cons.mp h
    rw [List.findSome?_cons]
    by_cases hsame : k' = k
    · subst hsame
      cases hfound : f k' with
      | some x => rfl
      | none =>
        refine List.findSome?_eq_none_iff.mpr fun k'' hk'' => ?_
        by_cases hagain : k'' = k'
        · rw [hagain, hfound]
        · exact hl k'' hk'' hagain
    · rw [hk' hsame]
      exact ih ((List.mem_cons.mp hk).resolve_left (Ne.symm hsame)) hl

/-- A join opens with `JOIN`, or with a modifier and a join behind it. -/
lemma joinPhrase?_eq (cs : List Char) :
    joinPhrase? cs =
      (Keyword.JOIN.read? cs).or (joinModifiers.findSome? fun k => modifiedBy? k cs) := by
  cases hmodifier : joinModifier? cs with
  | none =>
    have hnone : joinModifiers.findSome? (fun k => modifiedBy? k cs) = none := by
      refine List.findSome?_eq_none_iff.mpr fun k hk => ?_
      rw [modifiedBy?_eq, List.findSome?_eq_none_iff.mp hmodifier k hk, Option.bind_none]
    rw [joinPhrase?_of_no_modifier hmodifier, hnone, Option.or_none]
  | some rest =>
    obtain ⟨k, hk, hfound⟩ := List.exists_of_findSome?_eq_some hmodifier
    obtain ⟨mid, hread, -⟩ := Option.bind_eq_some_iff.mp hfound
    have hother : ∀ k' ∈ joinWords, k' ≠ k → k'.read? cs = none := by
      intro k' hk' hne
      by_contra hsome
      obtain ⟨mid', hread'⟩ := Option.ne_none_iff_exists'.mp hsome
      exact hne (eq_of_read? hk' (List.mem_cons_of_mem _ hk) hread' hread)
    have hjoin : Keyword.JOIN ≠ k := by
      rintro rfl
      exact absurd hk (by decide)
    have hunique : joinModifiers.findSome? (fun k => modifiedBy? k cs) = modifiedBy? k cs := by
      refine findSome?_eq_of_unique hk fun k' hk' hne => ?_
      rw [modifiedBy?, hother k' (List.mem_cons_of_mem _ hk') hne, Option.bind_none]
    rw [joinPhrase?_of_modifier hmodifier, hother .JOIN List.mem_cons_self hjoin, Option.none_or,
      hunique, modifiedBy?_eq, hfound, Option.bind_some]

lemma joinPhrase?_nil : joinPhrase? [] = none := by
  decide +kernel

/-- By induction on the length, since every modifier is taken off the text. -/
lemma rel_joinPhrase? (h : Variant v a b) :
    Option.Rel (Consumed v a b) (joinPhrase? a) (joinPhrase? b) := by
  induction hlength : a.length using Nat.strong_induction_on generalizing a b with
  | h length ih =>
    subst hlength
    rw [joinPhrase?_eq a, joinPhrase?_eq b]
    refine rel_or (rel_read? .JOIN h) (rel_findSome? fun k _ => ?_)
    refine rel_bind (rel_read? k h) fun mid mid' hmid => ?_
    refine rel_skipSomeBlanks?_bind joinPhrase?_nil hmid.variant fun rest rest' hrest => ?_
    have hall := hmid.trans hrest
    exact rel_imp (ih rest.length hall.length_lt hrest.variant rfl) fun _ _ => hall.trans

/-- **Clauses and joins** begin in both of two variants, or in neither. -/
lemma closesPredicate_eq (hopens : opensWord p = opensWord q) (h : Variant v a b) :
    closesPredicate p a = closesPredicate q b := by
  have hjoin := isSome_eq
    (rel_filter (rel_joinPhrase? h) fun _ _ hfound => hfound.variant.closesWord_eq)
  rw [closesPredicate, closesPredicate, standsAt_eq hopens h (by decide), hopens, hjoin]

end SqlAdvice.Sql
