import SqlAdvice.Proofs.KeywordFront
import SqlAdvice.Proofs.StatementKind
import SqlAdvice.Proofs.VariantNames

/-!
# Extractors on texts that are read alike

Every extractor walks over two variants in step.  Over blanks it does nothing, at other characters
it finds the same in both, and where it has found something it goes on behind it with variants
again.  So what it cuts out are variants (`forall₂_predicateSpans`, `topLevelParts_variant`,
`rel_afterPhrase?`), and names that are found may be exchanged (`forall₂_joinNames`).  Cleaned and
undecorated, this is what the extractors report: texts that agree character by character, and table
names that are variants (`forall₂_joinPredicates` and its siblings).

Most of them are one of two walks: one that ends at the first thing it finds
(`SamePlace.rel_search`), and one that goes on behind it (`SamePlace.forall₂_collect`).
-/

namespace SqlAdvice.Sql

open SqlAdvice.Text

variable {v : Variation} {p q quote : Option Char} {a b x y : List Char}

/-! ## The kind of a statement -/

/-- The kind depends on how the first word reads, case aside, and on its upper-case form. -/
lemma statementKind_congr (hfold : (firstWord a).map foldCase = (firstWord b).map foldCase)
    (hupper : (firstWord a).map upperLetter = (firstWord b).map upperLetter) :
    statementKind a = statementKind b := by
  have hopens : ∀ k : Keyword, (wordPhrase? [k] none (skipBlanks a)).isSome =
      (wordPhrase? [k] none (skipBlanks b)).isSome := by
    intro k
    rw [Bool.eq_iff_iff, wordPhrase?_skipBlanks_isSome, wordPhrase?_skipBlanks_isSome, hfold]
  rw [statementKind, statementKind]
  simp only [hopens]
  cases hfind : leadingKeywords.find? fun k =>
      (wordPhrase? [k.1] none (skipBlanks b)).isSome with
  | none => rfl
  | some found =>
    have hletters : (firstWord b).map foldCase = found.1.letters :=
      wordPhrase?_skipBlanks_isSome.mp (List.find?_some hfind :)
    simp only [take_skipBlanks hletters, take_skipBlanks (hfold.trans hletters), hupper]

lemma map_eq_of_forall₂ {α : Type} {f : Char → α} (hf : ∀ {c d}, v.char c d → f c = f d)
    (h : List.Forall₂ v.char a b) : a.map f = b.map f := by
  induction h with
  | nil => rfl
  | cons hc _ ih => rw [List.map_cons, List.map_cons, hf hc, ih]

lemma skipBlanks_samePlace (h : SamePlace v p a q b) :
    Variant v (skipBlanks a) (skipBlanks b) := by
  induction h with
  | ends h =>
    rw [skipBlanks_eq_nil h.left, skipBlanks_eq_nil h.right]
    exact .nil
  | gap h _ _ ih => rwa [skipBlanks_of_blank h.left, skipBlanks_of_blank h.right]
  | char _ hc hblank htext _ => exact (Variant.char hc hblank htext).skipBlanks

lemma statementKind_eq (h : SamePlace v p a q b) : statementKind a = statementKind b := by
  have hword : List.Forall₂ v.char (firstWord a) (firstWord b) :=
    ((skipBlanks_samePlace h).takeWhile v.word fun _ => isWord_of_isBlank).1
  exact statementKind_congr (map_eq_of_forall₂ v.fold hword) (map_eq_of_forall₂ v.upper hword)

/-! ## Wildcards -/

lemma count_eq {m : Char} (hword : isWord m = false) (hblank : isBlank m = false)
    (h : SamePlace v p a q b) : a.count m = b.count m := by
  have hnone : ∀ {cs : List Char}, (∀ c ∈ cs, isBlank c = true) → cs.count m = 0 := fun hcs =>
    List.count_eq_zero.mpr (not_mem_of_apply hcs hblank)
  induction h with
  | ends h => rw [hnone h.left, hnone h.right]
  | gap h _ _ ih =>
    rw [List.count_append, List.count_append, hnone h.left, hnone h.right, ih]
  | char _ hc _ _ _ ih => rw [List.count_cons, List.count_cons, v.beq_eq hword hc, ih]

lemma hasWildcard_eq (h : SamePlace v p a q b) : hasWildcard a = hasWildcard b := by
  have hstar : a.contains '*' = b.contains '*' := by
    rw [Bool.eq_iff_iff, List.contains_iff_mem, List.contains_iff_mem, ← List.count_pos_iff,
      ← List.count_pos_iff, count_eq (by decide) (by decide) h]
  rw [hasWildcard, hasWildcard, hstar, count_eq (by decide) (by decide) h]

/-! ## Walks -/

section Walks

variable {α : Type} {R : α → α → Prop}

/-- A walk over a text that passes over blanks, and finds nothing at the end. -/
structure PassesBlanks {β : Type} (walk : Option Char → List Char → β) (nothing : β) : Prop where
  nil {p : Option Char} : walk p [] = nothing
  blank {p : Option Char} {x : List Char} (hx : ∀ c ∈ x, isBlank c = true) (a : List Char) :
    walk p (x ++ a) = walk (lastChar p x) a

lemma PassesBlanks.eq_nothing {β : Type} {walk : Option Char → List Char → β} {nothing : β}
    (hwalk : PassesBlanks walk nothing) (hx : ∀ c ∈ x, isBlank c = true) :
    walk p x = nothing := by
  have hpast := hwalk.blank (p := p) hx []
  rwa [List.append_nil, hwalk.nil] at hpast

/-- A walk that ends at the first thing it finds. -/
lemma SamePlace.rel_search {walk : Option Char → List Char → Option α}
    (hwalk : PassesBlanks walk none)
    (hstep : ∀ {p q : Option Char} {c d : Char} {a b : List Char}, opensWord p = opensWord q →
      v.char c d → isBlank c = false → Variant v a b →
      Option.Rel R (walk (some c) a) (walk (some d) b) →
        Option.Rel R (walk p (c :: a)) (walk q (d :: b)))
    (h : SamePlace v p a q b) : Option.Rel R (walk p a) (walk q b) := by
  induction h with
  | ends h =>
    rw [hwalk.eq_nothing h.left, hwalk.eq_nothing h.right]
    exact .none
  | gap h _ _ ih => rwa [hwalk.blank h.left, hwalk.blank h.right]
  | char hopens hc hblank htext _ ih => exact hstep hopens hc hblank htext ih

/-- A walk that goes on behind what it finds.  By induction on the length, since that is passed
over. -/
lemma SamePlace.forall₂_collect {walk : Option Char → List Char → List α}
    {find : Option Char → List Char → Option (α × List Char)} (hwalk : PassesBlanks walk [])
    (hnone : ∀ {p : Option Char} {c : Char} {cs : List Char}, find p (c :: cs) = none →
      walk p (c :: cs) = walk (some c) cs)
    (hsome : ∀ {p : Option Char} {w rest : List Char} {found : α}, w ≠ [] →
      find p (w ++ rest) = some (found, rest) →
        walk p (w ++ rest) = found :: walk (lastChar p w) rest)
    (hfind : ∀ {p q : Option Char} {a b : List Char}, opensWord p = opensWord q →
      Variant v a b → Option.Rel (fun found found' => R found.1 found'.1 ∧
        Consumed v a b found.2 found'.2) (find p a) (find q b))
    (h : SamePlace v p a q b) : List.Forall₂ R (walk p a) (walk q b) := by
  induction hlength : a.length using Nat.strong_induction_on generalizing p q a b with
  | h length ih =>
    subst hlength
    cases h with
    | ends h =>
      rw [hwalk.eq_nothing h.left, hwalk.eq_nothing h.right]
      exact .nil
    | @gap _ _ x y a b h hx hrest =>
      rw [hwalk.blank h.left, hwalk.blank h.right]
      have hpos := List.length_pos_iff.mpr hx
      exact ih a.length (by simp; omega) hrest rfl
    | @char _ _ c d a b hopens hc hblank htext hrest =>
      obtain ⟨hleft, hright⟩ | ⟨⟨x, rest⟩, ⟨y, rest'⟩, hleft, hright, hR, hconsumed⟩ :=
        rel_cases (hfind hopens (.char hc hblank htext))
      · rw [hnone hleft, hnone hright]
        exact ih a.length (by simp) hrest rfl
      · have hlt := hconsumed.length_lt
        obtain ⟨w, u, hw, hu, hwne, hune, hfits, hvariant⟩ := hconsumed
        rw [hw] at hleft
        rw [hu] at hright
        rw [hw, hu, hsome hwne hleft, hsome hune hright]
        exact .cons hR (ih rest.length hlt (.of_variant hvariant (hfits.opens hopens)) rfl)

end Walks

/-! ## Clauses -/

lemma afterPhrase?_passesBlanks (k : Keyword) (ks : List Keyword) :
    PassesBlanks (afterPhrase? (k :: ks)) none where
  nil := rfl
  blank hx _ := afterPhrase?_append (silent_of_blank hx)

/-- What follows a phrase. -/
lemma rel_afterPhrase? (k : Keyword) (ks : List Keyword) (h : SamePlace v p a q b) :
    Option.Rel (Variant v) (afterPhrase? (k :: ks) p a) (afterPhrase? (k :: ks) q b) := by
  refine h.rel_search (afterPhrase?_passesBlanks k ks) fun hopens hc hblank htext hmore => ?_
  rw [afterPhrase?, afterPhrase?]
  obtain ⟨hnone, hnone'⟩ | ⟨rest, rest', hsome, hsome', hrest⟩ :=
    rel_cases (rel_wordPhrase? hopens (.char hc hblank htext) k ks)
  · rw [hnone, hnone']
    exact hmore
  · rw [hsome, hsome']
    exact .some hrest.variant

lemma upToPhrase_of_blank {phrases : List (List Keyword)} (hphrases : [] ∉ phrases)
    (hx : ∀ c ∈ x, isBlank c = true) (a : List Char) :
    upToPhrase phrases p (x ++ a) = x ++ upToPhrase phrases (lastChar p x) a := by
  have hheads : ∀ phrase ∈ phrases, ∃ k ∈ Keyword.all, ∃ ks, phrase = k :: ks := by
    intro phrase hphrase
    cases phrase with
    | nil => exact absurd hphrase hphrases
    | cons k ks => exact ⟨k, by cases k <;> decide, ks, rfl⟩
  exact upToPhrase_append hheads (silent_of_blank hx)

lemma upToPhrase_variant {phrases : List (List Keyword)} (hphrases : [] ∉ phrases)
    (hopens : opensWord p = opensWord q) (h : Variant v a b) :
    Variant v (upToPhrase phrases p a) (upToPhrase phrases q b) := by
  induction h generalizing p q with
  | @ends x y h =>
    have hx := upToPhrase_of_blank (p := p) hphrases h.left []
    have hy := upToPhrase_of_blank (p := q) hphrases h.right []
    rw [upToPhrase, List.append_nil] at hx hy
    rw [hx, hy]
    exact .ends h
  | gap h hx hy _ ih =>
    rw [upToPhrase_of_blank hphrases h.left, upToPhrase_of_blank hphrases h.right]
    exact .gap h hx hy (ih ((Fits.gap h hx hy).opens hopens))
  | char hc hblank hrest ih =>
    rw [upToPhrase, upToPhrase, standsAt_eq hopens (.char hc hblank hrest) hphrases]
    split
    · exact .nil
    · exact .char hc hblank (ih (v.opensWord_eq hc))

/-! ## Literals -/

/-- What is open is opened by a quote. -/
def IsOpen (quote : Option Char) : Prop :=
  ∀ q ∈ quote, Literal.isQuote q = true

lemma isOpen_none : IsOpen none :=
  fun _ h => nomatch h

lemma isOpen_next {c : Char} (hquote : IsOpen quote) : IsOpen (Literal.next quote c) := by
  cases quote with
  | some q =>
    rw [Literal.next]
    split
    · exact isOpen_none
    · exact hquote
  | none =>
    rw [Literal.next]
    split
    · rename_i hc
      exact fun q hq => Option.mem_some.mp hq ▸ hc
    · exact isOpen_none

lemma isQuote_eq {c d : Char} (h : v.char c d) : Literal.isQuote c = Literal.isQuote d := by
  simp only [Literal.isQuote, v.beq_eq (m := '\'') (by decide) h,
    v.beq_eq (m := '"') (by decide) h]

lemma covers_eq {c d : Char} (h : v.char c d) :
    Literal.covers quote c = Literal.covers quote d := by
  rw [Literal.covers, Literal.covers, isQuote_eq h]

lemma next_eq {c d : Char} (hquote : IsOpen quote) (h : v.char c d) :
    Literal.next quote c = Literal.next quote d := by
  cases quote with
  | some q => rw [Literal.next, Literal.next, v.beq_eq (kind_of_isQuote (hquote q rfl)).1 h]
  | none =>
    rw [Literal.next, Literal.next, ← isQuote_eq h]
    split
    · rename_i hc
      rw [v.mark h (kind_of_isQuote hc).1]
    · rfl

/-- A blank opens no literal and closes none. -/
lemma next_of_isBlank {c : Char} (hquote : IsOpen quote) (hc : isBlank c = true) :
    Literal.next quote c = quote := by
  have hne : ∀ q, Literal.isQuote q = true → c ≠ q := fun _ hq =>
    ne_of_apply hc (kind_of_isQuote hq).2.1
  cases quote with
  | some q => rw [Literal.next, if_neg (by simpa using hne q (hquote q rfl))]
  | none => rw [Literal.next, if_neg fun hopen => hne c hopen rfl]

lemma openAfter_of_blank (hquote : IsOpen quote) (hx : ∀ c ∈ x, isBlank c = true) :
    Literal.openAfter quote x = quote := by
  induction x with
  | nil => rfl
  | cons c x ih =>
    obtain ⟨hc, hx⟩ := List.forall_mem_cons.mp hx
    rw [Literal.openAfter, List.foldl_cons, next_of_isBlank hquote hc]
    exact ih hx

lemma isOpen_openAfter (hquote : IsOpen quote) (cs : List Char) :
    IsOpen (Literal.openAfter quote cs) := by
  induction cs generalizing quote with
  | nil => exact hquote
  | cons c cs ih => exact ih (isOpen_next hquote)

lemma openAfter_eq (hquote : IsOpen quote) (h : Variant v a b) :
    Literal.openAfter quote a = Literal.openAfter quote b := by
  induction h generalizing quote with
  | ends h => rw [openAfter_of_blank hquote h.left, openAfter_of_blank hquote h.right]
  | gap h _ _ _ ih =>
    rw [Literal.openAfter_append, Literal.openAfter_append, openAfter_of_blank hquote h.left,
      openAfter_of_blank hquote h.right, ih hquote]
  | @char c d a b hc _ _ ih =>
    rw [Literal.openAfter, Literal.openAfter, List.foldl_cons, List.foldl_cons, next_eq hquote hc]
    exact ih (isOpen_next hquote)

/-! ## Join predicates -/

lemma predicateSpan_of_blank (hquote : IsOpen quote) (hx : ∀ c ∈ x, isBlank c = true)
    (a : List Char) :
    predicateSpan p quote (x ++ a) = x ++ predicateSpan (lastChar p x) quote a := by
  induction x generalizing p with
  | nil => rfl
  | cons c x ih =>
    have hsilent : Silent closingKeywords a p (c :: x) := silent_of_blank hx
    obtain ⟨hc, hx⟩ := List.forall_mem_cons.mp hx
    rw [List.cons_append, predicateSpan, ← List.cons_append, closesPredicate_eq_false hsilent.1,
      Bool.and_false, if_neg Bool.false_ne_true, next_of_isBlank hquote hc, ih hx]
    rfl

/-- The texts of two predicates are variants, and so is what follows them. -/
lemma predicateSpan_variant (hquote : IsOpen quote) (hopens : opensWord p = opensWord q)
    (h : Variant v a b) :
    ∃ x y a' b', a = x ++ a' ∧ b = y ++ b' ∧ predicateSpan p quote a = x ∧
      predicateSpan q quote b = y ∧ Variant v x y ∧
      ∀ {p q : Option Char}, opensWord p = opensWord q →
        SamePlace v (lastChar p x) a' (lastChar q y) b' := by
  induction h generalizing p q quote with
  | @ends x y h =>
    have hx := predicateSpan_of_blank (p := p) hquote h.left []
    have hy := predicateSpan_of_blank (p := q) hquote h.right []
    rw [predicateSpan, List.append_nil] at hx hy
    exact ⟨x, y, [], [], by simp, by simp, hx, hy, .ends h, fun _ => .ends gap_nil⟩
  | @gap x y a b h hx hy _ ih =>
    have hfits := Fits.gap h hx hy
    obtain ⟨x', y', a', b', rfl, rfl, hspan, hspan', hvariant, hplace⟩ :=
      ih hquote (hfits.opens hopens)
    refine ⟨x ++ x', y ++ y', a', b', by simp, by simp, ?_, ?_, .gap h hx hy hvariant,
      fun hopens => ?_⟩
    · rw [predicateSpan_of_blank hquote h.left, hspan]
    · rw [predicateSpan_of_blank hquote h.right, hspan']
    · rw [lastChar_append, lastChar_append]
      exact hplace (hfits.opens hopens)
  | @char c d a b hc hblank hrest ih =>
    have hsame := closesPredicate_eq hopens (.char hc hblank hrest)
    have hword := v.opensWord_eq hc
    by_cases hcloses : (quote.isNone && closesPredicate p (c :: a)) = true
    · have hcloses' := hcloses
      rw [hsame] at hcloses'
      refine ⟨[], [], c :: a, d :: b, rfl, rfl, ?_, ?_, .nil,
        fun hopens => .of_variant (.char hc hblank hrest) hopens⟩
      · rw [predicateSpan, if_pos hcloses]
      · rw [predicateSpan, if_pos hcloses']
    · have hcloses' := hcloses
      rw [hsame] at hcloses'
      obtain ⟨x', y', a', b', rfl, rfl, hspan, hspan', hvariant, hplace⟩ :=
        ih (isOpen_next (c := c) hquote) hword
      refine ⟨c :: x', d :: y', a', b', rfl, rfl, ?_, ?_, .char hc hblank hvariant,
        fun _ => hplace hword⟩
      · rw [predicateSpan, if_neg hcloses, hspan]
      · rw [predicateSpan, if_neg hcloses', ← next_eq hquote hc, hspan']

lemma predicateSpans_of_blank (hquote : IsOpen quote) (hx : ∀ c ∈ x, isBlank c = true)
    (a : List Char) :
    predicateSpans 0 p quote (x ++ a) = predicateSpans 0 (lastChar p x) quote a := by
  rw [predicateSpans_append (silent_of_blank hx), openAfter_of_blank hquote hx]

/-- The word `ON` where literals are closed. -/
lemma rel_ON (quote : Option Char) (hopens : opensWord p = opensWord q) (h : Variant v a b) :
    Option.Rel (fun rest rest' => quote = none ∧ Consumed v a b rest rest')
      (if quote.isNone then wordPhrase? [.ON] p a else none)
      (if quote.isNone then wordPhrase? [.ON] q b else none) := by
  cases quote with
  | some _ => exact .none
  | none => exact rel_imp (rel_wordPhrase? hopens h .ON []) fun _ _ hrest => ⟨rfl, hrest⟩

/-- By induction on the length, since predicates are passed over. -/
lemma forall₂_predicateSpans (hquote : IsOpen quote) (h : SamePlace v p a q b) :
    List.Forall₂ (Variant v) (predicateSpans 0 p quote a) (predicateSpans 0 q quote b) := by
  induction hlength : a.length using Nat.strong_induction_on generalizing p q quote a b with
  | h length ih =>
    subst hlength
    cases h with
    | ends h =>
      have hx := predicateSpans_of_blank (p := p) hquote h.left []
      have hy := predicateSpans_of_blank (p := q) hquote h.right []
      rw [List.append_nil, predicateSpans] at hx hy
      rw [hx, hy]
      exact .nil
    | @gap _ _ x y a b h hx hrest =>
      rw [predicateSpans_of_blank hquote h.left, predicateSpans_of_blank hquote h.right]
      have hpos := List.length_pos_iff.mpr hx
      exact ih a.length (by simp; omega) hquote hrest rfl
    | @char _ _ c d a b hopens hc hblank htext hrest =>
      have htext' : Variant v (c :: a) (d :: b) := .char hc hblank htext
      obtain ⟨hnone, hnone'⟩ | ⟨rest, rest', hsome, hsome', rfl, hconsumed⟩ :=
        rel_cases (rel_ON quote hopens htext')
      · rw [predicateSpans, predicateSpans, hnone, hnone', ← next_eq hquote hc]
        exact ih a.length (by simp) (isOpen_next hquote) hrest rfl
      · obtain ⟨w, u, hw, hu, hwne, hune, hfits, hvariant⟩ := hconsumed
        obtain ⟨x, y, a', b', rfl, rfl, hspan, hspan', hparts, hplace⟩ :=
          predicateSpan_variant isOpen_none rfl hvariant
        rw [Option.isNone_none, if_pos rfl, hw] at hsome
        rw [Option.isNone_none, if_pos rfl, hu] at hsome'
        have hquotes := openAfter_eq isOpen_none (hfits.append hparts)
        rw [hw, hu, predicateSpans_of_wordPhrase? hwne hsome hspan,
          predicateSpans_of_wordPhrase? hune hsome' hspan', ← hquotes]
        refine .cons hparts (ih a'.length ?_ (isOpen_openAfter isOpen_none _) ?_ rfl)
        · have hpos := List.length_pos_iff.mpr hwne
          rw [hw]
          simp
          omega
        · rw [lastChar_append, lastChar_append]
          exact hplace (hfits.opens hopens)

/-- **Join predicates** agree character by character. -/
lemma forall₂_joinPredicates (h : SamePlace v none a none b) :
    List.Forall₂ (List.Forall₂ v.char) (joinPredicates a) (joinPredicates b) :=
  forall₂_cleanAll (forall₂_predicateSpans isOpen_none h)

/-! ## Conditions -/

lemma depthAfter_eq {c d : Char} (depth : Nat) (h : v.char c d) :
    depthAfter depth c = depthAfter depth d := by
  rw [depthAfter, depthAfter, v.beq_eq (m := '(') (by decide) h, v.beq_eq (m := ')') (by decide) h]

lemma depthAfter_of_isBlank {c : Char} (depth : Nat) (hc : isBlank c = true) :
    depthAfter depth c = depth := by
  have hne : ∀ m, isBlank m = false → ¬(c == m) = true := fun _ hm hcm =>
    ne_of_apply hc hm (eq_of_beq hcm)
  rw [depthAfter, if_neg (hne '(' (by decide)), if_neg (hne ')' (by decide))]

/-- Blanks go to the part that is being read, whether a literal is open or not. -/
lemma topLevelParts_of_blank (depth : Nat) (hquote : IsOpen quote)
    (hx : ∀ c ∈ x, isBlank c = true) (a : List Char) :
    topLevelParts 0 p quote depth (x ++ a) =
      (x ++ (topLevelParts 0 (lastChar p x) quote depth a).1,
        (topLevelParts 0 (lastChar p x) quote depth a).2) := by
  induction x generalizing p with
  | nil => rfl
  | cons c x ih =>
    have hsilent : Silent [.AND, .OR] a p (c :: x) := silent_of_blank hx
    obtain ⟨hc, hx⟩ := List.forall_mem_cons.mp hx
    have hnone := connective?_eq_none hsilent.1
    rw [List.cons_append] at hnone ⊢
    rw [topLevelParts, hnone, ite_self, next_of_isBlank hquote hc, depthAfter_of_isBlank depth hc,
      ih hx]
    split <;> rfl

lemma isWord_of_connective? (h : connective? p (x ++ a) = some a) : ∀ c ∈ x, isWord c = true := by
  have hrest : a = (x ++ a).dropWhile isWord := by
    rw [connective?, Option.or_eq_some_iff] at h
    obtain h | ⟨-, h⟩ := h
    · exact eq_dropWhile_of_wordPhrase? h
    · exact eq_dropWhile_of_wordPhrase? h
  have hsplit : x ++ a = (x ++ a).takeWhile isWord ++ a := by
    nth_rewrite 3 [hrest]
    exact List.takeWhile_append_dropWhile.symm
  rw [List.append_cancel_right hsplit]
  exact fun c hc => List.mem_takeWhile_imp hc

lemma isQuote_of_isWord {c : Char} (hc : isWord c = true) : Literal.isQuote c = false := by
  by_contra hquote
  rw [(kind_of_isQuote (eq_true_of_ne_false hquote)).1] at hc
  exact Bool.false_ne_true hc

/-- By induction on the length, since connectives are passed over. -/
lemma topLevelParts_variant (depth : Nat) (hquote : IsOpen quote)
    (hopens : opensWord p = opensWord q) (h : Variant v a b) :
    Variant v (topLevelParts 0 p quote depth a).1 (topLevelParts 0 q quote depth b).1 ∧
      List.Forall₂ (Variant v) (topLevelParts 0 p quote depth a).2
        (topLevelParts 0 q quote depth b).2 := by
  induction hlength : a.length using Nat.strong_induction_on
    generalizing p q quote depth a b with
  | h length ih =>
    subst hlength
    cases h with
    | ends h =>
      have hx := topLevelParts_of_blank (p := p) depth hquote h.left []
      have hy := topLevelParts_of_blank (p := q) depth hquote h.right []
      rw [List.append_nil, topLevelParts, List.append_nil] at hx hy
      rw [hx, hy]
      exact ⟨.ends h, .nil⟩
    | @gap x y a b h hx hy hrest =>
      rw [topLevelParts_of_blank depth hquote h.left, topLevelParts_of_blank depth hquote h.right]
      have hpos := List.length_pos_iff.mpr hx
      obtain ⟨hpart, hparts⟩ := ih a.length (by simp; omega) depth hquote
        ((Fits.gap h hx hy).opens hopens) hrest rfl
      exact ⟨.gap h hx hy hpart, hparts⟩
    | @char c d a b hc hblank hrest =>
      have hword := v.opensWord_eq hc
      have hcovers : Literal.covers quote c = Literal.covers quote d := covers_eq hc
      by_cases hcovered : Literal.covers quote c = true
      · obtain ⟨hpart, hparts⟩ := ih a.length (by simp) depth
          (isOpen_next (c := c) hquote) hword hrest rfl
        rw [topLevelParts, topLevelParts, if_pos hcovered, if_pos (hcovers ▸ hcovered),
          ← next_eq hquote hc]
        exact ⟨.char hc hblank hpart, hparts⟩
      obtain rfl : quote = none := by
        cases quote with
        | none => rfl
        | some _ => exact absurd rfl hcovered
      have hfound : Option.Rel (fun rest rest' => depth = 0 ∧ Consumed v (c :: a) (d :: b) rest rest')
          (if depth == 0 then connective? p (c :: a) else none)
          (if depth == 0 then connective? q (d :: b) else none) := by
        split
        · rename_i hdepth
          exact rel_imp (rel_connective? hopens (.char hc hblank hrest))
            fun _ _ hrest => ⟨eq_of_beq hdepth, hrest⟩
        · exact .none
      obtain ⟨hnone, hnone'⟩ | ⟨rest, rest', hsome, hsome', rfl, hconsumed⟩ := rel_cases hfound
      · obtain ⟨hpart, hparts⟩ := ih a.length (by simp) (depthAfter depth c) isOpen_none
          hword hrest rfl
        have hcovered' : ¬Literal.covers none d = true := hcovers ▸ hcovered
        rw [topLevelParts, if_neg hcovered, hnone, topLevelParts, if_neg hcovered', hnone',
          ← depthAfter_eq depth hc]
        exact ⟨.char hc hblank hpart, hparts⟩
      · have hlt := hconsumed.length_lt
        obtain ⟨w, u, hw, hu, hwne, hune, hfits, hvariant⟩ := hconsumed
        rw [beq_self_eq_true, if_pos rfl, hw] at hsome
        rw [beq_self_eq_true, if_pos rfl, hu] at hsome'
        obtain ⟨hpart, hparts⟩ := ih rest.length hlt 0 isOpen_none
          (hfits.opens hopens) hvariant rfl
        rw [hw, hu, topLevelParts_of_connective? hwne
            (fun c hc => isQuote_of_isWord (isWord_of_connective? hsome c hc)) hsome,
          topLevelParts_of_connective? hune
            (fun c hc => isQuote_of_isWord (isWord_of_connective? hsome' c hc)) hsome']
        exact ⟨.nil, .cons hpart hparts⟩

/-- **Conditions** agree character by character. -/
lemma forall₂_conditions (h : SamePlace v none a none b) :
    List.Forall₂ (List.Forall₂ v.char) (conditions a) (conditions b) := by
  rw [conditions, conditions]
  obtain ⟨hnone, hnone'⟩ | ⟨rest, rest', hsome, hsome', hrest⟩ :=
    rel_cases (rel_afterPhrase? .WHERE [] h)
  · rw [hnone, hnone']
    exact .nil
  · rw [hsome, hsome']
    have hends : [] ∉ whereEnds := by decide
    have hclause := upToPhrase_variant (p := none) hends rfl hrest
    obtain ⟨hpart, hparts⟩ := topLevelParts_variant (p := none) 0 isOpen_none rfl hclause
    exact forall₂_cleanAll (.cons hpart hparts)

lemma isEmpty_eq_of_forall₂ (h : List.Forall₂ v.char a b) : a.isEmpty = b.isEmpty := by
  cases h <;> rfl

/-- **The text to sort by** agrees character by character. -/
lemma rel_orderBy? (h : SamePlace v none a none b) :
    Option.Rel (List.Forall₂ v.char) (orderBy? a) (orderBy? b) := by
  rw [orderBy?, orderBy?]
  obtain ⟨hnone, hnone'⟩ | ⟨rest, rest', hsome, hsome', hrest⟩ :=
    rel_cases (rel_afterPhrase? .ORDER [.BY] h)
  · rw [hnone, hnone']
    exact .none
  · rw [hsome, hsome']
    have hclean := forall₂_clean hrest
    simp only [isEmpty_eq_of_forall₂ hclean]
    split
    · exact .none
    · exact .some hclean

/-! ## Tables -/

lemma fromName?_passesBlanks : PassesBlanks fromName? none where
  nil := rfl
  blank hx _ := fromName?_append (silent_of_blank hx)

lemma rel_fromName? (h : SamePlace v p a q b) :
    Option.Rel (Fits v) (fromName? p a) (fromName? q b) := by
  refine h.rel_search fromName?_passesBlanks fun hopens hc hblank htext hmore => ?_
  rw [fromName?, fromName?]
  obtain ⟨hnone, hnone'⟩ | ⟨⟨name, rest⟩, ⟨name', rest'⟩, hsome, hsome', hname, -⟩ :=
    rel_cases (rel_nameAfter? .FROM hopens (.char hc hblank htext))
  · rw [hnone, hnone']
    exact hmore
  · rw [hsome, hsome']
    exact .some hname

lemma joinNames_passesBlanks : PassesBlanks (joinNames 0) [] where
  nil := rfl
  blank hx _ := joinNames_append (silent_of_blank hx)

lemma forall₂_joinNames (h : SamePlace v p a q b) :
    List.Forall₂ (Fits v) (joinNames 0 p a) (joinNames 0 q b) :=
  h.forall₂_collect joinNames_passesBlanks (fun hnone => by rw [joinNames, hnone])
    joinNames_of_nameAfter? (rel_nameAfter? .JOIN)

/-- The names of the tables as they are found, before repeats are dropped. -/
def tableNames (sql : List Char) : List (List Char) :=
  (((fromName? none sql).toList ++ joinNames 0 none sql).map undecorate).filter fun name =>
    !name.isEmpty

lemma tables_eq (sql : List Char) : tables sql = (tableNames sql).eraseDups :=
  rfl

/-- **Tables** have names that are variants. -/
lemma forall₂_tableNames (h : SamePlace v none a none b) :
    List.Forall₂ (Variant v) (tableNames a) (tableNames b) := by
  have hfrom : List.Forall₂ (Fits v) (fromName? none a).toList (fromName? none b).toList := by
    obtain ⟨hnone, hnone'⟩ | ⟨name, name', hsome, hsome', hname⟩ := rel_cases (rel_fromName? h)
    · rw [hnone, hnone']
      exact .nil
    · rw [hsome, hsome']
      exact .cons hname .nil
  have hfound := List.rel_append hfrom (forall₂_joinNames h)
  have hnames : List.Forall₂ (fun w u => Variant v w u ∧ NoBlankEnds w ∧ NoBlankEnds u)
      (((fromName? none a).toList ++ joinNames 0 none a).map undecorate)
      (((fromName? none b).toList ++ joinNames 0 none b).map undecorate) := by
    rw [List.forall₂_map_left_iff, List.forall₂_map_right_iff]
    exact hfound.imp fun w u hname =>
      ⟨hname.variant.undecorate.variant, noBlankEnds_undecorate w, noBlankEnds_undecorate u⟩
  refine (List.rel_filter (fun w u hname => ?_) hnames).imp fun _ _ hname => hname.1
  obtain ⟨hvariant, hw, hu⟩ := hname
  simpa [List.isEmpty_iff] using not_congr (hvariant.eq_nil_iff hw.last hu.last)

/-! ## Function calls -/

lemma call?_eq (prev : Option Char) (cs : List Char) :
    call? prev cs = if opensWord prev then
      (identifier? isNameStart cs).bind fun found =>
        (mark? '(' found.2).bind fun rest => some (found.1, rest)
    else none := by
  rw [call?]
  cases hfound : identifier? isNameStart cs with
  | none => rfl
  | some found =>
    obtain ⟨name, rest⟩ := found
    cases rest with
    | nil => rfl
    | cons c rest =>
      by_cases hc : c = '('
      · subst hc
        rfl
      · simp [mark?, hc]

lemma rel_call? (hopens : opensWord p = opensWord q) (h : Variant v a b) :
    Option.Rel (fun found found' => List.Forall₂ v.char found.1 found'.1 ∧
      Consumed v a b found.2 found'.2) (call? p a) (call? q b) := by
  rw [call?_eq, call?_eq]
  refine rel_ite_opensWord hopens
    (rel_bind (rel_identifier? startsName_isNameStart h) fun found found' hfound => ?_)
  obtain ⟨hname, -, hconsumed⟩ := hfound
  refine rel_bind (rel_mark? (by decide) (by decide) hconsumed.variant) fun rest rest' hrest => ?_
  exact .some ⟨hname, hconsumed.trans hrest⟩

lemma callsFrom_of_blank (hx : ∀ c ∈ x, isBlank c = true) (a : List Char) :
    callsFrom 0 p (x ++ a) = callsFrom 0 (lastChar p x) a := by
  induction x generalizing p with
  | nil => rfl
  | cons c x ih =>
    obtain ⟨hc, hx⟩ := List.forall_mem_cons.mp hx
    have hnone : call? p (c :: (x ++ a)) = none := by
      rw [call?, identifier?, isNameStart_of_isBlank hc, if_neg Bool.false_ne_true, ite_self]
    rw [List.cons_append, callsFrom, hnone]
    exact ih hx

lemma forall₂_callsFrom (h : SamePlace v p a q b) :
    List.Forall₂ (List.Forall₂ v.char) (callsFrom 0 p a) (callsFrom 0 q b) :=
  h.forall₂_collect ⟨rfl, callsFrom_of_blank⟩ (fun hnone => by rw [callsFrom, hnone])
    callsFrom_of_call? rel_call?

/-- **Called names** agree character by character. -/
lemma forall₂_functionCalls (h : SamePlace v none a none b) :
    List.Forall₂ (List.Forall₂ v.char) (functionCalls a) (functionCalls b) :=
  forall₂_callsFrom h

end SqlAdvice.Sql
