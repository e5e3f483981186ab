import SqlAdvice.Sql.Column
import SqlAdvice.Proofs.VariantExtraction

/-!
# Columns in texts that are read alike

The columns of two join predicates, of two conditions and of two texts to sort by that are variants.
Identifiers agree character by character (`forall₂_joinColumns`, `rel_filterColumn?`); what follows
the last dot of a name is a variant (`forall₂_sortColumns`), since it may be decorated.

A comparison is told by signs and words, behind blanks and perhaps a `NOT`, so it begins at the same
places in both texts (`comparisonFollows_eq`).
-/

namespace SqlAdvice.Sql

open SqlAdvice.Text

variable {v : Variation} {p q : Option Char} {a b x y : List Char}

/-! ## Behind the last separator -/

/-- By induction on the length, since a separator cuts off a part of any length. -/
lemma Variant.afterLast (sep : Char) (hword : isWord sep = false) (hblank : isBlank sep = false)
    (h : Variant v a b) : Variant v (Text.afterLast sep a) (Text.afterLast sep b) := by
  induction hlength : a.length using Nat.strong_induction_on generalizing a b with
  | h length ih =>
    subst hlength
    obtain ⟨ha, hb⟩ | ⟨x, y, a', b', rfl, rfl, -, -, -, -, hrest⟩ := h.split hword hblank
    · rwa [afterLast_of_not_mem ha, afterLast_of_not_mem hb]
    · rw [afterLast_append_separator, afterLast_append_separator]
      exact ih a'.length (by simp; omega) hrest rfl

/-! ## Join predicates -/

/-- What is behind one opening decoration, if the text begins with one. -/
def undecorated : List Char → List Char
  | c :: cs => if c == '[' || c == '"' || c == '\x60' then cs else c :: cs
  | [] => []

lemma sideColumn?_eq (side : List Char) :
    sideColumn? side =
      (identifier? isNameStart (undecorated (skipBlanks (afterLast '.' side)))).map (·.1) := by
  rw [sideColumn?]
  cases skipBlanks (afterLast '.' side) <;> rfl

lemma undecorated_of_blankFront (h : BlankFront a) : undecorated a = a := by
  cases a with
  | nil => rfl
  | cons c a =>
    have hne : ∀ m, isBlank m = false → (c == m) = false := fun _ hm =>
      beq_eq_false_iff_ne.mpr (ne_of_apply (h c rfl) hm)
    rw [undecorated, hne '[' (by decide), hne '"' (by decide), hne '\x60' (by decide)]
    rfl

lemma Variant.undecorated (h : Variant v a b) :
    Variant v (Sql.undecorated a) (Sql.undecorated b) := by
  obtain ⟨c, d, a, b, rfl, rfl, hc, hblank, hrest⟩ | ⟨ha, hb⟩ := h.head_cases
  · rw [Sql.undecorated, Sql.undecorated, ← v.beq_eq (m := '[') (by decide) hc,
      ← v.beq_eq (m := '"') (by decide) hc, ← v.beq_eq (m := '\x60') (by decide) hc]
    split
    · exact hrest
    · exact h
  · rwa [undecorated_of_blankFront ha, undecorated_of_blankFront hb]

lemma rel_sideColumn? (h : Variant v a b) :
    Option.Rel (List.Forall₂ v.char) (sideColumn? a) (sideColumn? b) := by
  rw [sideColumn?_eq, sideColumn?_eq]
  have hplain := (h.afterLast '.' (by decide) (by decide)).skipBlanks.undecorated
  obtain ⟨hnone, hnone'⟩ | ⟨found, found', hsome, hsome', hname, -⟩ :=
    rel_cases (rel_identifier? startsName_isNameStart hplain)
  · rw [hnone, hnone']
    exact .none
  · rw [hsome, hsome']
    exact .some hname

/-- **The columns of join predicates** agree character by character. -/
lemma forall₂_joinColumns (h : Variant v a b) :
    List.Forall₂ (List.Forall₂ v.char) (joinColumns a) (joinColumns b) :=
  List.rel_filterMap (fun _ _ hside => rel_sideColumn? hside)
    (forall₂_pieces (m := '=') (by decide) (by decide) h)

/-! ## Comparisons -/

lemma mark?_eq_some_iff {m : Char} : mark? m a = some b ↔ a = m :: b := by
  cases a with
  | nil => simp [mark?]
  | cons c a => simp [mark?]

lemma any_head?_eq {m : Char} (cs : List Char) :
    cs.head?.any (· == m) = (mark? m cs).isSome := by
  cases cs with
  | nil => rfl
  | cons c cs => by_cases hc : c = m <;> simp [mark?, hc]

/-- The signs and the words that compare. -/
lemma comparesAt_eq_or (prev : Option Char) (cs : List Char) :
    comparesAt prev cs = (((mark? '!' cs).bind (mark? '=')).isSome ||
      ((mark? '=' cs).isSome || (mark? '<' cs).isSome || (mark? '>' cs).isSome ||
        standsAt (comparisonWords.map ([·])) prev cs)) := by
  rw [comparesAt.eq_def]
  split
  · rfl
  · rename_i hne
    have hnone : (mark? '!' cs).bind (mark? '=') = none := by
      by_contra hsome
      obtain ⟨rest, hrest⟩ := Option.ne_none_iff_exists'.mp hsome
      obtain ⟨mid, hmid, hrest⟩ := Option.bind_eq_some_iff.mp hrest
      obtain rfl := mark?_eq_some_iff.mp hrest
      exact hne rest (mark?_eq_some_iff.mp hmid)
    rw [hnone, Option.isSome_none, Bool.false_or]
    cases cs with
    | nil => rfl
    | cons c cs =>
      have hsome : ∀ m, (mark? m (c :: cs)).isSome = (c == m) := fun m =>
        (any_head?_eq (c :: cs)).symm
      rw [hsome, hsome, hsome]
      rfl

lemma comparesAt_eq (hopens : opensWord p = opensWord q) (h : Variant v a b) :
    comparesAt p a = comparesAt q b := by
  have hmark : ∀ m, isWord m = false → isBlank m = false →
      (mark? m a).isSome = (mark? m b).isSome := fun _ hword hblank =>
    isSome_eq (rel_mark? hword hblank h)
  have hne : ((mark? '!' a).bind (mark? '=')).isSome = ((mark? '!' b).bind (mark? '=')).isSome :=
    isSome_eq (rel_bind (rel_mark? (m := '!') (by decide) (by decide) h) fun _ _ hrest =>
      rel_imp (rel_mark? (m := '=') (by decide) (by decide) hrest.variant) fun _ _ => hrest.trans)
  rw [comparesAt_eq_or, comparesAt_eq_or, hne, hmark '=' (by decide) (by decide),
    hmark '<' (by decide) (by decide), hmark '>' (by decide) (by decide),
    standsAt_eq hopens h (by decide)]

/-- Nothing compares at the end. -/
lemma comparesAt_nil : comparesAt p [] = false := by
  have hnone : ∀ k, wordPhrase? [k] p [] = none := fun k => by
    rw [wordPhrase?, phrase?_of_blankFront k [] blankFront_nil, Option.filter_none, ite_self]
  have hstands : standsAt (comparisonWords.map ([·])) p [] = false := by
    rw [standsAt, List.any_map, List.any_eq_false]
    intro k _
    rw [Function.comp_apply, hnone k]
    simp
  rw [comparesAt_eq_or, hstands]
  rfl

lemma some_lastBlank (last : Char) (cs : List Char) :
    some (lastBlank last cs) = lastChar (some last) (cs.takeWhile isBlank) := by
  rw [lastChar_eq_getLast?, lastBlank]
  cases (cs.takeWhile isBlank).getLast? <;> rfl

/-- A text that an operator begins. -/
def comparing? (prev : Option Char) (cs : List Char) : Option (List Char) :=
  if comparesAt prev cs then some cs else none

/-- An operator follows, perhaps behind a `NOT`. -/
lemma comparisonFollows_eq_or (last : Char) (cs : List Char) :
    comparisonFollows last cs =
      (((Keyword.NOT.read? (skipBlanks cs)).bind fun mid =>
        (skipSomeBlanks? mid).bind (comparing? (some ' '))).isSome ||
        comparesAt (lastChar (some last) (cs.takeWhile isBlank)) (skipBlanks cs)) := by
  rw [comparisonFollows, some_lastBlank, ← Option.bind_assoc]
  cases (Keyword.NOT.read? (skipBlanks cs)).bind skipSomeBlanks? with
  | none => rfl
  | some negated =>
    rw [Option.bind_some, comparing?]
    by_cases h : comparesAt (some ' ') negated = true <;> simp [h]

lemma comparisonFollows_eq {c d : Char} (hopens : opensWord (some c) = opensWord (some d))
    (h : Variant v a b) : comparisonFollows c a = comparisonFollows d b := by
  rw [comparisonFollows_eq_or, comparisonFollows_eq_or]
  have hnot : ((Keyword.NOT.read? (skipBlanks a)).bind fun mid =>
        (skipSomeBlanks? mid).bind (comparing? (some ' '))).isSome =
      ((Keyword.NOT.read? (skipBlanks b)).bind fun mid =>
        (skipSomeBlanks? mid).bind (comparing? (some ' '))).isSome := by
    refine isSome_eq (R := fun _ _ => True)
      (rel_bind (rel_read? .NOT h.skipBlanks) fun mid mid' hmid => ?_)
    refine rel_skipSomeBlanks?_bind (by rw [comparing?, comparesAt_nil]; rfl) hmid.variant
      fun rest rest' hrest => ?_
    rw [comparing?, comparing?, comparesAt_eq rfl hrest.variant]
    split
    · exact .some trivial
    · exact .none
  rw [hnot]
  obtain ⟨x, y, a, b, rfl, rfl, hfits, hx, hy, -, hrest, hfront⟩ | ⟨ha, hb⟩ := h.blankFront
  · obtain ⟨e, f, a, b, rfl, rfl, hef, hblank, -⟩ := hfront
    have he : ∀ g ∈ (e :: a).head?, isBlank g = false := forall_mem_head?_cons.mpr hblank
    have hf : ∀ g ∈ (f :: b).head?, isBlank g = false :=
      forall_mem_head?_cons.mpr (v.isBlank_eq hef ▸ hblank)
    rw [takeWhile_append_of_head hx he, takeWhile_append_of_head hy hf, skipBlanks_of_blank hx,
      skipBlanks_of_blank hy, skipBlanks, skipBlanks, dropWhile_of_head he, dropWhile_of_head hf,
      comparesAt_eq (hfits.opens hopens) hrest]
  · rw [skipBlanks_eq_nil ha, skipBlanks_eq_nil hb, comparesAt_nil, comparesAt_nil]

/-! ## Conditions -/

lemma comparedRun?_of_blankFront {c : Char} (h : BlankFront a) :
    comparedRun? c a = if comparisonFollows c a then some [] else none := by
  cases a with
  | nil =>
    have hnone : comparisonFollows c [] = false := by
      rw [comparisonFollows_eq_or, skipBlanks_eq_nil (x := []) (by simp), comparesAt_nil]
      rfl
    rw [comparedRun?, hnone, if_neg Bool.false_ne_true]
  | cons d a => rw [comparedRun?, isNameRest_of_isBlank (h d rfl), if_neg Bool.false_ne_true]

/-- The rest of an identifier that a comparison follows. -/
lemma rel_comparedRun? {c d : Char} (hopens : opensWord (some c) = opensWord (some d))
    (h : Variant v a b) :
    Option.Rel (List.Forall₂ v.char) (comparedRun? c a) (comparedRun? d b) := by
  have hhere : ∀ {c d : Char} {a b : List Char}, opensWord (some c) = opensWord (some d) →
      Variant v a b → Option.Rel (List.Forall₂ v.char)
        (if comparisonFollows c a then some [] else none)
        (if comparisonFollows d b then some [] else none) := by
    intro c d a b hopens h
    rw [comparisonFollows_eq hopens h]
    split
    · exact .some .nil
    · exact .none
  induction h generalizing c d with
  | ends h =>
    rw [comparedRun?_of_blankFront (blankFront_of_blank h.left),
      comparedRun?_of_blankFront (blankFront_of_blank h.right)]
    exact hhere hopens (.ends h)
  | gap h hx hy hrest _ =>
    rw [comparedRun?_of_blankFront (blankFront_append h.left hx),
      comparedRun?_of_blankFront (blankFront_append h.right hy)]
    exact hhere hopens (.gap h hx hy hrest)
  | @char e f a b hc hblank hrest ih =>
    have hfound : Option.Rel (List.Forall₂ v.char)
        (if isNameRest e then comparedRun? e a else none)
        (if isNameRest f then comparedRun? f b else none) := by
      rw [v.isNameRest_eq hc]
      split
      · exact ih (v.opensWord_eq hc)
      · exact .none
    rw [comparedRun?, comparedRun?]
    obtain ⟨hnone, hnone'⟩ | ⟨more, more', hsome, hsome', hmore⟩ := rel_cases hfound
    · rw [hnone, hnone']
      exact hhere hopens (.char hc hblank hrest)
    · rw [hsome, hsome']
      exact .some (.cons hc hmore)

lemma filterColumnFrom?_of_blank (hx : ∀ c ∈ x, isBlank c = true) (a : List Char) :
    filterColumnFrom? p (x ++ a) = filterColumnFrom? (lastChar p x) a := by
  induction x generalizing p with
  | nil => rfl
  | cons c x ih =>
    obtain ⟨hc, hx⟩ := List.forall_mem_cons.mp hx
    rw [List.cons_append, filterColumnFrom?, isFoldedNameStart_of_isBlank hc, Bool.and_false,
      if_neg Bool.false_ne_true]
    exact ih hx

lemma rel_filterColumnFrom? (h : SamePlace v p a q b) :
    Option.Rel (List.Forall₂ v.char) (filterColumnFrom? p a) (filterColumnFrom? q b) := by
  refine h.rel_search ⟨rfl, filterColumnFrom?_of_blank⟩
    fun {p q c d a b} hopens hc hblank htext hmore => ?_
  have hfound : Option.Rel (List.Forall₂ v.char)
      (if opensWord p && isFoldedNameStart c then comparedRun? c a else none)
      (if opensWord q && isFoldedNameStart d then comparedRun? d b else none) := by
    rw [hopens, startsName_isFoldedNameStart.alike hc]
    split
    · exact rel_comparedRun? (v.opensWord_eq hc) htext
    · exact .none
  rw [filterColumnFrom?, filterColumnFrom?]
  obtain ⟨hnone, hnone'⟩ | ⟨more, more', hsome, hsome', hrest⟩ := rel_cases hfound
  · rw [hnone, hnone']
    exact hmore
  · rw [hsome, hsome']
    exact .some (.cons hc hrest)

/-- **The column of a condition** agrees character by character. -/
lemma rel_filterColumn? (h : SamePlace v none a none b) :
    Option.Rel (List.Forall₂ v.char) (filterColumn? a) (filterColumn? b) :=
  rel_filterColumnFrom? h

/-! ## Sorting -/

/-- What follows the last dot ends as the name does. -/
lemma getLast?_afterLast {sep c : Char} (h : c ∈ (afterLast sep a).getLast?) :
    c ∈ a.getLast? := by
  rw [afterLast, List.getLast?_reverse] at h
  rw [← List.head?_reverse]
  cases hreverse : a.reverse with
  | nil => simp [hreverse] at h
  | cons d cs =>
    rw [hreverse, List.takeWhile_cons] at h
    split at h
    · exact h
    · cases h

lemma rel_itemColumn? (h : Variant v a b) :
    Option.Rel (Variant v) (itemColumn? a) (itemColumn? b) := by
  rw [itemColumn?, itemColumn?]
  obtain ⟨hnone, hnone'⟩ | ⟨⟨name, rest⟩, ⟨name', rest'⟩, hsome, hsome', hname, -⟩ :=
    rel_cases (rel_qualified? startsName_isNameStart h.skipBlanks)
  · rw [hnone, hnone']
    exact .none
  · rw [hsome, hsome']
    have hcolumn := hname.variant.undecorate.variant.afterLast '.' (by decide) (by decide)
    have hempty : (afterLast '.' (undecorate name)).isEmpty =
        (afterLast '.' (undecorate name')).isEmpty := by
      rw [Bool.eq_iff_iff, List.isEmpty_iff, List.isEmpty_iff]
      exact hcolumn.eq_nil_iff
        (fun c hc => (noBlankEnds_undecorate name).last c (getLast?_afterLast hc))
        (fun c hc => (noBlankEnds_undecorate name').last c (getLast?_afterLast hc))
    simp only [hempty]
    split
    · exact .none
    · exact .some hcolumn

/-- **The columns to sort by** have names that are variants. -/
lemma forall₂_sortColumns (h : Variant v a b) :
    List.Forall₂ (Variant v) (sortColumns a) (sortColumns b) :=
  List.rel_filterMap (fun _ _ hitem => rel_itemColumn? hitem)
    (forall₂_pieces (m := ',') (by decide) (by decide) h)

end SqlAdvice.Sql
