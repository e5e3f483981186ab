import SqlAdvice.Sql.Tables
import SqlAdvice.Proofs.VariantKeywords

/-!
# Names in texts that are read alike

A name can be read off both of two variants or off neither, and then the two names may be exchanged
(`ReadsName`).  An identifier holds no blanks, so it is the same character by character
(`rel_identifier?`); the text between two decorations may hold any, and so may the text around a
dot.  The reported forms of two such names are variants again (`Fits.undecorate`).
-/

namespace SqlAdvice.Sql

open SqlAdvice.Text

variable {v : Variation} {p q : Option Char} {a b x y : List Char} {start : Char → Bool}

/-- Names that may be exchanged have been taken off both texts. -/
def ReadsName (v : Variation) (a b : List Char) (found found' : List Char × List Char) : Prop :=
  Fits v found.1 found'.1 ∧ Consumed v a b found.2 found'.2

/-- What may begin an identifier does so in all its forms, and is no blank. -/
structure StartsName (v : Variation) (start : Char → Bool) : Prop where
  alike {c d : Char} (h : v.char c d) : start c = start d
  blank {c : Char} (h : isBlank c = true) : start c = false

lemma isNameStart_of_isBlank {c : Char} (h : isBlank c = true) : isNameStart c = false := by
  by_contra hstart
  rw [isBlank_of_isWord (isWord_of_isNameStart (eq_true_of_ne_false hstart))] at h
  exact Bool.false_ne_true h

/-- Only word characters have a case to ignore. -/
lemma foldCase_of_isWord_eq_false {c : Char} (h : isWord c = false) : foldCase c = c := by
  have hne : ∀ m, isWord m = true → ¬(c == m) = true := fun m hm hcm =>
    ne_of_apply hm h (eq_of_beq hcm).symm
  have hisLower : c.isLower = (decide (97 ≤ c.val) && decide (c.val ≤ 122)) := rfl
  have hlower : ¬c.isLower = true := by
    intro hlower
    rw [isWord_of_isAlphanum (by simp [Char.isAlphanum, isAlpha_eq, hlower])] at h
    exact Bool.false_ne_true h.symm
  have hor : ¬(c == 'İ' || c == 'ı') = true := by
    simp [hne 'İ' (by decide +kernel), hne 'ı' (by decide +kernel)]
  rw [foldCase, if_neg hor, if_neg (hne 'ſ' (by decide +kernel)),
    if_neg (hne '\u212A' (by decide +kernel))]
  exact dif_neg fun hrange => hlower (by
    rw [hisLower, Bool.and_eq_true, decide_eq_true_eq, decide_eq_true_eq]
    exact hrange)

lemma isFoldedNameStart_of_isBlank {c : Char} (h : isBlank c = true) :
    isFoldedNameStart c = false := by
  rw [isFoldedNameStart, foldCase_of_isWord_eq_false (isWord_of_isBlank h), isNameStart_of_isBlank h]

lemma startsName_isNameStart : StartsName v isNameStart where
  alike h := v.start h
  blank h := isNameStart_of_isBlank h

lemma startsName_isFoldedNameStart : StartsName v isFoldedNameStart where
  alike h := by rw [isFoldedNameStart, isFoldedNameStart, v.fold h]
  blank h := isFoldedNameStart_of_isBlank h

/-! ## Identifiers -/

lemma identifier?_of_blankFront (hstart : StartsName v start) (h : BlankFront a) :
    identifier? start a = none := by
  cases a with
  | nil => rfl
  | cons c a => rw [identifier?, hstart.blank (h c rfl), if_neg Bool.false_ne_true]

/-- **Identifiers** are the same, character by character. -/
lemma rel_identifier? (hstart : StartsName v start) (h : Variant v a b) :
    Option.Rel (fun found found' => List.Forall₂ v.char found.1 found'.1 ∧
      ReadsName v a b found found') (identifier? start a) (identifier? start b) := by
  obtain ⟨c, d, a, b, rfl, rfl, hc, hblank, hrest⟩ | ⟨ha, hb⟩ := h.head_cases
  · obtain ⟨hmore, htail⟩ := hrest.takeWhile v.isNameRest_eq fun _ => isNameRest_of_isBlank
    have hname : List.Forall₂ v.char (c :: a.takeWhile isNameRest) (d :: b.takeWhile isNameRest) :=
      .cons hc hmore
    have hfits : Fits v (c :: a.takeWhile isNameRest) (d :: b.takeWhile isNameRest) := by
      refine .of_forall₂ hname (List.forall_mem_cons.mpr ⟨hblank, fun e he => ?_⟩)
      by_contra hblank
      have hrest := List.mem_takeWhile_imp he
      rw [isNameRest_of_isBlank (eq_true_of_ne_false hblank)] at hrest
      exact Bool.false_ne_true hrest
    rw [identifier?, identifier?, ← hstart.alike hc]
    split
    · refine .some ⟨hname, hfits, ?_⟩
      have hall := Consumed.front (List.cons_ne_nil _ _) (List.cons_ne_nil _ _) hfits htail
      rwa [List.cons_append, List.cons_append, List.takeWhile_append_dropWhile,
        List.takeWhile_append_dropWhile] at hall
    · exact .none
  · rw [identifier?_of_blankFront hstart ha, identifier?_of_blankFront hstart hb]
    exact .none

/-! ## Decorated names -/

lemma enclosed?_of_not_mem {opening closing : Char} (h : closing ∉ a) :
    enclosed? opening closing a = none := by
  rw [enclosed?, List.dropWhile_eq_nil_iff.mpr (forall_mem_bne h)]

lemma enclosed?_append_cons {opening closing : Char} (h : closing ∉ x) (a : List Char) :
    enclosed? opening closing (x ++ closing :: a) = some (opening :: x ++ [closing], a) := by
  have hall := forall_mem_bne h
  have hstop : ∀ c ∈ (closing :: a).head?, (c != closing) = false := by simp
  rw [enclosed?, dropWhile_append_of_head hall hstop, takeWhile_append_of_head hall hstop]

/-- The text up to the closing decoration is a part that may be exchanged. -/
lemma rel_enclosed? {opening closing opening' : Char} (hopening : v.char opening opening')
    (hblank : isBlank opening = false) (hclosing : isWord closing = false)
    (hblank' : isBlank closing = false) (h : Variant v a b) :
    Option.Rel (ReadsName v (opening :: a) (opening' :: b)) (enclosed? opening closing a)
      (enclosed? opening' closing b) := by
  obtain ⟨ha, hb⟩ | ⟨x, y, a, b, rfl, rfl, hx, hy, hfits, hmark, hrest⟩ :=
    h.split hclosing hblank'
  · rw [enclosed?_of_not_mem ha, enclosed?_of_not_mem hb]
    exact .none
  · have hname : Fits v (opening :: x ++ [closing]) (opening' :: y ++ [closing]) :=
      ((Fits.char hopening hblank).trans hfits).trans (.char hmark hblank')
    rw [enclosed?_append_cons hx, enclosed?_append_cons hy]
    refine .some ⟨hname, ?_⟩
    have hall := Consumed.front (by simp) (by simp) hname hrest
    rwa [List.append_assoc, List.append_assoc] at hall

lemma component?_of_plain {c : Char} (hbracket : c ≠ '[') (hquote : c ≠ '"') (htick : c ≠ '\x60')
    (cs : List Char) : component? start (c :: cs) = identifier? start (c :: cs) := by
  rw [component?]
  · simpa using hbracket
  · simpa using hquote
  · simpa using htick

lemma component?_of_blankFront (hstart : StartsName v start) (h : BlankFront a) :
    component? start a = none := by
  cases a with
  | nil => rfl
  | cons c a =>
    have hne : ∀ m, isBlank m = false → c ≠ m := fun _ => ne_of_apply (h c rfl)
    rw [component?_of_plain (hne _ (by decide)) (hne _ (by decide)) (hne _ (by decide)),
      identifier?_of_blankFront hstart h]

lemma rel_component? (hstart : StartsName v start) (h : Variant v a b) :
    Option.Rel (ReadsName v a b) (component? start a) (component? start b) := by
  obtain ⟨c, d, a, b, rfl, rfl, hc, hblank, hrest⟩ | ⟨ha, hb⟩ := h.head_cases
  · have hsame : ∀ {m : Char}, isWord m = false → (c = m ↔ d = m) := fun hm => v.eq_iff hm hc
    have hbracket := hsame (m := '[') (by decide)
    have hquote := hsame (m := '"') (by decide)
    have htick := hsame (m := '\x60') (by decide)
    by_cases hc₁ : c = '['
    · obtain rfl := hbracket.mp hc₁
      subst hc₁
      exact rel_enclosed? hc hblank (by decide) (by decide) hrest
    by_cases hc₂ : c = '"'
    · obtain rfl := hquote.mp hc₂
      subst hc₂
      exact rel_enclosed? hc hblank (by decide) (by decide) hrest
    by_cases hc₃ : c = '\x60'
    · obtain rfl := htick.mp hc₃
      subst hc₃
      exact rel_enclosed? hc hblank (by decide) (by decide) hrest
    rw [component?_of_plain hc₁ hc₂ hc₃,
      component?_of_plain (mt hbracket.mpr hc₁) (mt hquote.mpr hc₂) (mt htick.mpr hc₃)]
    exact rel_imp (rel_identifier? hstart h) fun _ _ hfound => hfound.2
  · rw [component?_of_blankFront hstart ha, component?_of_blankFront hstart hb]
    exact .none

/-! ## Qualified names -/

/-- What is read behind a dot with blanks around it. -/
lemma dotted?_of_dot (hx : ∀ c ∈ x, isBlank c = true) (hy : ∀ c ∈ y, isBlank c = true)
    (ha : ∀ c ∈ a.head?, isBlank c = false) :
    dotted? start (x ++ '.' :: (y ++ a)) =
      (component? start a).map fun found => (x ++ '.' :: y ++ found.1, found.2) := by
  have hdot : ∀ c ∈ ('.' :: (y ++ a)).head?, isBlank c = false :=
    forall_mem_head?_cons.mpr (by decide)
  have hskip : skipBlanks (x ++ '.' :: (y ++ a)) = '.' :: (y ++ a) := dropWhile_append_of_head hx hdot
  rw [dotted?_of_skipBlanks hskip, takeWhile_append_of_head hx hdot, takeWhile_append_of_head hy ha,
    skipBlanks, dropWhile_append_of_head hy ha]

/-- A qualified name behind a dot is read with the dot. -/
lemma dottedTail_of_dot {name rest : List Char} (hx : ∀ c ∈ x, isBlank c = true)
    (hy : ∀ c ∈ y, isBlank c = true) (ha : ∀ c ∈ a.head?, isBlank c = false)
    (h : qualified? start a = some (name, rest)) :
    dottedTail start (x ++ '.' :: (y ++ a)) = (x ++ '.' :: y ++ name, rest) := by
  rw [qualified?_eq_map, Option.map_eq_some_iff] at h
  obtain ⟨⟨first, behind⟩, hread, hfound⟩ := h
  obtain ⟨rfl, rfl⟩ := Prod.mk.inj hfound
  have hdotted : dotted? start (x ++ '.' :: (y ++ a)) = some (x ++ '.' :: y ++ first, behind) := by
    rw [dotted?_of_dot hx hy ha, hread, Option.map_some]
  rw [dottedTail_of_some hdotted, List.append_assoc]

lemma dotted?_of_blank (hx : ∀ c ∈ x, isBlank c = true) : dotted? start x = none :=
  dotted?_of_no_dot (by simp [skipBlanks_eq_nil hx])

/-- Nothing is behind a dot that only blanks follow. -/
lemma dotted?_of_dot_blank (hstart : StartsName v start) (hx : ∀ c ∈ x, isBlank c = true)
    (hy : ∀ c ∈ y, isBlank c = true) : dotted? start (x ++ '.' :: y) = none := by
  have h : dotted? start (x ++ '.' :: (y ++ [])) = _ := dotted?_of_dot hx hy (by simp)
  rwa [List.append_nil, component?_of_blankFront hstart blankFront_nil, Option.map_none] at h

lemma rel_dotted? (hstart : StartsName v start) (h : Variant v a b) :
    Option.Rel (ReadsName v a b) (dotted? start a) (dotted? start b) := by
  obtain ⟨x, y, a', b', rfl, rfl, hfits, hx, hy, -, -, hfront⟩ | ⟨ha, hb⟩ := h.blankFront
  · obtain ⟨c, d, a, b, rfl, rfl, hc, hblank, hrest⟩ := hfront
    by_cases hdot : c = '.'
    · obtain rfl := (v.eq_iff (by decide) hc).mp hdot
      subst hdot
      obtain ⟨x', y', a', b', rfl, rfl, hfits', hx', hy', -, hname, hfront⟩ | ⟨ha, hb⟩ :=
        hrest.blankFront
      · obtain ⟨c', d', a, b, rfl, rfl, hc', hblank', -⟩ := hfront
        have hdotted : Fits v (x ++ '.' :: x') (y ++ '.' :: y') :=
          hfits.trans ((Fits.char hc hblank).trans hfits')
        rw [dotted?_of_dot hx hx' (forall_mem_head?_cons.mpr hblank'),
          dotted?_of_dot hy hy' (forall_mem_head?_cons.mpr (v.isBlank_eq hc' ▸ hblank'))]
        obtain ⟨hnone, hnone'⟩ | ⟨found, found', hsome, hsome', hnames, hmore⟩ :=
          rel_cases (rel_component? hstart hname)
        · rw [hnone, hnone']
          exact .none
        · have hall := Consumed.front (by simp) (by simp) hdotted hname
          rw [List.append_assoc, List.append_assoc] at hall
          rw [hsome, hsome']
          exact .some ⟨hdotted.trans hnames, hall.trans hmore⟩
      · rw [dotted?_of_dot_blank hstart hx ha, dotted?_of_dot_blank hstart hy hb]
        exact .none
    · have hnone : ∀ {x : List Char} {e : Char} {cs : List Char}, (∀ c ∈ x, isBlank c = true) →
          isBlank e = false → e ≠ '.' → dotted? start (x ++ e :: cs) = none := by
        intro x e cs hx he hne
        refine dotted?_of_no_dot fun after hdot => hne ?_
        rw [skipBlanks_of_blank hx, skipBlanks_of_not_blank he] at hdot
        exact (List.cons.inj hdot).1
      rw [hnone hx hblank hdot, hnone hy (v.isBlank_eq hc ▸ hblank)
        (mt (v.eq_iff (by decide) hc).mpr hdot)]
      exact .none
  · rw [dotted?_of_blank ha, dotted?_of_blank hb]
    exact .none

/-- By induction on the length, since every dot is taken off the text. -/
lemma rel_dottedTail {name name' : List Char} {c c' : List Char} (hstart : StartsName v start)
    (hname : Fits v name name') (h : Consumed v c c' a b) :
    ReadsName v c c' (name ++ (dottedTail start a).1, (dottedTail start a).2)
      (name' ++ (dottedTail start b).1, (dottedTail start b).2) := by
  induction hlength : a.length using Nat.strong_induction_on generalizing a b name name' with
  | h length ih =>
    subst hlength
    obtain ⟨hnone, hnone'⟩ | ⟨⟨more, rest⟩, ⟨more', rest'⟩, hsome, hsome', hmore, hrest⟩ :=
      rel_cases (rel_dotted? hstart h.variant)
    · rw [dottedTail_of_none hnone, dottedTail_of_none hnone', List.append_nil, List.append_nil]
      exact ⟨hname, h⟩
    · rw [dottedTail_of_some hsome, dottedTail_of_some hsome', ← List.append_assoc,
        ← List.append_assoc]
      exact ih rest.length hrest.length_lt (hname.trans hmore) (h.trans hrest) rfl

/-- **Qualified names** are read off both of two variants, or off neither. -/
lemma rel_qualified? (hstart : StartsName v start) (h : Variant v a b) :
    Option.Rel (ReadsName v a b) (qualified? start a) (qualified? start b) :=
  rel_bind (rel_component? hstart h) fun _ _ hfound => .some (rel_dottedTail hstart hfound.1 hfound.2)

lemma qualified?_nil : qualified? start [] = none :=
  rfl

/-- The name after a keyword. -/
lemma rel_nameAfter? (k : Keyword) (hopens : opensWord p = opensWord q) (h : Variant v a b) :
    Option.Rel (ReadsName v a b) (nameAfter? k p a) (nameAfter? k q b) := by
  refine rel_ite_opensWord hopens (rel_bind (rel_read? k h) fun mid mid' hmid => ?_)
  refine rel_skipSomeBlanks?_bind qualified?_nil hmid.variant fun rest rest' hrest => ?_
  have hname := rel_qualified? startsName_isFoldedNameStart hrest.variant
  exact rel_imp hname fun _ _ hfound => ⟨hfound.1, (hmid.trans hrest).trans hfound.2⟩

/-! ## Reported names -/

lemma Fits.joinPieces {sep : Char} (hsep : v.char sep sep) (hblank : isBlank sep = false)
    {ws us : List (List Char)} (h : List.Forall₂ (Fits v) ws us) :
    Fits v (Text.joinPieces sep ws) (Text.joinPieces sep us) := by
  induction h with
  | nil => exact .nil
  | @cons w u ws us hw h ih =>
    cases h with
    | nil => simpa using hw
    | cons hw' h =>
      rw [joinPieces_cons_cons, joinPieces_cons_cons]
      exact hw.trans ((Fits.char hsep hblank).trans ih)

lemma isDecoration_of_isBlank {c : Char} (h : isBlank c = true) : isDecoration c = false := by
  have hne : ∀ m, isBlank m = false → (c == m) = false := fun _ hm =>
    beq_eq_false_iff_ne.mpr (ne_of_apply h hm)
  simp [isDecoration, hne '[' (by decide), hne ']' (by decide), hne '"' (by decide),
    hne '\x60' (by decide)]

lemma Variation.isDecoration_eq {c d : Char} (h : v.char c d) : isDecoration c = isDecoration d := by
  simp only [isDecoration, v.beq_eq (m := '[') (by decide) h, v.beq_eq (m := ']') (by decide) h,
    v.beq_eq (m := '"') (by decide) h, v.beq_eq (m := '\x60') (by decide) h]

/-- The reported forms of variants may be exchanged. -/
lemma Variant.undecorate (h : Variant v a b) : Fits v (undecorate a) (undecorate b) := by
  have hplain : Variant v (a.filter fun c => !isDecoration c) (b.filter fun c => !isDecoration c) :=
    h.filter (fun hc => by rw [v.isDecoration_eq hc])
      fun c hc => by rw [isDecoration_of_isBlank hc, Bool.not_false]
  have hpieces := forall₂_pieces (m := '.') (by decide) (by decide) hplain
  refine .joinPieces (v.self (by decide) (by decide)) (by decide) ?_
  rw [List.forall₂_map_left_iff, List.forall₂_map_right_iff]
  exact hpieces.imp fun _ _ => Variant.trim

end SqlAdvice.Sql
