import SqlAdvice.Proofs.VariantNames

/-!
# Which names are read

The recognisers take names off the front of a text step by step.  What a name is can be said without
them: an identifier, or any text in a decoration that does not hold the second mark of it
(`IsName`); and names with dots between neighbours, which may have blanks around them, are a
qualified name (`IsQualified`).

A text may begin with several qualified names, since the front of an identifier is one too and what
stands in front of a dot is another.  The recogniser takes the longest one, in all texts that begin
with one (`qualified?_eq_some_iff`).  One direction is read off its steps (`isQualified_append` for
what it does behind the first name).  For the other one a qualified name is put in front of any
text: it is read, with nothing more than some further part of the text (`exists_qualified?_append`).
-/

namespace SqlAdvice.Sql

open SqlAdvice.Text

variable {start : Char → Bool} {cs name rest v w x y : List Char} {opening closing : Char}

/-! ## Names -/

/-- The first and the second mark of every decoration. -/
def enclosures : List (Char × Char) :=
  [('[', ']'), ('"', '"'), ('\x60', '\x60')]

/-- An identifier, or a decorated text. -/
inductive IsName (start : Char → Bool) : List Char → Prop
  | identifier {c : Char} {more : List Char} (hc : start c = true)
      (hmore : ∀ d ∈ more, isNameRest d = true) : IsName start (c :: more)
  | enclosed {opening closing : Char} {x : List Char} (h : (opening, closing) ∈ enclosures)
      (hx : closing ∉ x) : IsName start (opening :: (x ++ [closing]))

/-- Names with dots between neighbours, and blanks around the dots. -/
inductive IsQualified (start : Char → Bool) : List Char → Prop
  | name {w : List Char} (h : IsName start w) : IsQualified start w
  | dotted {w x y v : List Char} (h : IsName start w) (hx : ∀ c ∈ x, isBlank c = true)
      (hy : ∀ c ∈ y, isBlank c = true) (hv : IsQualified start v) :
      IsQualified start (w ++ (x ++ '.' :: (y ++ v)))

lemma enclosures_cases (h : (opening, closing) ∈ enclosures) :
    (opening = '[' ∧ closing = ']') ∨ (opening = '"' ∧ closing = '"') ∨
      (opening = '\x60' ∧ closing = '\x60') := by
  simpa [enclosures] using h

lemma component?_of_enclosures (h : (opening, closing) ∈ enclosures) (cs : List Char) :
    component? start (opening :: cs) = enclosed? opening closing cs := by
  obtain ⟨rfl, rfl⟩ | ⟨rfl, rfl⟩ | ⟨rfl, rfl⟩ := enclosures_cases h <;> rfl

/-- A decorated text ends at the first second mark. -/
lemma enclosed?_eq_some_iff : enclosed? opening closing cs = some (w, rest) ↔
    ∃ x, cs = x ++ closing :: rest ∧ closing ∉ x ∧ w = opening :: (x ++ [closing]) := by
  constructor
  · intro h
    by_cases hmem : closing ∈ cs
    · obtain ⟨x, behind, rfl, hx⟩ := List.eq_append_cons_of_mem hmem
      rw [enclosed?_append_cons hx] at h
      obtain ⟨rfl, rfl⟩ := Prod.mk.inj (Option.some.inj h)
      exact ⟨x, rfl, hx, rfl⟩
    · rw [enclosed?_of_not_mem hmem] at h
      cases h
  · rintro ⟨x, rfl, hx, rfl⟩
    exact enclosed?_append_cons hx rest

/-- What is read as a name is one. -/
lemma isName_of_component? (h : component? start cs = some (w, rest)) :
    cs = w ++ rest ∧ IsName start w := by
  have henclosed : ∀ {opening closing : Char} {cs : List Char},
      (opening, closing) ∈ enclosures → enclosed? opening closing cs = some (w, rest) →
        opening :: cs = w ++ rest ∧ IsName start w := by
    intro opening closing cs hmarks hread
    obtain ⟨x, rfl, hx, rfl⟩ := enclosed?_eq_some_iff.mp hread
    exact ⟨by simp, .enclosed hmarks hx⟩
  rw [component?.eq_def] at h
  split at h
  · exact henclosed (by decide) h
  · exact henclosed (by decide) h
  · exact henclosed (by decide) h
  · obtain ⟨hcs, ⟨c, more, rfl, hc, hmore⟩, -⟩ := identifier?_eq_some_iff.mp h
    exact ⟨hcs, .identifier hc hmore⟩

/-! ## Names in front of a text

What begins an identifier is now a character that identifiers go on with, so that it is neither a
mark nor a blank. -/

lemma isNameRest_of_isFoldedNameStart {c : Char} (h : isFoldedNameStart c = true) :
    isNameRest c = true := by
  by_contra hrest
  have hword : isWord c = false := by
    rw [isNameRest, Bool.or_eq_true, not_or, Bool.not_eq_true] at hrest
    exact hrest.1
  rw [isFoldedNameStart, foldCase_of_isWord_eq_false hword] at h
  exact hrest (isNameRest_of_isNameStart h)

section Start

variable (hstart : ∀ c, start c = true → isNameRest c = true)

include hstart

/-- No name begins with a blank. -/
lemma IsName.isBlank_head (h : IsName start w) (t : List Char) :
    ∀ c ∈ (w ++ t).head?, isBlank c = false := by
  cases h with
  | identifier hc _ => exact forall_mem_head?_cons.mpr (isBlank_of_isNameRest (hstart _ hc))
  | enclosed h _ =>
    obtain ⟨rfl, -⟩ | ⟨rfl, -⟩ | ⟨rfl, -⟩ := enclosures_cases h
    all_goals exact forall_mem_head?_cons.mpr (by decide)

lemma IsQualified.isBlank_head (h : IsQualified start w) (t : List Char) :
    ∀ c ∈ (w ++ t).head?, isBlank c = false := by
  cases h with
  | name h => exact h.isBlank_head hstart t
  | dotted h _ _ _ =>
    rw [List.append_assoc]
    exact h.isBlank_head hstart _

/-- A name in front of a text is read.  If it is an identifier it may go on in the text. -/
lemma exists_component?_append (h : IsName start v) (t : List Char) :
    ∃ more rest, t = more ++ rest ∧ (∀ c ∈ more, isNameRest c = true) ∧
      component? start (v ++ t) = some (v ++ more, rest) := by
  cases h with
  | @identifier c more hc hmore =>
    have hne : ∀ m, isNameRest m = false → c ≠ m := fun m => ne_of_apply (hstart c hc)
    have hrest : ∀ d ∈ (t.dropWhile isNameRest).head?, isNameRest d = false := by
      intro d hd
      have hnot := List.head?_dropWhile_not isNameRest t
      rwa [Option.mem_def.mp hd] at hnot
    have htake : ∀ d ∈ t.takeWhile isNameRest, isNameRest d = true := fun _ =>
      List.mem_takeWhile_imp
    refine ⟨t.takeWhile isNameRest, t.dropWhile isNameRest,
      List.takeWhile_append_dropWhile.symm, htake, ?_⟩
    rw [List.cons_append, component?_of_plain (hne _ (by decide)) (hne _ (by decide))
      (hne _ (by decide))]
    refine identifier?_eq_some_iff.mpr ⟨?_, ⟨c, more ++ t.takeWhile isNameRest, rfl, hc, ?_⟩, hrest⟩
    · rw [List.cons_append, List.cons_append, List.append_assoc, List.takeWhile_append_dropWhile]
    · exact List.forall_mem_append.mpr ⟨hmore, htake⟩
  | @enclosed opening closing x h hx =>
    refine ⟨[], t, rfl, List.forall_mem_nil _, ?_⟩
    rw [List.append_nil, List.cons_append, component?_of_enclosures h]
    exact enclosed?_eq_some_iff.mpr ⟨x, by simp, hx, rfl⟩

end Start

/-! ## Qualified names -/

/-- What is read behind a name is a dot and another name. -/
lemma exists_of_dotted? (h : dotted? start cs = some (name, rest)) :
    ∃ x y w, (∀ c ∈ x, isBlank c = true) ∧ (∀ c ∈ y, isBlank c = true) ∧ IsName start w ∧
      name = x ++ '.' :: (y ++ w) ∧ cs = name ++ rest := by
  by_cases hdot : ∃ after, skipBlanks cs = '.' :: after
  · obtain ⟨after, hafter⟩ := hdot
    rw [dotted?_of_skipBlanks hafter, Option.map_eq_some_iff] at h
    obtain ⟨⟨w, behind⟩, hread, hfound⟩ := h
    obtain ⟨rfl, rfl⟩ := Prod.mk.inj hfound
    obtain ⟨hsplit, hw⟩ := isName_of_component? hread
    refine ⟨cs.takeWhile isBlank, after.takeWhile isBlank, w, fun _ => List.mem_takeWhile_imp,
      fun _ => List.mem_takeWhile_imp, hw, by simp, ?_⟩
    calc cs = cs.takeWhile isBlank ++ '.' :: after := by
          rw [← hafter, skipBlanks, List.takeWhile_append_dropWhile]
      _ = cs.takeWhile isBlank ++ '.' :: (after.takeWhile isBlank ++ (w ++ behind)) := by
          rw [← hsplit, skipBlanks, List.takeWhile_append_dropWhile]
      _ = _ := by simp
  · rw [dotted?_of_no_dot fun after hafter => hdot ⟨after, hafter⟩] at h
    cases h

/-- What is taken off a text behind a name makes a qualified name of it.  By induction on the length
of the text, since every dot is taken off it. -/
lemma isQualified_append (start : Char → Bool) (cs : List Char) :
    cs = (dottedTail start cs).1 ++ (dottedTail start cs).2 ∧
      ∀ w, IsName start w → IsQualified start (w ++ (dottedTail start cs).1) := by
  induction hlength : cs.length using Nat.strong_induction_on generalizing cs with
  | h length ih =>
    subst hlength
    cases hdotted : dotted? start cs with
    | none =>
      rw [dottedTail_of_none hdotted]
      exact ⟨rfl, fun w hw => (List.append_nil w).symm ▸ .name hw⟩
    | some found =>
      obtain ⟨name, rest⟩ := found
      obtain ⟨hrest, hmore⟩ := ih rest.length (dotted?_length hdotted) rest rfl
      obtain ⟨x, y, v, hx, hy, hv, rfl, hcs⟩ := exists_of_dotted? hdotted
      rw [dottedTail_of_some hdotted]
      refine ⟨by rw [List.append_assoc, ← hrest, ← hcs], fun w hw => ?_⟩
      have hqualified := IsQualified.dotted hw hx hy (hmore v hv)
      simpa using hqualified

/-- What is read as a qualified name is one. -/
lemma isQualified_of_qualified? (h : qualified? start cs = some (name, rest)) :
    cs = name ++ rest ∧ IsQualified start name := by
  rw [qualified?_eq_map, Option.map_eq_some_iff] at h
  obtain ⟨⟨w, behind⟩, hread, hfound⟩ := h
  obtain ⟨rfl, rfl⟩ := Prod.mk.inj hfound
  obtain ⟨hcs, hw⟩ := isName_of_component? hread
  obtain ⟨hbehind, hmore⟩ := isQualified_append start behind
  exact ⟨by rw [List.append_assoc, ← hbehind, hcs], hmore w hw⟩

section Start

variable (hstart : ∀ c, start c = true → isNameRest c = true)

include hstart

/-- A qualified name in front of a text is read, perhaps with some more of the text. -/
lemma exists_qualified?_append (h : IsQualified start v) (t : List Char) :
    ∃ more rest, t = more ++ rest ∧ qualified? start (v ++ t) = some (v ++ more, rest) := by
  induction h with
  | @name w hw =>
    obtain ⟨more, behind, rfl, -, hread⟩ := exists_component?_append hstart hw t
    obtain ⟨hbehind, -⟩ := isQualified_append start behind
    refine ⟨more ++ (dottedTail start behind).1, (dottedTail start behind).2, ?_, ?_⟩
    · rw [List.append_assoc, ← hbehind]
    · rw [qualified?_eq_map, hread, Option.map_some, List.append_assoc]
  | @dotted w x y v hw hx hy hv ih =>
    obtain ⟨more, rest, rfl, hmore⟩ := ih
    obtain ⟨front, behind, hsplit, hfront, hread⟩ :=
      exists_component?_append hstart hw (x ++ '.' :: (y ++ (v ++ (more ++ rest))))
    -- the identifier does not go on: what follows it is a blank or a dot
    obtain rfl : front = [] := by
      by_contra hne
      obtain ⟨c, front, rfl⟩ := List.exists_cons_of_ne_nil hne
      have hc : isNameRest c = true := hfront c List.mem_cons_self
      cases x with
      | nil =>
        obtain rfl : '.' = c := (List.cons.inj hsplit).1
        exact absurd hc (by decide)
      | cons d x =>
        obtain rfl : d = c := (List.cons.inj hsplit).1
        rw [isNameRest_of_isBlank (hx d List.mem_cons_self)] at hc
        exact Bool.false_ne_true hc
    have htail := dottedTail_of_dot hx hy (hv.isBlank_head hstart (more ++ rest)) hmore
    refine ⟨more, rest, rfl, ?_⟩
    rw [List.append_nil] at hread
    rw [List.nil_append] at hsplit
    have hassoc : w ++ (x ++ '.' :: (y ++ v)) ++ (more ++ rest) =
        w ++ (x ++ '.' :: (y ++ (v ++ (more ++ rest)))) := by simp
    rw [hassoc, qualified?_eq_map, hread, Option.map_some, ← hsplit, htail]
    simp

/-- **Longest match.**  A name is read off a text exactly if it is the longest qualified name that
the text begins with. -/
theorem qualified?_eq_some_iff : qualified? start cs = some (name, rest) ↔
    cs = name ++ rest ∧ IsQualified start name ∧
      ∀ v, IsQualified start v → v <+: cs → v <+: name := by
  constructor
  · intro h
    obtain ⟨rfl, hname⟩ := isQualified_of_qualified? h
    refine ⟨rfl, hname, fun v hv hprefix => ?_⟩
    obtain ⟨t, ht⟩ := hprefix
    obtain ⟨more, rest', -, hread⟩ := exists_qualified?_append hstart hv t
    rw [ht, h] at hread
    rw [(Prod.mk.inj (Option.some.inj hread)).1]
    exact List.prefix_append v more
  · rintro ⟨rfl, hname, hlongest⟩
    obtain ⟨more, rest', rfl, hread⟩ := exists_qualified?_append hstart hname rest
    obtain ⟨-, hmore⟩ := isQualified_of_qualified? hread
    have hlength := (hlongest _ hmore (by simp)).length_le
    obtain rfl : more = [] := by
      rw [List.length_append] at hlength
      exact List.length_eq_zero_iff.mp (by omega)
    rwa [List.append_nil] at hread

end Start

end SqlAdvice.Sql
