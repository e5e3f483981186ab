import SqlAdvice.Text.Lowercase
import SqlAdvice.Proofs.Distinct
import SqlAdvice.Proofs.VariantColumns

/-!
# Extraction commutes with lower case

A statement of ASCII characters and its lower-case form are variants (`lowerCase`), in which every
letter stands for a letter and everything else for itself.  So the extractors find the same in both,
once in the statement's own letters and once in lower case (`extraction_lower`).

Two table names may only differ in case.  Both are listed then, and in lower case they are one name,
so repeats are dropped there.
-/

namespace SqlAdvice.Sql

open SqlAdvice.Text

/-- Holds of the texts of ASCII characters. -/
def IsAscii (cs : List Char) : Prop :=
  ∀ c ∈ cs, c.toNat < 0x80

lemma forall_ascii {P : Char → Prop} (h : ∀ n < 0x80, P (Char.ofNat n)) {c : Char}
    (hc : c.toNat < 0x80) : P c := by
  have hcode := h c.toNat hc
  rwa [Char.ofNat_toNat] at hcode

/-- The lower-case form of an ASCII character reads the same, case aside. -/
lemma foldCase_toLower {c : Char} (hc : c.toNat < 0x80) :
    foldCase c = foldCase c.toLower ∧ upperLetter c = upperLetter c.toLower :=
  forall_ascii (P := fun c => foldCase c = foldCase c.toLower ∧
    upperLetter c = upperLetter c.toLower) (by decide +kernel) hc

/-- It plays the same part in words, and is the character itself outside them. -/
lemma isWord_toLower {c : Char} (hc : c.toNat < 0x80) :
    isWord c = isWord c.toLower ∧ isNameStart c = isNameStart c.toLower ∧
      (isWord c = false → c = c.toLower) :=
  forall_ascii (P := fun c => isWord c = isWord c.toLower ∧ isNameStart c = isNameStart c.toLower ∧
    (isWord c = false → c = c.toLower)) (by decide +kernel) hc

/-- A letter stands for itself in lower case. -/
def lowerCase : Variation where
  char c d := c.toNat < 0x80 ∧ d = c.toLower
  gap x y := x = y ∧ IsAscii x
  fold h := h.2 ▸ (foldCase_toLower h.1).1
  upper h := h.2 ▸ (foldCase_toLower h.1).2
  word h := h.2 ▸ (isWord_toLower h.1).1
  start h := h.2 ▸ (isWord_toLower h.1).2.1
  mark h hword := h.2 ▸ (isWord_toLower h.1).2.2 hword
  self hword hascii := ⟨hascii, (isWord_toLower hascii).2.2 hword⟩
  gap_nil := ⟨rfl, List.forall_mem_nil _⟩

variable {a b : List Char}

/-! ## Lower-case forms -/

/-- Of a text of ASCII characters every character is lower-cased by itself. -/
lemma lower_of_isAscii (h : IsAscii a) : lower a = a.map Char.toLower := by
  have hall : ∀ before, lowerAfter before a = a.map Char.toLower := by
    induction a with
    | nil => exact fun _ => rfl
    | cons c a ih =>
      intro before
      obtain ⟨hc, ha⟩ := List.forall_mem_cons.mp h
      have hsigma : c ≠ 'Σ' := by
        rintro rfl
        exact absurd hc (by decide)
      rw [lowerAfter, if_neg (by simpa using hsigma), lowerChar, if_pos hc, ih ha,
        List.singleton_append, List.map_cons]
  exact hall []

lemma toLower_of_isBlank {c : Char} (hblank : isBlank c = true) (hc : c.toNat < 0x80) :
    c.toLower = c :=
  ((isWord_toLower hc).2.2 (isWord_of_isBlank hblank)).symm

lemma eq_lower_of_forall₂ (h : List.Forall₂ lowerCase.char a b) : b = lower a := by
  have hboth : IsAscii a ∧ b = a.map Char.toLower := by
    induction h with
    | nil => exact ⟨List.forall_mem_nil _, rfl⟩
    | cons hc _ ih => exact ⟨List.forall_mem_cons.mpr ⟨hc.1, ih.1⟩, by rw [hc.2, ih.2, List.map_cons]⟩
  rw [hboth.2, lower_of_isAscii hboth.1]

/-- What can be read in step with an ASCII text in this way is its lower-case form. -/
lemma eq_lower_of_variant (h : Variant lowerCase a b) : b = lower a := by
  have hblanks : ∀ {x : List Char}, (∀ c ∈ x, isBlank c = true) → IsAscii x →
      x.map Char.toLower = x := by
    intro x hx hascii
    rw [List.map_congr_left fun c hc => toLower_of_isBlank (hx c hc) (hascii c hc), List.map_id']
  have hboth : IsAscii a ∧ b = a.map Char.toLower := by
    induction h with
    | ends h =>
      obtain ⟨hx, -, rfl, hascii⟩ := h
      exact ⟨hascii, (hblanks hx hascii).symm⟩
    | gap h _ _ _ ih =>
      obtain ⟨hx, -, rfl, hascii⟩ := h
      exact ⟨List.forall_mem_append.mpr ⟨hascii, ih.1⟩,
        by rw [List.map_append, hblanks hx hascii, ih.2]⟩
    | char hc _ _ ih =>
      exact ⟨List.forall_mem_cons.mpr ⟨hc.1, ih.1⟩, by rw [hc.2, ih.2, List.map_cons]⟩
  rw [hboth.2, lower_of_isAscii hboth.1]

lemma variant_lower (h : IsAscii a) : Variant lowerCase a (lower a) := by
  rw [lower_of_isAscii h]
  induction a with
  | nil => exact .nil
  | cons c a ih =>
    obtain ⟨hc, ha⟩ := List.forall_mem_cons.mp h
    rw [List.map_cons]
    by_cases hblank : isBlank c = true
    · have hgap : Gap lowerCase [c] [c] :=
        ⟨List.forall_mem_singleton.mpr hblank, List.forall_mem_singleton.mpr hblank, rfl,
          List.forall_mem_singleton.mpr hc⟩
      rw [toLower_of_isBlank hblank hc]
      exact .gap hgap (List.cons_ne_nil c []) (List.cons_ne_nil c []) (ih ha)
    · exact .char ⟨hc, rfl⟩ (Bool.eq_false_iff.mpr hblank) (ih ha)

lemma eq_map_lower {R : List Char → List Char → Prop} (hR : ∀ {a b}, R a b → b = lower a)
    {as bs : List (List Char)} (h : List.Forall₂ R as bs) : bs = as.map lower := by
  induction h with
  | nil => rfl
  | cons hab _ ih => rw [List.map_cons, hR hab, ih]

lemma eq_option_map_lower {R : List Char → List Char → Prop} (hR : ∀ {a b}, R a b → b = lower a)
    {x y : Option (List Char)} (h : Option.Rel R x y) : y = x.map lower := by
  cases h with
  | none => rfl
  | some hab => rw [Option.map_some, hR hab]

/-! ## What is extracted -/

/-- **Extraction commutes with lower case.**  Of an ASCII statement in lower case, the kind and the
wildcards are those of the statement; its join predicates, its conditions, its text to sort by and
its called names are those of the statement in lower case, and so are its tables, except that names
which are then repeated are dropped.  The columns of an ASCII predicate, condition or text to sort by
are in lower case those of its lower-case form. -/
theorem extraction_lower (cs : List Char) (h : ∀ c ∈ cs, c.toNat < 0x80) :
    statementKind (lower cs) = statementKind cs ∧
      hasWildcard (lower cs) = hasWildcard cs ∧
      joinPredicates (lower cs) = (joinPredicates cs).map lower ∧
      conditions (lower cs) = (conditions cs).map lower ∧
      functionCalls (lower cs) = (functionCalls cs).map lower ∧
      orderBy? (lower cs) = (orderBy? cs).map lower ∧
      tables (lower cs) = ((tables cs).map lower).eraseDups ∧
      joinColumns (lower cs) = (joinColumns cs).map lower ∧
      filterColumn? (lower cs) = (filterColumn? cs).map lower ∧
      sortColumns (lower cs) = (sortColumns cs).map lower := by
  have hvariant := variant_lower h
  have hplace : SamePlace lowerCase none cs none (lower cs) := .of_variant hvariant rfl
  have htables : tables (lower cs) = ((tables cs).map lower).eraseDups := by
    rw [tables_eq, tables_eq, eq_map_lower eq_lower_of_variant (forall₂_tableNames hplace),
      eraseDups_map_eraseDups]
  exact ⟨(statementKind_eq hplace).symm, (hasWildcard_eq hplace).symm,
    eq_map_lower eq_lower_of_forall₂ (forall₂_joinPredicates hplace),
    eq_map_lower eq_lower_of_forall₂ (forall₂_conditions hplace),
    eq_map_lower eq_lower_of_forall₂ (forall₂_functionCalls hplace),
    eq_option_map_lower eq_lower_of_forall₂ (rel_orderBy? hplace), htables,
    eq_map_lower eq_lower_of_forall₂ (forall₂_joinColumns hvariant),
    eq_option_map_lower eq_lower_of_forall₂ (rel_filterColumn? hplace),
    eq_map_lower eq_lower_of_variant (forall₂_sortColumns hvariant)⟩

/-- Keywords in mixed case, and two names of tables that differ in case only. -/
theorem extraction_lower_mixed :
    let cs := "Select Max(Id) From Orders o Join ORDERS x On o.Id = x.ID oRdEr By [o].Id".toList
    (∀ c ∈ cs, c.toNat < 0x80) ∧
      statementKind (lower cs) = .ok .select ∧
      joinPredicates (lower cs) = ["o.id = x.id".toList] ∧
      functionCalls (lower cs) = ["max".toList] ∧
      orderBy? (lower cs) = some "[o].id".toList ∧
      tables cs = ["Orders".toList, "ORDERS".toList] ∧ tables (lower cs) = ["orders".toList] := by
  intro cs
  have hall : cs.all (fun c => c.toNat < 0x80) = true := by decide +kernel
  have hascii : ∀ c ∈ cs, c.toNat < 0x80 := by simpa using List.all_eq_true.mp hall
  obtain ⟨hkind, -, hjoins, -, hcalls, horder, htables, -⟩ := extraction_lower cs hascii
  exact ⟨hascii, hkind.trans (by decide +kernel), hjoins.trans (by decide +kernel),
    hcalls.trans (by decide +kernel), horder.trans (by decide +kernel), by decide +kernel,
    htables.trans (by decide +kernel)⟩

end SqlAdvice.Sql
