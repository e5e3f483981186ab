import SqlAdvice.Proofs.Distinct
import SqlAdvice.Proofs.VariantExtraction

/-!
# Layout does not matter

How the words of a statement are set apart has no influence on what is extracted from it: the
statement and its squeezed form, with one space between words, are variants up to blanks
(`layout`), so every extractor finds the same in both (`extraction_squeeze`).

Only the name of a table may hold blanks that are reported as they stand, between decorations, as
in `FROM [order  lines]`.  So tables are the same once the blanks in their names are squeezed, and
as two names may be one then, repeats are dropped again.
-/

namespace SqlAdvice.Sql

open SqlAdvice.Text

/-- Any blanks may stand for any other blanks. -/
def layout : Variation where
  char := Eq
  gap _ _ := True
  fold h := congrArg foldCase h
  upper h := congrArg upperLetter h
  word h := congrArg isWord h
  start h := congrArg isNameStart h
  mark h _ := h
  self _ _ := rfl
  gap_nil := trivial

variable {p q : Option Char} {a b x y : List Char}

lemma eq_of_forall₂_layout (h : List.Forall₂ layout.char a b) : a = b :=
  List.forall₂_eq_eq_eq ▸ h

lemma eq_of_forall₂_forall₂_layout {as bs : List (List Char)}
    (h : List.Forall₂ (List.Forall₂ layout.char) as bs) : as = bs := by
  have heq : List.Forall₂ Eq as bs := h.imp fun _ _ => eq_of_forall₂_layout
  exact List.forall₂_eq_eq_eq ▸ heq

/-! ## Squeezed texts -/

/-- Where a word is over there are blanks, unless it is the last one. -/
lemma exists_blank_front (h : a.head?.all isBlank = true) (hwords : words a ≠ []) :
    ∃ x, a = x ++ skipBlanks a ∧ x ≠ [] ∧ ∀ c ∈ x, isBlank c = true := by
  refine ⟨a.takeWhile isBlank, List.takeWhile_append_dropWhile.symm, fun hnil => ?_,
    fun c hc => List.mem_takeWhile_imp hc⟩
  cases a with
  | nil => exact hwords rfl
  | cons c a =>
    have hc : isBlank c = true := by simpa using h
    simp [hc] at hnil

lemma gap_layout (hx : ∀ c ∈ x, isBlank c = true) (hy : ∀ c ∈ y, isBlank c = true) :
    Gap layout x y :=
  ⟨hx, hy, trivial⟩

/-- By induction on the text, along the words that are read off it. -/
lemma variant_squeeze (cs : List Char) : Variant layout (skipBlanks cs) (squeeze cs) := by
  induction cs with
  | nil => exact .nil
  | cons c cs ih =>
    by_cases hc : isBlank c = true
    · have hskip : skipBlanks (c :: cs) = skipBlanks cs :=
        skipBlanks_of_blank (x := [c]) (List.forall_mem_singleton.mpr hc) cs
      rwa [hskip, squeeze, words, if_pos hc, ← squeeze]
    have hblank : isBlank c = false := Bool.eq_false_iff.mpr hc
    rw [skipBlanks_of_not_blank hblank, squeeze, words, if_neg hc]
    split
    · rename_i hends
      cases hwords : words cs with
      | nil =>
        exact .char rfl hblank (.ends (gap_layout (words_eq_nil_iff.mp hwords) (by simp)))
      | cons w ws =>
        obtain ⟨x, hx, hne, hxblank⟩ := exists_blank_front hends (by simp [hwords])
        have hspace : Gap layout x [' '] :=
          gap_layout hxblank (List.forall_mem_singleton.mpr (by decide))
        have hjoin : List.intercalate [' '] ([c] :: w :: ws) = c :: ([' '] ++ squeeze cs) := by
          rw [squeeze, hwords]
          exact joinPieces_cons_cons ' ' [c] w ws
        have hrest := Variant.gap hspace hne (List.cons_ne_nil ' ' []) ih
        rw [← hx] at hrest
        rw [hjoin]
        exact .char rfl hblank hrest
    · rename_i hgoes
      obtain ⟨d, cs, rfl⟩ : ∃ d rest, cs = d :: rest :=
        List.exists_cons_of_ne_nil fun hnil => hgoes (by rw [hnil]; rfl)
      have hd : isBlank d = false := by simpa using hgoes
      rw [skipBlanks_of_not_blank hd, squeeze] at ih
      obtain ⟨w, ws, hwords⟩ := List.exists_cons_of_ne_nil (words_cons_ne_nil hd cs)
      have hjoin : List.intercalate [' '] ((c :: w) :: ws) = c :: List.intercalate [' '] (w :: ws) := by
        cases ws with
        | nil => simp [List.intercalate]
        | cons u us => exact (joinPieces_cons_cons ' ' _ u us).trans (by
            rw [List.cons_append, ← joinPieces_cons_cons]; rfl)
      rw [hwords] at ih ⊢
      rw [hjoin]
      exact .char rfl hblank ih

/-- Behind the blanks in front of it a text is read like its squeezed form. -/
lemma exists_variant_squeeze (cs : List Char) :
    ∃ x b, cs = x ++ b ∧ (∀ c ∈ x, isBlank c = true) ∧ Variant layout b (squeeze cs) :=
  ⟨cs.takeWhile isBlank, skipBlanks cs, List.takeWhile_append_dropWhile.symm,
    fun _ => List.mem_takeWhile_imp, variant_squeeze cs⟩

/-- A text and its squeezed form go on in step from their beginnings. -/
lemma samePlace_squeeze (cs : List Char) : SamePlace layout none cs none (squeeze cs) := by
  have hblank : ∀ c ∈ cs.takeWhile isBlank, isBlank c = true := fun _ => List.mem_takeWhile_imp
  have hsplit : cs.takeWhile isBlank ++ skipBlanks cs = cs := List.takeWhile_append_dropWhile
  by_cases hne : cs.takeWhile isBlank = []
  · rw [hne, List.nil_append] at hsplit
    have hvariant := variant_squeeze cs
    rw [hsplit] at hvariant
    exact .of_variant hvariant rfl
  · have hfront : SamePlace layout none (cs.takeWhile isBlank ++ skipBlanks cs) none
        ([] ++ squeeze cs) :=
      .gap (gap_layout hblank (by simp)) hne
        (.of_variant (variant_squeeze cs) (opensWord_lastChar_of_ne_nil hblank hne))
    rwa [hsplit, List.nil_append] at hfront

/-! ## What is extracted -/

lemma squeeze_eq_of_layout (h : Variant layout a b) : squeeze a = squeeze b :=
  eq_of_forall₂_layout (forall₂_squeeze h)

/-- The names of tables agree once their blanks are squeezed. -/
lemma map_squeeze_tableNames {as bs : List (List Char)}
    (h : List.Forall₂ (Variant layout) as bs) : as.map squeeze = bs.map squeeze := by
  induction h with
  | nil => rfl
  | cons hname _ ih => rw [List.map_cons, List.map_cons, squeeze_eq_of_layout hname, ih]

/-- **Layout does not matter.**  Every extractor finds the same in a statement and in its squeezed
form, whose words are one space apart: the kind, or the failure to tell it, the join predicates, the
conditions, the text to sort by and its columns, the wildcards and the called names.  The tables are
the same once the blanks in their names are squeezed and names that are then repeated are
dropped. -/
theorem extraction_squeeze (sql : List Char) :
    statementKind (squeeze sql) = statementKind sql ∧
      joinPredicates (squeeze sql) = joinPredicates sql ∧
      conditions (squeeze sql) = conditions sql ∧
      orderBy? (squeeze sql) = orderBy? sql ∧
      (orderBy? (squeeze sql)).elim [] sortColumns = (orderBy? sql).elim [] sortColumns ∧
      hasWildcard (squeeze sql) = hasWildcard sql ∧
      functionCalls (squeeze sql) = functionCalls sql ∧
      ((tables (squeeze sql)).map squeeze).eraseDups = ((tables sql).map squeeze).eraseDups := by
  have hplace := samePlace_squeeze sql
  have horder : orderBy? (squeeze sql) = orderBy? sql := by
    obtain ⟨hnone, hnone'⟩ | ⟨clause, clause', hsome, hsome', hclause⟩ :=
      rel_cases (rel_orderBy? hplace)
    · rw [hnone, hnone']
    · rw [hsome, hsome', eq_of_forall₂_layout hclause]
  have htables : ((tables (squeeze sql)).map squeeze).eraseDups =
      ((tables sql).map squeeze).eraseDups := by
    rw [tables_eq, tables_eq, eraseDups_map_eraseDups, eraseDups_map_eraseDups,
      map_squeeze_tableNames (forall₂_tableNames hplace)]
  exact ⟨(statementKind_eq hplace).symm,
    (eq_of_forall₂_forall₂_layout (forall₂_joinPredicates hplace)).symm,
    (eq_of_forall₂_forall₂_layout (forall₂_conditions hplace)).symm, horder, by rw [horder],
    (hasWildcard_eq hplace).symm,
    (eq_of_forall₂_forall₂_layout (forall₂_functionCalls hplace)).symm, htables⟩

/-- Between decorations the blanks of a name are kept, so the tables themselves may differ. -/
example :
    tables "select 1 from [order\n lines]".toList = ["order\n lines".toList] ∧
      tables (squeeze "select 1 from [order\n lines]".toList) = ["order lines".toList] := by
  decide +kernel

end SqlAdvice.Sql
