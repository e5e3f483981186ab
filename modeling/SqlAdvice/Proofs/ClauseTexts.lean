import SqlAdvice.Proofs.PredicateSpans
import SqlAdvice.Proofs.TopLevelCuts

/-!
# The texts that are reported of clauses

Join predicates, conditions and the text to sort by are fragments of the statement that are cleaned
(`exists_fragment`).  So each of them is a text of words one space apart (`IsSpaced`), and it is
cleaned already unless it ends with a terminator.

That it does not end with one cannot be said of every statement.  Cleaning takes the terminators at
the end off once, and the blanks that they leave, so that of `x ; ;` the first one stays
(`terminators_remain`).  It holds where no blanks separate terminators (`clauseTexts_isSpaced`).
-/

namespace SqlAdvice.Sql

open SqlAdvice.Text

variable {prev quote : Option Char} {depth : Nat} {ks : List Keyword}
  {b cs part rest sql x : List Char} {parts : List (List Char)}

/-! ## Fragments -/

lemma infix_of_mem_spans {texts : List (List Char)} (h : Spans prev quote b texts) :
    ∀ x ∈ texts, x <:+: b := by
  induction h with
  | done => exact List.forall_mem_nil _
  | pass _ _ ih => exact fun x hx => (ih x hx).trans (List.suffix_cons _ _).isInfix
  | @found _ w span rest _ _ _ _ ih =>
    refine List.forall_mem_cons.mpr ⟨List.infix_append' w span rest, fun x hx => ?_⟩
    rw [← List.append_assoc]
    exact (ih x hx).trans (List.suffix_append _ rest).isInfix

lemma infix_of_mem_parts (h : Parts prev quote depth b part parts) :
    part <+: b ∧ ∀ x ∈ parts, x <:+: b := by
  induction h with
  | done => exact ⟨List.prefix_rfl, List.forall_mem_nil _⟩
  | keep _ _ ih =>
    exact ⟨List.cons_prefix_cons.mpr ⟨rfl, ih.1⟩,
      fun x hx => (ih.2 x hx).trans (List.suffix_cons _ _).isInfix⟩
  | @cut _ w rest _ _ _ _ _ ih =>
    have hrest : rest <:+: w ++ rest := (List.suffix_append w rest).isInfix
    exact ⟨List.nil_prefix, List.forall_mem_cons.mpr
      ⟨ih.1.isInfix.trans hrest, fun x hx => (ih.2 x hx).trans hrest⟩⟩

lemma upToPhrase_isPrefix (phrases : List (List Keyword)) (prev : Option Char) (cs : List Char) :
    upToPhrase phrases prev cs <+: cs := by
  induction cs generalizing prev with
  | nil => exact List.prefix_rfl
  | cons c cs ih =>
    rw [upToPhrase]
    split
    · exact List.nil_prefix
    · exact List.cons_prefix_cons.mpr ⟨rfl, ih (some c)⟩

lemma afterPhrase?_suffix (hks : ks ≠ []) (h : afterPhrase? ks prev cs = some rest) :
    rest <:+ cs := by
  induction cs generalizing prev with
  | nil => cases h
  | cons c cs ih =>
    rw [afterPhrase?] at h
    split at h
    · rename_i behind hfound
      obtain ⟨-, ⟨w, hcs, -⟩, -⟩ := (wordPhrase?_eq_some_iff hks).mp hfound
      obtain rfl := Option.some.inj h
      exact ⟨w, hcs.symm⟩
    · exact (ih h).trans (List.suffix_cons c cs)

lemma orderBy?_of_afterPhrase? (h : afterPhrase? [.ORDER, .BY] none sql = some rest) :
    orderBy? sql = if clean rest = [] then none else some (clean rest) := by
  rw [orderBy?, h]
  simp only [List.isEmpty_iff]

lemma exists_of_orderBy? (h : orderBy? sql = some x) :
    ∃ rest, afterPhrase? [.ORDER, .BY] none sql = some rest ∧ clean rest = x ∧ x ≠ [] := by
  cases hrest : afterPhrase? [.ORDER, .BY] none sql with
  | none =>
    rw [orderBy?, hrest] at h
    cases h
  | some rest =>
    rw [orderBy?_of_afterPhrase? hrest] at h
    obtain ⟨hne, hx⟩ := Option.ite_none_left_eq_some.mp h
    obtain rfl := Option.some.inj hx
    exact ⟨rest, rfl, rfl, hne⟩

/-- The texts that are reported of the clauses of a statement. -/
def clauseTexts (sql : List Char) : List (List Char) :=
  joinPredicates sql ++ conditions sql ++ (orderBy? sql).toList

/-- **Fragments.**  What is reported of a clause is a fragment of the statement, cleaned. -/
lemma exists_fragment (h : x ∈ clauseTexts sql) :
    ∃ fragment, fragment <:+: sql ∧ clean fragment = x ∧ x ≠ [] := by
  obtain h | h := List.mem_append.mp h
  · obtain h | h := List.mem_append.mp h
    · obtain ⟨fragment, hmem, hclean⟩ := exists_of_mem_cleanAll h
      exact ⟨fragment, infix_of_mem_spans (spans_predicateSpans none none sql) _ hmem, hclean⟩
    · rw [conditions] at h
      split at h
      · cases h
      · rename_i rest hrest
        have hclause : upToPhrase whereEnds none rest <:+: sql :=
          (upToPhrase_isPrefix whereEnds none rest).isInfix.trans
            (afterPhrase?_suffix (by simp) hrest).isInfix
        obtain ⟨fragment, hmem, hclean⟩ := exists_of_mem_cleanAll h
        obtain ⟨hpart, hparts⟩ :=
          infix_of_mem_parts (parts_topLevelParts none none 0 (upToPhrase whereEnds none rest))
        refine ⟨fragment, List.IsInfix.trans ?_ hclause, hclean⟩
        obtain rfl | hmem := List.mem_cons.mp hmem
        · exact hpart.isInfix
        · exact hparts fragment hmem
  · obtain ⟨rest, hrest, hclean⟩ := exists_of_orderBy? (Option.mem_toList.mp h)
    exact ⟨rest, (afterPhrase?_suffix (by simp) hrest).isInfix, hclean⟩

/-! ## Spaces -/

/-- A text that holds something, with no blanks at its ends and with only single spaces for
blanks. -/
structure IsSpaced (x : List Char) : Prop where
  ne_nil : x ≠ []
  ends : NoBlankEnds x
  spaces : ∀ c ∈ x, isBlank c = true → c = ' '
  single : ¬[' ', ' '] <:+: x

lemma isSpaced_of_tidy (h : Tidy x) : IsSpaced x :=
  ⟨h.ne_nil, h.noBlankEnds, h.eq_space, h.not_infix_spaces⟩

/-! ## Terminators -/

/-- If nothing separates terminators, what consists of them and of blanks is cleaned away. -/
lemma clean_eq_nil_iff (h : ¬SeparatesTerminators cs) :
    clean cs = [] ↔ ∀ c ∈ cs, isBlank c = true ∨ c = ';' := by
  obtain ⟨d, tail, rfl, htail, hclean⟩ := exists_clean_eq_squeeze cs
  rw [List.forall_mem_append, and_iff_left htail]
  constructor
  · intro hnil
    rw [hclean, squeeze_eq_nil_iff] at hnil
    exact fun c hc => .inl (hnil c hc)
  · intro hall
    by_contra hne
    obtain ⟨c, hc⟩ := Option.ne_none_iff_exists'.mp (mt List.getLast?_eq_none_iff.mp hne)
    have hblank : isBlank c = false := (tidy_clean hne).noBlankEnds.last c hc
    have hmem : c ∈ d := by
      have hdrop := dropTailWhile_prefix isBlank d
      rw [hclean, getLast?_squeeze] at hc
      exact hdrop.subset (List.mem_of_getLast? hc)
    obtain hyes | rfl := hall c hmem
    · exact Bool.false_ne_true (hblank.symm.trans hyes)
    · exact h (separatesTerminators_of_clean hc)

lemma SeparatesTerminators.two_le_count (h : SeparatesTerminators cs) : 2 ≤ cs.count ';' := by
  obtain ⟨a, gap, b, rfl, -, -⟩ := h
  simp only [List.count_append, List.count_cons_self]
  omega

/-- **Clause texts.**  Every join predicate, every condition and the text to sort by is spaced, and
cleaning it again changes it only if it ends with a terminator.  None of them ends with one if no
blanks separate terminators in the statement, and then there is no text to sort by where only blanks
and terminators follow `ORDER BY`. -/
theorem clauseTexts_isSpaced (sql : List Char) :
    (∀ x ∈ clauseTexts sql, IsSpaced x ∧ (clean x = x ↔ x.getLast? ≠ some ';')) ∧
      (¬SeparatesTerminators sql →
        (∀ x ∈ clauseTexts sql, x.getLast? ≠ some ';' ∧ clean x = x) ∧
        ∀ rest, afterPhrase? [.ORDER, .BY] none sql = some rest →
          (orderBy? sql = none ↔ ∀ c ∈ rest, isBlank c = true ∨ c = ';')) := by
  have htidy : ∀ x ∈ clauseTexts sql, Tidy x := by
    intro x hx
    obtain ⟨_, -, rfl, hne⟩ := exists_fragment hx
    exact tidy_clean hne
  have hself : ∀ x ∈ clauseTexts sql, clean x = x ↔ x.getLast? ≠ some ';' :=
    fun x hx => clean_eq_self_iff (htidy x hx)
  refine ⟨fun x hx => ⟨isSpaced_of_tidy (htidy x hx), hself x hx⟩, fun hsql =>
    ⟨fun x hx => ?_, fun rest hrest => ?_⟩⟩
  · have hlast : x.getLast? ≠ some ';' := by
      obtain ⟨_, hinfix, rfl, -⟩ := exists_fragment hx
      exact fun hlast => hsql ((separatesTerminators_of_clean hlast).mono hinfix)
    exact ⟨hlast, (hself x hx).mpr hlast⟩
  · have hsuffix := (afterPhrase?_suffix (by simp) hrest).isInfix
    rw [← clean_eq_nil_iff fun hseparates => hsql (hseparates.mono hsuffix),
      orderBy?_of_afterPhrase? hrest]
    simp

theorem clauseTexts_isSpaced_order_nothing :
    let sql := "select a from t join u on t.x =\n u.y where a = 1 and\tb = 2 order by ;".toList
    ¬SeparatesTerminators sql ∧ afterPhrase? [.ORDER, .BY] none sql = some " ;".toList ∧
      clauseTexts sql = ["t.x = u.y".toList, "a = 1".toList, "b = 2".toList] ∧
      (∀ x ∈ clauseTexts sql, IsSpaced x ∧ x.getLast? ≠ some ';' ∧ clean x = x) ∧
      orderBy? sql = none := by
  intro sql
  have hsql : ¬SeparatesTerminators sql := fun h => absurd h.two_le_count (by decide +kernel)
  have hrest : afterPhrase? [.ORDER, .BY] none sql = some " ;".toList := by decide +kernel
  have hnothing : ∀ c ∈ " ;".toList, isBlank c = true ∨ c = ';' :=
    List.forall_mem_cons.mpr ⟨.inl (by decide), List.forall_mem_singleton.mpr (.inr rfl)⟩
  obtain ⟨hspaced, hmore⟩ := clauseTexts_isSpaced sql
  obtain ⟨hlast, horder⟩ := hmore hsql
  exact ⟨hsql, hrest, by decide +kernel, fun x hx => ⟨(hspaced x hx).1, hlast x hx⟩,
    (horder _ hrest).mpr hnothing⟩

/-- **Terminators remain** where blanks separate them: at the end of a predicate, at the end of a
condition, and as a text to sort by where there is nothing else.  Cleaned again, the predicate would
lose its terminator. -/
theorem terminators_remain :
    joinPredicates "SELECT a FROM t JOIN u ON t.x = u.y; ;".toList = ["t.x = u.y;".toList] ∧
      clean "t.x = u.y;".toList = "t.x = u.y".toList ∧
      conditions "SELECT a FROM t WHERE x = 1; ;".toList = ["x = 1;".toList] ∧
      orderBy? "SELECT a FROM t ORDER BY ; ;".toList = some ";".toList := by
  decide +kernel

end SqlAdvice.Sql
