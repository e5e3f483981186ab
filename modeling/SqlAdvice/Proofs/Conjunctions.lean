import SqlAdvice.Draw.Twister
import SqlAdvice.Proofs.Advised
import SqlAdvice.Proofs.SpelledColumns

/-!
# Conjunctions of equalities

A join predicate is kept whole, so it can be a conjunction of equalities.  The extractor of columns
cuts it at the equality signs and looks for one column in each part.  Between two signs there are
two columns, the right one of an equality and the left one of the next, with the connective between
them; the part is cut at its last dot, so the left one of the next equality is found and the right
one of the equality before is lost (`right_columns_lost`).

What is found is therefore the left column of every equality and the right column of the last one,
and of the columns of joins just these have their warnings and their advice
(`joinFindings_conjunction`).
-/

namespace SqlAdvice

open SqlAdvice.Text

namespace Sql

/-! ## Conjunctions -/

/-- A column with one or more qualifiers. -/
structure QualifiedColumn extends SpelledColumn where
  qualified : qualifiers ≠ []

/-- The equality of two columns. -/
structure Equality where
  left : QualifiedColumn
  right : QualifiedColumn

def Equality.text (e : Equality) : List Char :=
  e.left.text ++ " = ".toList ++ e.right.text

/-- One or more equalities. -/
structure Conjunction where
  first : Equality
  more : List Equality

namespace Conjunction

def equalities (p : Conjunction) : List Equality :=
  p.first :: p.more

/-- The equalities from the second one on, with `AND` in front of each. -/
def moreText (more : List Equality) : List Char :=
  more.flatMap fun e => " AND ".toList ++ e.text

def text (p : Conjunction) : List Char :=
  p.first.text ++ moreText p.more

/-- All columns of a conjunction, in order. -/
def columns (p : Conjunction) : List (List Char) :=
  p.equalities.flatMap fun e => [e.left.name, e.right.name]

/-- The left columns, and the right column of the last equality. -/
def found (p : Conjunction) : List (List Char) :=
  p.equalities.map (·.left.name) ++
    [(p.equalities.getLast (List.cons_ne_nil p.first p.more)).right.name]

end Conjunction

/-! ## The columns that are found -/

/-- A column with a qualifier is found behind whatever else there is on its side. -/
lemma sideColumn?_qualified (c : QualifiedColumn) (lead : List Char) {trail : List Char}
    (htrail : ∀ d ∈ trail.head?, isNameRest d = false) (hdot : '.' ∉ trail) :
    sideColumn? (lead ++ c.text ++ trail) = some c.name := by
  have hlast : '.' ∉ c.last.text ++ trail := by
    rw [List.mem_append, not_or]
    exact ⟨c.last.dot_not_mem, hdot⟩
  have hside : lead ++ c.text ++ trail =
      (lead ++ dotted c.qualifiers) ++ '.' :: (c.last.text ++ trail) := by
    simp [SpelledColumn.text_of_qualified c.qualified]
  have hafter := afterLast_append_cons hlast (lead ++ dotted c.qualifiers)
  rw [hside]
  exact sideColumn?_lastName c.last hafter (List.forall_mem_nil _) htrail

/-- The left column of an equality is found, and then its right column with what stands behind. -/
lemma joinColumns_append_equality (e : Equality) {lead : List Char} (hlead : '=' ∉ lead)
    (rest : List Char) :
    joinColumns (lead ++ (e.text ++ rest)) =
      e.left.name :: joinColumns (' ' :: (e.right.text ++ rest)) := by
  have hnone := SpelledColumn.not_mem_text (m := '=') (by decide) (by decide) (by decide)
  have hside : pieces (· == '=') (lead ++ e.left.text ++ [' ']) = [lead ++ e.left.text ++ [' ']] :=
    pieces_eq_singleton (List.not_mem_append (List.not_mem_append hlead (hnone _)) (by decide))
  have hleft : sideColumn? (lead ++ e.left.text ++ [' ']) = some e.left.name :=
    sideColumn?_qualified e.left lead (forall_mem_head?_cons.mpr (by decide)) (by decide)
  have hsplit : lead ++ (e.text ++ rest) =
      (lead ++ e.left.text ++ [' ']) ++ '=' :: (' ' :: (e.right.text ++ rest)) := by
    simp [Equality.text]
  rw [joinColumns, hsplit, pieces_append_cons (by decide), hside, List.singleton_append,
    List.filterMap_cons_some hleft]
  rfl

/-- The induction is on the equalities.  What is in front of one is its `lead`: nothing in front of
the first, and in front of any other the right column of the one before, with the connective. -/
lemma joinColumns_append_conjunction (p : Conjunction) {lead : List Char} (hlead : '=' ∉ lead) :
    joinColumns (lead ++ p.text) = p.found := by
  obtain ⟨e, more⟩ := p
  have hnone := SpelledColumn.not_mem_text (m := '=') (by decide) (by decide) (by decide)
  induction more generalizing e lead with
  | nil =>
    have hright : pieces (· == '=') (' ' :: e.right.text) = [' ' :: e.right.text] :=
      pieces_eq_singleton (List.not_mem_cons_of_ne_of_not_mem (by decide) (hnone _))
    have hfound : sideColumn? ([' '] ++ e.right.text ++ []) = some e.right.name :=
      sideColumn?_qualified e.right [' '] (by simp) (by simp)
    rw [List.append_nil, List.singleton_append] at hfound
    rw [Conjunction.text, joinColumns_append_equality e hlead, Conjunction.moreText,
      List.flatMap_nil, List.append_nil, joinColumns, hright, List.filterMap_cons_some hfound,
      List.filterMap_nil]
    rfl
  | cons e' more ih =>
    have hmore : '=' ∉ ' ' :: e.right.text ++ " AND ".toList :=
      List.not_mem_append (List.not_mem_cons_of_ne_of_not_mem (by decide) (hnone _)) (by decide)
    have hsplit : ' ' :: (e.right.text ++ Conjunction.moreText (e' :: more)) =
        (' ' :: e.right.text ++ " AND ".toList) ++ Conjunction.text ⟨e', more⟩ := by
      simp [Conjunction.moreText, Conjunction.text]
    rw [Conjunction.text, joinColumns_append_equality e hlead, hsplit, ih hmore e']
    simp [Conjunction.found, Conjunction.equalities]

lemma joinColumns_conjunction (p : Conjunction) : joinColumns p.text = p.found :=
  joinColumns_append_conjunction p List.not_mem_nil

end Sql

/-! ## Warnings and advice -/

lemma uncoveredColumnWarning_mem_iff {σ : Type} {src : Source σ} {costs : CostModel}
    {f : Sql.Features} {r : Registry} {s s' : σ} {plan : Plan}
    (h : (Plan.synthesize src costs f r).outcome s = (.ok plan, s')) {use : Plan.ColumnUse}
    {c : String} :
    Plan.uncoveredColumnWarning use c ∈ plan.warnings ↔
      c ∈ f.columnsFor use ∧ ¬ r.Covered c f.tables :=
  (warning_mem_warnings_iff h (x := .uncovered use c)).trans
    (mem_findings.trans (and_congr_right' Registry.covers_eq_false_iff))

lemma mem_columnsFor_join_conjunctions {f : Sql.Features} {ps : List Sql.Conjunction}
    (hf : f.joinPredicates = ps.map fun p => String.ofList p.text) {c : String} :
    c ∈ f.columnsFor .join ↔ ∃ p ∈ ps, c.toList ∈ p.found := by
  rw [mem_columnsFor_join, hf]
  simp [Sql.joinColumns_conjunction]

/-- **Conjunctions of equalities.**  Of a join predicate that is a conjunction of equalities of
qualified columns the left columns are found, and the right column of the last equality.  Where all
join predicates are of this kind, a join column has its warning, and the urgent advice of an index
on it where there is advice, exactly if it is one of these columns and is not covered by the
registry. -/
theorem joinFindings_conjunction {σ : Type} {src : Source σ} {costs : CostModel}
    {f : Sql.Features} {ps : List Sql.Conjunction}
    (hf : f.joinPredicates = ps.map fun p => String.ofList p.text) {r : Registry} {s s' : σ}
    {plan : Plan} (h : (Plan.synthesize src costs f r).outcome s = (.ok plan, s'))
    (threshold : Int) :
    (∀ p ∈ ps, Sql.joinColumns p.text = p.found) ∧
      ∀ c : String,
        (Plan.uncoveredColumnWarning .join c ∈ plan.warnings ↔
          (∃ p ∈ ps, c.toList ∈ p.found) ∧ ¬ r.Covered c f.tables) ∧
        (∀ advice, Advice.recommend threshold f plan r = .ok advice →
          (Advice.columnIndex f.primaryTable? .join c ∈ advice ↔
            (∃ p ∈ ps, c.toList ∈ p.found) ∧ ¬ r.Covered c f.tables)) ∧
        (Advice.columnIndex f.primaryTable? .join c).severity = .high := by
  refine ⟨fun p _ => Sql.joinColumns_conjunction p, fun c => ⟨?_, fun advice hadvice => ?_, rfl⟩⟩
  · rw [uncoveredColumnWarning_mem_iff h, mem_columnsFor_join_conjunctions hf]
  · rw [columnIndex_mem_iff hadvice, mem_columnsFor_join_conjunctions hf]

namespace Sql

/-- A plain column with one plain qualifier. -/
def QualifiedColumn.plain (qualifier column : Name) : QualifiedColumn where
  qualifiers := [⟨qualifier, .plain⟩]
  last := ⟨column, .plain⟩
  qualified := List.cons_ne_nil _ _

/-- Two equalities of columns of `a` and `b`, the left columns being `k` and `m` and the right ones
`l` and `n`. -/
def Conjunction.sample : Conjunction :=
  let a : Name := .letter 'a' (by decide)
  let b : Name := .letter 'b' (by decide)
  { first := ⟨.plain a (.letter 'k' (by decide)), .plain b (.letter 'l' (by decide))⟩
    more := [⟨.plain a (.letter 'm' (by decide)), .plain b (.letter 'n' (by decide))⟩] }

end Sql

/-- Of the four columns one is covered, and one is not found. -/
theorem joinFindings_conjunction_sample :
    let f : Sql.Features := { tables := ["a", "b"], joinPredicates := ["a.k = b.l AND a.m = b.n"] }
    let r : Registry := ⟨[⟨"A", "INDEX ON A(m)"⟩]⟩
    ∃ plan s' advice,
      (Plan.synthesize Twister.source {} f r).outcome (Twister.ofSeed 7) = (.ok plan, s') ∧
      Advice.recommend 20 f plan r = .ok advice ∧
      (∀ c ∈ ["k", "n"], Plan.uncoveredColumnWarning .join c ∈ plan.warnings ∧
        Advice.columnIndex f.primaryTable? .join c ∈ advice) ∧
      ∀ c ∈ ["l", "m"], Plan.uncoveredColumnWarning .join c ∉ plan.warnings ∧
        Advice.columnIndex f.primaryTable? .join c ∉ advice := by
  intro f r
  obtain ⟨plan, s', advice, h, hadvice⟩ := exists_synthesize_recommend Twister.source_serves
    {} f (by decide +kernel) r 20 (Twister.ofSeed 7)
  have hf : f.joinPredicates = [Sql.Conjunction.sample].map fun p => String.ofList p.text := by
    decide
  obtain ⟨-, hfindings⟩ := joinFindings_conjunction hf h 20
  have hfound : ∀ c : String, (∃ p ∈ [Sql.Conjunction.sample], c.toList ∈ p.found) ∧
      ¬ r.Covered c f.tables ↔ c.toList ∈ Sql.Conjunction.sample.found ∧
        r.covers c f.tables = false := fun c => by
    rw [Registry.covers_eq_false_iff]
    simp
  refine ⟨plan, s', advice, h, hadvice, fun c hc => ?_, fun c hc => ?_⟩
  · have hmiss : ∀ c ∈ ["k", "n"], c.toList ∈ Sql.Conjunction.sample.found ∧
        r.covers c f.tables = false := by decide +kernel
    obtain ⟨hwarning, hindex, -⟩ := hfindings c
    exact ⟨hwarning.mpr ((hfound c).mpr (hmiss c hc)),
      (hindex advice hadvice).mpr ((hfound c).mpr (hmiss c hc))⟩
  · have hsilent : ∀ c ∈ ["l", "m"], ¬ (c.toList ∈ Sql.Conjunction.sample.found ∧
        r.covers c f.tables = false) := by decide +kernel
    obtain ⟨hwarning, hindex, -⟩ := hfindings c
    exact ⟨fun hmem => hsilent c hc ((hfound c).mp (hwarning.mp hmem)),
      fun hmem => hsilent c hc ((hfound c).mp ((hindex advice hadvice).mp hmem))⟩

/-- **Right columns are lost.**  Of two equalities the right column of the first one has no warning
and no advice, though the registry is empty. -/
theorem right_columns_lost :
    ∃ p : Sql.Conjunction,
      (∀ e ∈ p.equalities, ∀ n ∈ e.left.names ++ e.right.names, n.name.IsNoKeyword) ∧
      p.text = "a.k = b.l AND a.m = b.n".toList ∧
      ['l'] ∈ p.columns ∧ ['l'] ∉ Sql.joinColumns p.text ∧
      let f : Sql.Features := { tables := ["a", "b"], joinPredicates := [String.ofList p.text] }
      ∃ plan s' advice, (Plan.synthesize Twister.source {} f {}).outcome (Twister.ofSeed 7) =
          (.ok plan, s') ∧
        Advice.recommend 20 f plan {} = .ok advice ∧
        Plan.uncoveredColumnWarning .join "l" ∉ plan.warnings ∧
        Advice.columnIndex f.primaryTable? .join "l" ∉ advice := by
  refine ⟨.sample, ?_, by decide, by decide, by decide, ?_⟩
  · unfold Sql.Name.IsNoKeyword
    decide
  intro f
  obtain ⟨plan, s', advice, h, hadvice⟩ := exists_synthesize_recommend Twister.source_serves
    {} f (by decide +kernel) {} 20 (Twister.ofSeed 7)
  have hf : f.joinPredicates = [Sql.Conjunction.sample].map fun p => String.ofList p.text := rfl
  have hlost : "l" ∉ f.columnsFor .join := by
    rw [mem_columnsFor_join_conjunctions hf]
    decide
  exact ⟨plan, s', advice, h, hadvice,
    fun hmem => hlost ((uncoveredColumnWarning_mem_iff h).mp hmem).1,
    fun hmem => hlost ((columnIndex_mem_iff hadvice).mp hmem).1⟩

end SqlAdvice
