import SqlAdvice.Draw.Source
import SqlAdvice.Proofs.Advised
import SqlAdvice.Proofs.DrawnCosts
import SqlAdvice.Proofs.Stages

/-!
# Numbers and shape

The numbers of an analysis are the ids, the kinds and the costs of its operations, the total cost,
the statistics, and whether the cost is worth a review (`Analysis.numbers`).  They are told by the
source and by the shape of the statement: how many tables, join predicates and conditions it has,
and whether it sorts (`Sql.Features.SameShape`).  What the tables and the columns are called has no
part in them.  Nor has the registry, which decides on texts and never on whether a number is drawn.

The plan draws by the kinds of its operations and the statistics by the time that the shape adds, so
the stages make the same numbers of any two statements of one shape, and fail on both in the same
way (`Analyzer.numbersOf_stages`).  The main statement compares whole analyses
(`Analyzer.numbers_eq_of_sameShape`).
-/

namespace SqlAdvice

variable {σ : Type}

/-! ## Shape -/

/-- Equally many tables, join predicates and conditions, and sorting in both or in neither. -/
structure Sql.Features.SameShape (f g : Sql.Features) : Prop where
  tables : f.tables.length = g.tables.length
  joinPredicates : f.joinPredicates.length = g.joinPredicates.length
  conditions : f.conditions.length = g.conditions.length
  sorts : f.sorts = g.sorts

namespace Sql.Features.SameShape

variable {f g : Sql.Features}

lemma refl (f : Sql.Features) : f.SameShape f := ⟨rfl, rfl, rfl, rfl⟩

lemma kindsOf_eq (h : f.SameShape g) : Plan.kindsOf f = Plan.kindsOf g := by
  rw [Plan.kindsOf, Plan.kindsOf, h.tables, h.joinPredicates, h.conditions, h.sorts]

lemma shapeTime_eq (h : f.SameShape g) : Statistics.shapeTime f = Statistics.shapeTime g := by
  rw [Statistics.shapeTime, Statistics.shapeTime, h.joinPredicates, h.conditions, h.sorts]

/-- The same costs give the plans of two statements the same numbers. -/
lemma numbers_eq (h : f.SameShape g) (r r' : Registry) (drawn : List Int) :
    (Plan.withCosts f r drawn).numbers = (Plan.withCosts g r' drawn).numbers := by
  rw [Plan.numbers_withCosts, Plan.numbers_withCosts, h.kindsOf_eq]

lemma totalCost_eq (h : f.SameShape g) (r r' : Registry) (drawn : List Int) :
    (Plan.withCosts f r drawn).totalCost = (Plan.withCosts g r' drawn).totalCost := by
  rw [Plan.totalCost_withCosts, Plan.totalCost_withCosts, h.numbers_eq r r']

/-- Statistics know of a statement only the time that its shape adds. -/
lemma statistics_eq (h : f.SameShape g) (src : Source σ) :
    Statistics.synthesize src f = Statistics.synthesize src g := by
  rw [Statistics.synthesize, Statistics.synthesize, h.shapeTime_eq]

end Sql.Features.SameShape

/-! ## The numbers of an analysis -/

/-- All that an analysis counts or draws. -/
structure Analysis.Numbers where
  /-- The number, the kind and the cost of every operation. -/
  operations : List (Nat × OperationKind × Nat)
  totalCost : Nat
  statistics : Statistics
  /-- Whether there is advice of low severity, the review of the cost. -/
  reviewed : Bool

/-- The numbers of an analysis. -/
def Analysis.numbers (a : Analysis) : Analysis.Numbers where
  operations := a.plan.numbers
  totalCost := a.plan.totalCost
  statistics := a.statistics
  reviewed := a.recommendations.any (·.severity == .low)

lemma any_low_of_recommend {threshold : Int} {f : Sql.Features} {plan : Plan} {r : Registry}
    {advice : List Recommendation} (h : Advice.recommend threshold f plan r = .ok advice) :
    advice.any (·.severity == .low) = decide (threshold < plan.totalCost) := by
  rw [Bool.eq_iff_iff, List.any_eq_true, decide_eq_true_iff]
  constructor
  · rintro ⟨a, ha, hlow⟩
    obtain ⟨x, -, rfl⟩ | ⟨hcost, -⟩ := (mem_recommend_iff h).mp ha
    · exact absurd (eq_of_beq hlow) (severity_advice_ne_low _ _ x)
    · exact hcost
  · exact fun hcost => ⟨_, (review_mem_iff h).mpr hcost, rfl⟩

namespace Analyzer

/-- The numbers of an outcome: those of the analysis or the fault, and the state that is left. -/
def numbersOf (o : Except AnalysisFault Analysis × σ) :
    Except AnalysisFault Analysis.Numbers × σ :=
  (o.1.map Analysis.numbers, o.2)

/-- The stages make the same numbers of any two statements of one shape, or fail alike. -/
lemma numbersOf_stages {f g : Sql.Features} (h : f.SameShape g) (z : Analyzer σ)
    (text text' : String) (r r' : Registry) (s : σ) :
    numbersOf (z.stages text f r s) = numbersOf (z.stages text' g r' s) := by
  rw [stages, stages, Plan.synthesize_outcome, Plan.synthesize_outcome, h.kindsOf_eq,
    h.statistics_eq]
  rcases (Plan.costsFor z.source z.costs (Plan.kindsOf g)).outcome s with ⟨cause | drawn, s₁⟩
  · rfl
  · dsimp only
    by_cases hnonneg : ∀ cost ∈ drawn, 0 ≤ cost
    · rw [if_pos hnonneg, if_pos hnonneg]
      dsimp only
      have hcost := h.totalCost_eq r r' drawn
      by_cases hreview : (Plan.withCosts g r' drawn).IsReviewable z.costThreshold
      · obtain ⟨advice', hadvice'⟩ := exists_recommend_iff (f := g) (r := r').mpr hreview
        rw [Plan.IsReviewable, ← hcost] at hreview
        obtain ⟨advice, hadvice⟩ := exists_recommend_iff (f := f) (r := r).mpr hreview
        rw [advise_eq_ok_iff.mpr hadvice, advise_eq_ok_iff.mpr hadvice']
        dsimp only
        rcases (Statistics.synthesize z.source g).outcome s₁ with ⟨cause | statistics, s₂⟩
        · rfl
        · simp only [numbersOf, Except.map, Analysis.numbers, any_low_of_recommend hadvice,
            any_low_of_recommend hadvice', h.numbers_eq r r' drawn, hcost]
      · -- neither plan gets advice
        rw [advise_of_error (recommend_eq_error_iff.mpr hreview)]
        rw [Plan.IsReviewable, ← hcost] at hreview
        rw [advise_of_error (recommend_eq_error_iff.mpr hreview)]
    · rw [if_neg hnonneg, if_neg hnonneg]

/-- **Numbers depend on the shape of a statement and on the source alone.**  Two analyses that are
made from the same state, of whatever statements and against whatever registries, have the same
numbers and leave the source in the same state when their statements are of one shape.  Against two
registries that are accepted, an analysis of one statement has the same numbers, or fails in the
same way. -/
theorem numbers_eq_of_sameShape (z : Analyzer σ) (s : σ) :
    (∀ {sql sql' registry registry' : Value} {a b : Analysis} {s₁ s₂ : σ},
      z.outcome sql registry s = (.ok a, s₁) → z.outcome sql' registry' s = (.ok b, s₂) →
        a.features.SameShape b.features → a.numbers = b.numbers ∧ s₁ = s₂) ∧
    ∀ (sql : Value) {registry registry' : Value} {r r' : Registry},
      Registry.ofValue registry = .ok r → Registry.ofValue registry' = .ok r' →
        numbersOf (z.outcome sql registry s) = numbersOf (z.outcome sql registry' s) := by
  refine ⟨fun {sql sql' registry registry' a b s₁ s₂} ha hb hshape => ?_,
    fun sql {registry registry' r r'} hr hr' => ?_⟩
  · obtain ⟨r, ha⟩ := exists_stages_of_outcome ha
    obtain ⟨r', hb⟩ := exists_stages_of_outcome hb
    have heq := numbersOf_stages hshape z a.sql b.sql r r' s
    rw [ha, hb] at heq
    obtain ⟨hnumbers, hstate⟩ := Prod.mk.inj heq
    exact ⟨Except.ok.inj hnumbers, hstate⟩
  · rw [outcome_of_accepted hr, outcome_of_accepted hr']
    cases readStatement sql with
    | error fault => rfl
    | ok p => exact numbersOf_stages (.refl p.2) z p.1 p.1 r r' s

/-- Two statements that have nothing in common but their shape. -/
theorem numbers_eq_of_sameShape_script :
    let z : Analyzer (List Int) := { source := Script.source }
    let draws : List Int := [5, 7, 11, 40, 2000, 3000, 500, 600, 700, 800]
    let sql := Value.text "SELECT a FROM Orders WHERE Total > 10 ORDER BY Placed"
    let sql' :=
      Value.text "SELECT * FROM Items i WHERE i.Price IN (1, 2) ORDER BY i.Name, i.ID DESC"
    let registry := Value.mapping [(.text "items", .text "INDEX ON Items(Price)")]
    (∃ a b s₁ s₂, z.outcome sql .null draws = (.ok a, s₁) ∧
      z.outcome sql' registry draws = (.ok b, s₂) ∧ a.features.SameShape b.features ∧
      a.numbers = b.numbers ∧ s₁ = s₂) ∧
    Registry.ofValue registry = .ok ⟨[⟨"items", "INDEX ON Items(Price)"⟩]⟩ ∧
    numbersOf (z.outcome sql' .null draws) = numbersOf (z.outcome sql' registry draws) := by
  intro z draws sql sql' registry
  obtain ⟨a, ha, hfeatures⟩ := exists_analysis_of_features (o := z.outcome sql .null draws)
    (f := { kind := .select, tables := ["Orders"], conditions := ["Total > 10"],
            orderBy := some "Placed", sortColumns := ["Placed"] }) (by decide +kernel)
  obtain ⟨b, hb, hfeatures'⟩ := exists_analysis_of_features (o := z.outcome sql' registry draws)
    (f := { kind := .select, tables := ["Items"], conditions := ["i.Price IN (1, 2)"],
            orderBy := some "i.Name, i.ID DESC", sortColumns := ["Name", "ID"],
            hasWildcard := true }) (by decide +kernel)
  have hshape : a.features.SameShape b.features := by
    rw [hfeatures, hfeatures']
    exact ⟨rfl, rfl, rfl, rfl⟩
  have hregistry : Registry.ofValue registry =
      .ok ⟨[⟨"items", "INDEX ON Items(Price)"⟩]⟩ := by decide +kernel
  exact ⟨⟨a, b, _, _, ha, hb, hshape, (numbers_eq_of_sameShape z draws).1 ha hb hshape⟩, hregistry,
    (numbers_eq_of_sameShape z draws).2 sql' rfl hregistry⟩

end Analyzer

end SqlAdvice
