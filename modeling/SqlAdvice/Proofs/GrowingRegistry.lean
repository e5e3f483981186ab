import SqlAdvice.Proofs.DrawnCosts
import SqlAdvice.Proofs.Findings
import SqlAdvice.Proofs.Lookup

/-!
# Growing registries

A registry that holds all entries of another one answers yes wherever the other one does, so less is
found in a statement against it.  Whether a finding is made depends on what it says and not on where
it comes up (`Finding.stands`): of several equal findings all are dropped or none.  What is found
against the greater registry is therefore a part of what is found against the smaller one
(`findings_eq_filter`), and stays one when repeats are dropped.

Costs are drawn without a look at the registry.  So two plans from one state of a source differ in
what they say only, and `FindsLess` compares them together with the advice that goes with each.
-/

namespace SqlAdvice

variable {σ : Type} {r r' : Registry}

/-! ## Findings against a greater registry -/

/-- Tells whether a registry lets a finding stand: it has no entry for the table, or does not cover
the column.  Wildcards and function calls are none of its business. -/
def Finding.stands (f : Sql.Features) (r : Registry) : Finding → Bool
  | missingIndex table => !r.hasEntry table
  | uncovered _ column => !r.covers column f.tables
  | wildcard => true
  | calls => true

/-- What is found against a greater registry is what it lets stand of what is found against the
smaller one. -/
lemma findings_eq_filter (h : r.entries ⊆ r'.entries) (f : Sql.Features) :
    findings f r' = (findings f r).filter (Finding.stands f r') := by
  have hentry : ∀ t, (!r'.hasEntry t && !r.hasEntry t) = !r'.hasEntry t := by
    intro t
    by_cases ht : r.hasEntry t = true
    · simp [Registry.hasEntry_mono h ht]
    · simp [ht]
  have hcovers : ∀ c, (!r'.covers c f.tables && !r.covers c f.tables) =
      !r'.covers c f.tables := by
    intro c
    by_cases hc : r.covers c f.tables = true
    · simp [Registry.covers_mono h hc]
    · simp [hc]
  have hwild : (if f.hasWildcard then [Finding.wildcard] else []).filter
      (Finding.stands f r') = if f.hasWildcard then [Finding.wildcard] else [] := by
    split <;> rfl
  have hcalls : (if f.functionCalls.isEmpty then [] else [Finding.calls]).filter
      (Finding.stands f r') = if f.functionCalls.isEmpty then [] else [Finding.calls] := by
    split <;> rfl
  simp only [findings_eq, List.filter_append, List.filter_map, Function.comp_def, Finding.stands,
    List.filter_filter, hentry, hcovers, hwild, hcalls]

lemma eraseDups_findings_sublist (h : r.entries ⊆ r'.entries) (f : Sql.Features) :
    (findings f r').eraseDups.Sublist (findings f r).eraseDups := by
  rw [findings_eq_filter h, eraseDups_filter]
  exact List.filter_sublist

/-! ## Plans and advice -/

lemma Plan.warnings_withCosts (f : Sql.Features) (r : Registry) (drawn : List Int) :
    (Plan.withCosts f r drawn).warnings =
      (findings f r).eraseDups.map (Finding.warning f.functionCalls) := by
  change (Plan.allWarnings f r).eraseDups = _
  rw [allWarnings_eq_map, eraseDups_map (Finding.warning_injective f.functionCalls)]

/-- Against the greater registry there is less advice for a plan of the same cost, or there is none
against either. -/
lemma recommend_sublist (h : r.entries ⊆ r'.entries) (threshold : Int) (f : Sql.Features)
    {plan plan' : Plan} (hcost : plan'.totalCost = plan.totalCost) :
    (∃ advice advice', Advice.recommend threshold f plan r = .ok advice ∧
      Advice.recommend threshold f plan' r' = .ok advice' ∧ advice'.Sublist advice) ∨
    ∃ fault, Advice.recommend threshold f plan r = .error fault ∧
      Advice.recommend threshold f plan' r' = .error fault := by
  by_cases hreview : plan.IsReviewable threshold
  · refine .inl ⟨_, _, recommend_eq_ok_iff.mpr ⟨hreview, rfl⟩,
      recommend_eq_ok_iff.mpr ⟨by rwa [Plan.IsReviewable, hcost], rfl⟩, ?_⟩
    rw [hcost, Plan.review, hcost]
    exact ((eraseDups_findings_sublist h f).map _).append (List.Sublist.refl _)
  · exact .inr ⟨.tooMany, recommend_eq_error_iff.mpr hreview,
      recommend_eq_error_iff.mpr (by rwa [Plan.IsReviewable, hcost])⟩

/-- How the outcomes of planning against two registries compare when less is found against the
second one.

Both plans are made, have the same numbers and leave the source in the same state, and the warnings
of the second plan and the advice that goes with it are those of the first without some of them, in
the same order; where the advice fails, it fails for both plans.  Or a draw fails, and then it fails
in both. -/
inductive FindsLess (threshold : Int) (f : Sql.Features) (r r' : Registry) :
    Except Cause Plan × σ → Except Cause Plan × σ → Prop
  | made {plan plan' : Plan} {s : σ} (numbers : plan'.numbers = plan.numbers)
      (warnings : plan'.warnings.Sublist plan.warnings)
      (advice : (∃ advice advice', Advice.recommend threshold f plan r = .ok advice ∧
          Advice.recommend threshold f plan' r' = .ok advice' ∧ advice'.Sublist advice) ∨
        ∃ fault, Advice.recommend threshold f plan r = .error fault ∧
          Advice.recommend threshold f plan' r' = .error fault) :
      FindsLess threshold f r r' (.ok plan, s) (.ok plan', s)
  | failed {cause : Cause} {s : σ} :
      FindsLess threshold f r r' (.error cause, s) (.error cause, s)

lemma findsLess_of_entries_subset (h : r.entries ⊆ r'.entries) (src : Source σ)
    (costs : CostModel) (threshold : Int) (f : Sql.Features) (s : σ) :
    FindsLess threshold f r r' ((Plan.synthesize src costs f r).outcome s)
      ((Plan.synthesize src costs f r').outcome s) := by
  rw [Plan.synthesize_outcome, Plan.synthesize_outcome]
  rcases (Plan.costsFor src costs (Plan.kindsOf f)).outcome s with ⟨cause | drawn, s'⟩
  · exact .failed
  · dsimp only
    by_cases hnonneg : ∀ cost ∈ drawn, 0 ≤ cost
    · have hnumbers : (Plan.withCosts f r' drawn).numbers = (Plan.withCosts f r drawn).numbers := by
        rw [Plan.numbers_withCosts, Plan.numbers_withCosts]
      have hcost :
          (Plan.withCosts f r' drawn).totalCost = (Plan.withCosts f r drawn).totalCost := by
        rw [Plan.totalCost_withCosts, Plan.totalCost_withCosts, hnumbers]
      have hwarnings : (Plan.withCosts f r' drawn).warnings.Sublist
          (Plan.withCosts f r drawn).warnings := by
        rw [Plan.warnings_withCosts, Plan.warnings_withCosts]
        exact (eraseDups_findings_sublist h f).map _
      rw [if_pos hnonneg, if_pos hnonneg]
      exact .made hnumbers hwarnings (recommend_sublist h threshold f hcost)
    · rw [if_neg hnonneg, if_neg hnonneg]
      exact .failed

/-! ## Adding and removing entries -/

lemma Registry.entries_of_add? {t d : String} (h : r.add? t d = .ok r') :
    ∃ e, r'.entries = r.entries ++ [e] := by
  rw [Registry.add?] at h
  cases hchecked : Registry.Entry.checked t d with
  | error fault => simp [hchecked, Except.map] at h
  | ok e =>
    rw [hchecked] at h
    exact ⟨e, by rw [← Except.ok.inj h]⟩

lemma Registry.entries_without_subset (r : Registry) (t : String) :
    (r.without t).entries ⊆ r.entries :=
  List.filter_subset_self _

/-- **A greater registry finds less.**  For any features, costs, threshold and state of a source,
the plan and the advice against a registry that holds all entries of another one are those against
the other one with findings left out.  So an entry that is added never brings up a warning or a
piece of advice, and removing the entries of a table never takes one away.  With a source that
serves, all these plans are made. -/
theorem findsLess_of_growth (src : Source σ) (costs : CostModel) (threshold : Int)
    (f : Sql.Features) (s : σ) :
    let planned := fun r : Registry => (Plan.synthesize src costs f r).outcome s
    (∀ r r' : Registry, r.entries ⊆ r'.entries →
      FindsLess threshold f r r' (planned r) (planned r')) ∧
    (∀ (r r' : Registry) (t d : String), r.add? t d = .ok r' →
      FindsLess threshold f r r' (planned r) (planned r')) ∧
    (∀ (r : Registry) (t : String),
      FindsLess threshold f (r.without t) r (planned (r.without t)) (planned r)) ∧
    (src.Serves → ∀ r : Registry, ∃ plan s', planned r = (.ok plan, s')) := by
  intro planned
  refine ⟨fun r r' h => ?_, fun r r' t d h => ?_, fun r t => ?_, fun hsrc r => ?_⟩
  · exact findsLess_of_entries_subset h src costs threshold f s
  · obtain ⟨e, he⟩ := Registry.entries_of_add? h
    have hsub : r.entries ⊆ r'.entries := he ▸ List.subset_append_left _ _
    exact findsLess_of_entries_subset hsub src costs threshold f s
  · exact findsLess_of_entries_subset (r.entries_without_subset t) src costs threshold f s
  · obtain ⟨_, s', -, -, h, -⟩ := Plan.exists_priced_synthesize hsrc costs f r s
    exact ⟨_, s', h⟩

/-- An entry for the second table, put in front of the others, and one that is added behind them. -/
theorem findsLess_of_growth_items :
    let f : Sql.Features :=
      { tables := ["Orders", "Items"], joinPredicates := ["i.OrderID = o.ID"],
        conditions := ["i.Price > 10"] }
    let r : Registry := ⟨[⟨"orders", "INDEX ON Orders(ID)"⟩]⟩
    let front : Registry :=
      ⟨[⟨"ITEMS", "INDEX ON Items(OrderID)"⟩, ⟨"orders", "INDEX ON Orders(ID)"⟩]⟩
    let behind : Registry :=
      ⟨[⟨"orders", "INDEX ON Orders(ID)"⟩, ⟨"Items", "INDEX ON Items(Price)"⟩]⟩
    let planned := fun r : Registry =>
      (Plan.synthesize Twister.source {} f r).outcome (Twister.ofSeed 7)
    r.entries ⊆ front.entries ∧ FindsLess 20 f r front (planned r) (planned front) ∧
      r.add? " Items" "INDEX ON Items(Price) " = .ok behind ∧
      FindsLess 20 f r behind (planned r) (planned behind) ∧
      Twister.source.Serves ∧ ∃ plan s', planned front = (.ok plan, s') := by
  intro f r front behind planned
  have hfront : r.entries ⊆ front.entries := List.subset_cons_self _ _
  have hbehind : r.add? " Items" "INDEX ON Items(Price) " = .ok behind := by decide +kernel
  obtain ⟨hsubset, hadd, -, hserves⟩ :=
    findsLess_of_growth Twister.source {} 20 f (Twister.ofSeed 7)
  exact ⟨hfront, hsubset r front hfront, hbehind, hadd r behind _ _ hbehind,
    Twister.source_serves, hserves Twister.source_serves front⟩

end SqlAdvice
