import SqlAdvice.Proofs.Findings
import SqlAdvice.Proofs.Lookup
import SqlAdvice.Proofs.ShortNumbers

/-!
# What is advised

`Advised` says what the advice for some features, a plan and a registry is, without the rules that
make it: which pieces of advice are in the list, in terms of the columns that the features speak of
and of the entries of the registry, that there are no others, and how they are ordered.  The main
statement is that `Advice.recommend` gives such a list or none, and that it gives none exactly when
the review of the cost is called for and the cost is too long to be written (`advised_recommend`).

Each piece of advice for a finding is in the list exactly when the finding is made
(`advice_mem_iff`): no two findings lead to the same advice, so dropping repeats never drops the
advice for another finding.  The order is that of the findings, which come with the urgent ones in
front (`findings_pairwise_rank`), and the review of the cost is added behind them.
-/

namespace SqlAdvice

open Number

/-! ## Membership -/

section

variable {threshold : Int} {f : Sql.Features} {plan : Plan} {r : Registry}
  {advice : List Recommendation}

/-- The advice for a finding is given exactly when the finding is made. -/
lemma advice_mem_iff (h : Advice.recommend threshold f plan r = .ok advice) {x : Finding} :
    x.advice f.primaryTable? f.functionCalls ∈ advice ↔ x ∈ findings f r := by
  rw [mem_recommend_iff h]
  constructor
  · rintro (⟨y, hy, hsame⟩ | ⟨-, hreview⟩)
    · exact Finding.advice_injective f.primaryTable? f.functionCalls hsame ▸ hy
    · exact absurd hreview (advice_ne_costReview _ _ x _)
  · exact fun hx => .inl ⟨x, hx, rfl⟩

/-- A finding is warned of exactly when it is made. -/
lemma warning_mem_warnings_iff {σ : Type} {src : Source σ} {costs : CostModel} {s s' : σ}
    (h : (Plan.synthesize src costs f r).outcome s = (.ok plan, s')) {x : Finding} :
    x.warning f.functionCalls ∈ plan.warnings ↔ x ∈ findings f r := by
  rw [Plan.warnings_eq_map h, List.mem_map_of_injective (Finding.warning_injective f.functionCalls),
    List.mem_eraseDups]

/-- The review of the cost is given exactly when the plan costs more than the threshold. -/
lemma review_mem_iff (h : Advice.recommend threshold f plan r = .ok advice) :
    plan.review ∈ advice ↔ threshold < plan.totalCost := by
  rw [mem_recommend_iff h]
  constructor
  · rintro (⟨x, -, hsame⟩ | ⟨hcost, -⟩)
    · exact absurd hsame (advice_ne_costReview _ _ x _)
    · exact hcost
  · exact fun hcost => .inr ⟨hcost, rfl⟩

lemma primaryKeyIndex_mem_iff (h : Advice.recommend threshold f plan r = .ok advice) {t : String} :
    Advice.primaryKeyIndex t ∈ advice ↔
      t ∈ f.tables ∧ ∀ e ∈ r.entries, Text.lowered e.table ≠ Text.lowered t :=
  (advice_mem_iff h (x := .missingIndex t)).trans
    (mem_findings.trans (and_congr_right' Registry.hasEntry_eq_false_iff))

lemma columnIndex_mem_iff (h : Advice.recommend threshold f plan r = .ok advice)
    {use : Plan.ColumnUse} {c : String} :
    Advice.columnIndex f.primaryTable? use c ∈ advice ↔
      c ∈ f.columnsFor use ∧ ¬ r.Covered c f.tables :=
  (advice_mem_iff h (x := .uncovered use c)).trans
    (mem_findings.trans (and_congr_right' Registry.covers_eq_false_iff))

lemma wildcardAdvice_mem_iff (h : Advice.recommend threshold f plan r = .ok advice) :
    Advice.wildcardAdvice ∈ advice ↔ f.hasWildcard = true :=
  (advice_mem_iff h (x := .wildcard)).trans mem_findings

/-- Of all advice on functions only that on the functions of the statement can be given. -/
lemma functionAdvice_mem_iff (h : Advice.recommend threshold f plan r = .ok advice)
    {names : List String} :
    Advice.functionAdvice names ∈ advice ↔
      f.functionCalls ≠ [] ∧
        Advice.functionAdvice names = Advice.functionAdvice f.functionCalls := by
  have hcalls : Advice.functionAdvice f.functionCalls ∈ advice ↔ f.functionCalls ≠ [] :=
    (advice_mem_iff h (x := .calls)).trans mem_findings
  constructor
  · intro hmem
    obtain ⟨x, hx, hsame⟩ | ⟨-, hreview⟩ := (mem_recommend_iff h).mp hmem
    · have hinitial : x.adviceInitial = Finding.calls.adviceInitial := by
        have hhead := Finding.head?_advice f.primaryTable? f.functionCalls x
        rw [hsame] at hhead
        exact Option.some.inj
          (hhead.symm.trans (Finding.head?_advice f.primaryTable? names .calls))
      cases x with
      | calls => exact ⟨mem_findings.mp hx, hsame.symm⟩
      | _ => simp [Finding.adviceInitial] at hinitial
    · exact absurd hreview (advice_ne_costReview f.primaryTable? names .calls _)
  · rintro ⟨hne, hsame⟩
    exact hsame ▸ hcalls.mpr hne

end

/-! ## Order -/

/-- How urgent a finding is. -/
def Finding.severity : Finding → Severity
  | missingIndex _ => .high
  | uncovered use _ => Advice.useSeverity use
  | wildcard => .medium
  | calls => .medium

lemma severity_advice (owner : Option String) (functions : List String) (x : Finding) :
    (x.advice owner functions).severity = x.severity := by
  cases x <;> rfl

/-- The findings of high severity come first, and all others are of medium severity. -/
lemma exists_findings_eq_append (f : Sql.Features) (r : Registry) :
    ∃ high medium, findings f r = high ++ medium ∧ (∀ x ∈ high, x.severity = .high) ∧
      ∀ x ∈ medium, x.severity = .medium := by
  refine ⟨(f.tables.filter fun t => !r.hasEntry t).map .missingIndex ++
      (f.joinPredicates.flatMap (uncoveredJoinColumns r f.tables)).map (.uncovered .join),
    (f.conditions.filterMap (uncoveredFilterColumn? r f.tables)).map (.uncovered .filter) ++
      (f.orderBy.toList.flatMap (uncoveredSortColumns r f.tables)).map (.uncovered .sort) ++
      (if f.hasWildcard then [.wildcard] else []) ++
      (if f.functionCalls.isEmpty then [] else [.calls]), by simp [findings], ?_, ?_⟩
  · simp only [List.forall_mem_append, List.forall_mem_map]
    exact ⟨fun _ _ => rfl, fun _ _ => rfl⟩
  · simp only [List.forall_mem_append, List.forall_mem_map]
    refine ⟨⟨⟨fun _ _ => rfl, fun _ _ => rfl⟩, fun x hx => ?_⟩, fun x hx => ?_⟩
    · split at hx
      · rw [List.mem_singleton.mp hx]
        rfl
      · simp at hx
    · split at hx
      · simp at hx
      · rw [List.mem_singleton.mp hx]
        rfl

lemma findings_pairwise_rank (f : Sql.Features) (r : Registry) :
    (findings f r).Pairwise fun x y => x.severity.rank ≤ y.severity.rank := by
  obtain ⟨high, medium, heq, hhigh, hmedium⟩ := exists_findings_eq_append f r
  rw [heq, List.pairwise_append]
  refine ⟨List.pairwise_of_forall_mem_list fun x hx y hy => ?_,
    List.pairwise_of_forall_mem_list fun x hx y hy => ?_, fun x hx y hy => ?_⟩
  · rw [hhigh x hx, hhigh y hy]
  · rw [hmedium x hx, hmedium y hy]
  · rw [hhigh x hx, hmedium y hy]
    decide

lemma rank_le_low (severity : Severity) : severity.rank ≤ Severity.low.rank := by
  cases severity <;> decide

/-- The advice is in the order of severity, the most urgent first. -/
lemma pairwise_rank_of_recommend {threshold : Int} {f : Sql.Features} {plan : Plan} {r : Registry}
    {advice : List Recommendation} (h : Advice.recommend threshold f plan r = .ok advice) :
    advice.Pairwise fun a b => a.severity.rank ≤ b.severity.rank := by
  rw [(recommend_eq_ok_iff.mp h).2, List.pairwise_append, List.pairwise_map]
  refine ⟨?_, ?_, fun a _ b hb => ?_⟩
  · simp only [severity_advice]
    exact (findings_pairwise_rank f r).sublist (eraseDups_sublist _)
  · split <;> simp
  · split at hb
    · rw [List.mem_singleton.mp hb]
      exact rank_le_low a.severity
    · simp at hb

/-- Advice of low severity can only stand at the end. -/
lemma severity_ne_low_of_mem_dropLast {threshold : Int} {f : Sql.Features} {plan : Plan}
    {r : Registry} {advice : List Recommendation}
    (h : Advice.recommend threshold f plan r = .ok advice) {a : Recommendation}
    (ha : a ∈ advice.dropLast) : a.severity ≠ .low := by
  have hmem : a ∈ (findings f r).eraseDups.map
      (Finding.advice f.primaryTable? f.functionCalls) := by
    rw [(recommend_eq_ok_iff.mp h).2] at ha
    split at ha
    · rwa [List.dropLast_concat] at ha
    · rw [List.append_nil] at ha
      exact List.dropLast_subset _ ha
  obtain ⟨x, -, rfl⟩ := List.mem_map.mp hmem
  exact severity_advice_ne_low _ _ x

/-! ## The columns of the features -/

lemma ofList_eq_iff {cs : List Char} {s : String} : String.ofList cs = s ↔ cs = s.toList :=
  ⟨fun h => by rw [← h, String.toList_ofList], fun h => by rw [h, String.ofList_toList]⟩

lemma mem_columnsFor_join {f : Sql.Features} {c : String} :
    c ∈ f.columnsFor .join ↔ ∃ p ∈ f.joinPredicates, c.toList ∈ Sql.joinColumns p.toList := by
  simp [Sql.Features.columnsFor, ofList_eq_iff]

lemma mem_columnsFor_filter {f : Sql.Features} {c : String} :
    c ∈ f.columnsFor .filter ↔
      ∃ w ∈ f.conditions, Sql.filterColumn? w.toList = some c.toList := by
  simp [Sql.Features.columnsFor, ofList_eq_iff]

lemma mem_columnsFor_sort {f : Sql.Features} {c : String} :
    c ∈ f.columnsFor .sort ↔ ∃ o, f.orderBy = some o ∧ c.toList ∈ Sql.sortColumns o.toList := by
  simp [Sql.Features.columnsFor, ofList_eq_iff]

/-! ## All of it -/

/-- What the advice for features, a plan and a registry is.

No piece of advice is repeated, the urgent ones come first, and at most one, the last, is of low
severity.  A table is advised a primary key when it has no entry, and a column an index for the use
that some part of the statement makes of it when it is not covered; a wildcard, function calls and a
high cost are advised on when they are there.  Nothing else is advised. -/
structure Advised (threshold : Int) (f : Sql.Features) (plan : Plan) (r : Registry)
    (advice : List Recommendation) : Prop where
  nodup : advice.Nodup
  ordered : advice.Pairwise fun a b => a.severity.rank ≤ b.severity.rank
  low_last : ∀ a ∈ advice.dropLast, a.severity ≠ .low
  primaryKey : ∀ t, Advice.primaryKeyIndex t ∈ advice ↔
    t ∈ f.tables ∧ ∀ e ∈ r.entries, Text.lowered e.table ≠ Text.lowered t
  join : ∀ c, Advice.columnIndex f.primaryTable? .join c ∈ advice ↔
    (∃ p ∈ f.joinPredicates, c.toList ∈ Sql.joinColumns p.toList) ∧ ¬ r.Covered c f.tables
  filter : ∀ c, Advice.columnIndex f.primaryTable? .filter c ∈ advice ↔
    (∃ w ∈ f.conditions, Sql.filterColumn? w.toList = some c.toList) ∧ ¬ r.Covered c f.tables
  sort : ∀ c, Advice.columnIndex f.primaryTable? .sort c ∈ advice ↔
    (∃ o, f.orderBy = some o ∧ c.toList ∈ Sql.sortColumns o.toList) ∧ ¬ r.Covered c f.tables
  wildcard : Advice.wildcardAdvice ∈ advice ↔ f.hasWildcard = true
  /-- The functions are those of the statement, so there is one such piece of advice. -/
  calls : ∀ names, Advice.functionAdvice names ∈ advice ↔
    f.functionCalls ≠ [] ∧ Advice.functionAdvice names = Advice.functionAdvice f.functionCalls
  review : plan.review ∈ advice ↔ threshold < plan.totalCost
  only : ∀ a ∈ advice,
    (∃ t, a = Advice.primaryKeyIndex t ∧ a.severity = .high) ∨
    (∃ c, a = Advice.columnIndex f.primaryTable? .join c ∧ a.severity = .high) ∨
    (∃ c, a = Advice.columnIndex f.primaryTable? .filter c ∧ a.severity = .medium) ∨
    (∃ c, a = Advice.columnIndex f.primaryTable? .sort c ∧ a.severity = .medium) ∨
    a = Advice.wildcardAdvice ∧ a.severity = .medium ∨
    a = Advice.functionAdvice f.functionCalls ∧ a.severity = .medium ∨
    a = plan.review ∧ a.severity = .low

/-- A list that is given is as `Advised` says. -/
lemma advised_of_recommend {threshold : Int} {f : Sql.Features} {plan : Plan} {r : Registry}
    {advice : List Recommendation} (h : Advice.recommend threshold f plan r = .ok advice) :
    Advised threshold f plan r advice where
  nodup := by
    obtain ⟨review, -, rfl⟩ := Except.map_eq_ok_iff.mp h
    exact nodup_eraseDups _
  ordered := pairwise_rank_of_recommend h
  low_last _ ha := severity_ne_low_of_mem_dropLast h ha
  primaryKey _ := primaryKeyIndex_mem_iff h
  join _ := (columnIndex_mem_iff h).trans (and_congr_left' mem_columnsFor_join)
  filter _ := (columnIndex_mem_iff h).trans (and_congr_left' mem_columnsFor_filter)
  sort _ := (columnIndex_mem_iff h).trans (and_congr_left' mem_columnsFor_sort)
  wildcard := wildcardAdvice_mem_iff h
  calls _ := functionAdvice_mem_iff h
  review := review_mem_iff h
  only a ha := by
    obtain ⟨x, -, rfl⟩ | ⟨-, rfl⟩ := (mem_recommend_iff h).mp ha
    · cases x with
      | missingIndex t => exact .inl ⟨t, rfl, rfl⟩
      | uncovered use c =>
        cases use with
        | join => exact .inr (.inl ⟨c, rfl, rfl⟩)
        | filter => exact .inr (.inr (.inl ⟨c, rfl, rfl⟩))
        | sort => exact .inr (.inr (.inr (.inl ⟨c, rfl, rfl⟩)))
      | wildcard => exact .inr (.inr (.inr (.inr (.inl ⟨rfl, rfl⟩))))
      | calls => exact .inr (.inr (.inr (.inr (.inr (.inl ⟨rfl, rfl⟩)))))
    · exact .inr (.inr (.inr (.inr (.inr (.inr ⟨rfl, rfl⟩)))))

/-- **What is advised is what there is cause for.**  Whatever the features, the plan, the registry
and the threshold are, the advice that is given is the list that `Advised` describes.  Advice is given
unless the plan costs more than the threshold and the cost is too long to be written into the review,
and then there is none at all. -/
theorem advised_recommend (threshold : Int) (f : Sql.Features) (plan : Plan) (r : Registry) :
    (∀ advice, Advice.recommend threshold f plan r = .ok advice →
      Advised threshold f plan r advice) ∧
    ((∃ advice, Advice.recommend threshold f plan r = .ok advice) ↔
      (threshold < plan.totalCost → IsShort plan.totalCost)) ∧
    (Advice.recommend threshold f plan r = .error .tooMany ↔
      threshold < plan.totalCost ∧ ¬IsShort plan.totalCost) :=
  ⟨fun _ => advised_of_recommend, exists_recommend_iff,
    recommend_eq_error_iff.trans Classical.not_imp⟩

/-- A plan of one scan whose cost has one digit too many gets no advice, not even the review that its
cost calls for. -/
theorem not_advised_long_cost :
    let f : Sql.Features := { tables := ["t"] }
    let plan : Plan := ⟨[⟨1, .scan, 10 ^ digitLimit, "Scan t"⟩], 10 ^ digitLimit, []⟩
    plan.checked = .ok plan ∧ (100 : Int) < plan.totalCost ∧
      Advice.recommend 100 f plan ⟨[]⟩ = .error .tooMany ∧
      ¬∃ advice, Advice.recommend 100 f plan ⟨[]⟩ = .ok advice ∧ Advised 100 f plan ⟨[]⟩ advice := by
  intro f plan
  have hcost : (100 : Int) < plan.totalCost := by
    have hpow : 100 < 10 ^ digitLimit := isShort_iff.mp (by decide +kernel)
    exact_mod_cast hpow
  have hnone : Advice.recommend 100 f plan ⟨[]⟩ = .error .tooMany :=
    recommend_eq_error_iff.mpr fun hshort => not_isShort_pow (hshort hcost)
  refine ⟨by simp [plan, Plan.checked, costOf, OperationKind.rank], hcost, hnone, ?_⟩
  rintro ⟨advice, hsome, -⟩
  rw [hnone] at hsome
  cases hsome

end SqlAdvice
