import SqlAdvice.Plan.Synthesis
import SqlAdvice.Proofs.Draws
import SqlAdvice.Proofs.WellFormedPlans
import Mathlib.Algebra.GroupWithZero.Nat
import Mathlib.Algebra.Order.BigOperators.Group.List
import Mathlib.Algebra.Order.Group.Nat

/-!
# The shape of a plan

A plan is made in three steps: the features ask for operations (`Plan.steps`), each of them is
priced by one draw, and the priced operations are numbered and checked (`Plan.assemble`).  This file
follows them in that order.

The check of the last step can never fail for prices that are not negative: the steps come out
ordered by kind with one sort at most, whatever the features are (`kindsOf_mem_shape`), so the plan
is well-formed (`assemble_eq_valid`).  With a source that serves, `Plan.synthesize` therefore always
returns, and `Plan.Realises` collects what is known of the plan then (`exists_realises_synthesize`).

The prices are also followed on the recorded source.  The list that it keeps has one request for
each operation, in the order of the operations, and the request names the range of the operation's
kind; so the number of draws of a plan is the number of its operations.
-/

namespace SqlAdvice.Plan

variable {σ : Type}

/-! ## Numbering -/

/-- The operations for priced steps, numbered from `id` on. -/
def numberedFrom (id : Nat) : List (Step × Int) → List Operation
  | [] => []
  | (step, cost) :: rest =>
    ⟨id, step.kind, cost.toNat, step.description⟩ :: numberedFrom (id + 1) rest

@[simp] lemma length_numberedFrom (id : Nat) (priced : List (Step × Int)) :
    (numberedFrom id priced).length = priced.length := by
  induction priced generalizing id with
  | nil => rfl
  | cons p priced ih => simp [numberedFrom, ih]

lemma ids_numberedFrom (id : Nat) (priced : List (Step × Int)) :
    (numberedFrom id priced).map (·.id) = List.range' id priced.length := by
  induction priced generalizing id with
  | nil => rfl
  | cons p priced ih => simp [numberedFrom, ih, List.range'_succ]

/-- Numbering is a map but for the numbers: whatever is read off an operation without its number is
read off its step and its price. -/
lemma map_numberedFrom {α : Type} {g : Operation → α} {h : Step × Int → α}
    (hg : ∀ id p, g ⟨id, p.1.kind, p.2.toNat, p.1.description⟩ = h p) (id : Nat)
    (priced : List (Step × Int)) : (numberedFrom id priced).map g = priced.map h := by
  induction priced generalizing id with
  | nil => rfl
  | cons p priced ih =>
    rw [numberedFrom, List.map_cons, List.map_cons, ih]
    exact congrArg (· :: _) (hg id p)

lemma mem_numberedFrom {id : Nat} {priced : List (Step × Int)} {op : Operation}
    (h : op ∈ numberedFrom id priced) :
    ∃ p ∈ priced, op.kind = p.1.kind ∧ op.cost = p.2.toNat := by
  have hmem : (op.kind, op.cost) ∈ (numberedFrom id priced).map fun op => (op.kind, op.cost) :=
    List.mem_map_of_mem h
  rw [map_numberedFrom (h := fun p => (p.1.kind, p.2.toNat)) (fun _ _ => rfl)] at hmem
  obtain ⟨p, hp, heq⟩ := List.mem_map.mp hmem
  obtain ⟨hkind, hcost⟩ := Prod.mk.inj heq
  exact ⟨p, hp, hkind.symm, hcost.symm⟩

lemma operationsFrom_of_nonneg {priced : List (Step × Int)} (h : ∀ p ∈ priced, 0 ≤ p.2)
    (id : Nat) : operationsFrom id priced = .valid (numberedFrom id priced) := by
  induction priced generalizing id with
  | nil => rfl
  | cons p priced ih =>
    have hp : ¬ p.2 < 0 := by
      have := h p List.mem_cons_self
      omega
    have hrest := ih (fun q hq => h q (List.mem_cons_of_mem p hq)) (id + 1)
    simp [operationsFrom, operationFor, hp, hrest, numberedFrom, Record.Checked.andThen,
      Record.Checked.map]

/-! ## The steps are in order -/

/-- One scan for every table, one join for every predicate, one filter for every condition, and one
sort where the statement sorts. -/
def kindsOf (f : Sql.Features) : List OperationKind :=
  List.replicate f.tables.length .scan ++ List.replicate f.joinPredicates.length .join ++
    List.replicate f.conditions.length .filter ++ if f.sorts then [.sort] else []

lemma kinds_steps (f : Sql.Features) (r : Registry) :
    (steps f r).map (·.kind) = kindsOf f := by
  have hsort : (f.orderBy.toList.map fun o => (⟨.sort, "Sort by " ++ o⟩ : Step)).map (·.kind) =
      if f.sorts then [.sort] else [] := by
    cases ho : f.orderBy <;> simp [Sql.Features.sorts, ho]
  simp only [steps, List.map_append, hsort, kindsOf]
  simp [List.map_map, Function.comp_def, List.map_const', scanStep]

/-- The kinds that the features ask for are those of a well-formed plan. -/
lemma kindsOf_mem_shape (f : Sql.Features) : kindsOf f ∈ OperationKind.shape.matches' := by
  have hblock : ∀ n kind, List.replicate n kind ∈
      (RegularExpression.star (.char kind) : RegularExpression OperationKind).matches' :=
    fun n kind => OperationKind.mem_kstar_singleton_iff.mpr ⟨n, rfl⟩
  have hsorts : (if f.sorts then [.sort] else []) ∈
      (1 + .char .sort : RegularExpression OperationKind).matches' := by
    cases f.sorts
    · exact .inl rfl
    · exact .inr rfl
  exact Language.append_mem_mul (Language.append_mem_mul
    (Language.append_mem_mul (hblock _ _) (hblock _ _)) (hblock _ _)) hsorts

/-! ## The check -/

/-- The plan for priced steps before it is checked. -/
def ofPriced (priced : List (Step × Int)) (warnings : List String) : Plan where
  operations := numberedFrom 1 priced
  totalCost := costOf (numberedFrom 1 priced)
  warnings := warnings.eraseDups

@[simp] lemma operations_ofPriced (priced : List (Step × Int)) (warnings : List String) :
    (ofPriced priced warnings).operations = numberedFrom 1 priced := rfl

lemma asRecord_eq_valid {p : Plan} (h : p.checked = .ok p) : asRecord p = .valid p := by
  rw [asRecord, h]

/-- The plan for priced steps, once the prices are not negative and the kinds are in order. -/
lemma assemble_eq_valid {f : Sql.Features} {priced : List (Step × Int)}
    (hkinds : priced.map (·.1.kind) = kindsOf f) (hnonneg : ∀ p ∈ priced, 0 ≤ p.2)
    (warnings : List String) :
    assemble priced warnings = .valid (ofPriced priced warnings) := by
  have hwell : (ofPriced priced warnings).WellFormed := by
    constructor
    case kinds =>
      rw [kinds, operations_ofPriced, map_numberedFrom (h := fun p => p.1.kind) (fun _ _ => rfl),
        hkinds]
      exact kindsOf_mem_shape f
    case numbered =>
      rw [isNumbered_iff, operations_ofPriced, ids_numberedFrom, length_numberedFrom]
    case total => exact costOf_eq_sum _
    case warnings => exact nodup_eraseDups warnings
  rw [assemble, operationsFrom_of_nonneg hnonneg]
  exact asRecord_eq_valid (checked_eq_ok_iff.mpr hwell)

/-- Whatever is drawn, the warnings of a plan are the given ones without repeats. -/
lemma warnings_of_assemble {priced : List (Step × Int)} {warnings : List String} {plan : Plan}
    (h : assemble priced warnings = .valid plan) : plan.warnings = warnings.eraseDups := by
  unfold assemble at h
  cases hops : operationsFrom 1 priced with
  | invalid issues => simp [hops, Record.Checked.andThen] at h
  | valid ops =>
    simp only [hops, Record.Checked.andThen, asRecord] at h
    split at h
    · rename_i p hp
      rw [← Record.Checked.valid.inj h, eq_of_checked hp]
    · simp [Record.Checked.fail] at h

/-! ## Prices -/

/-- The price of a step lies in the range of its kind. -/
def InRange (costs : CostModel) (p : Step × Int) : Prop :=
  ((costs.range p.1.kind).base : Int) ≤ p.2 ∧ p.2 ≤ ((costs.range p.1.kind).maximum : Int)

/-- The draw that leads to a cost: the number that is added to the base of the range. -/
def requestFor (costs : CostModel) (kind : OperationKind) (cost : Int) : Request :=
  .integer 0 ((costs.range kind).spread - 1) (cost - (costs.range kind).base)

lemma price_outcome_of_integer {src : Source σ} {costs : CostModel} {step : Step} {s s' : σ}
    {i : Int}
    (h : (src.integer 0 ((costs.range step.kind).spread - 1)).outcome s = (.ok i, s')) :
    (price src costs step).outcome s = (.ok (step, (costs.range step.kind).base + i), s') := by
  have hdraw : ((costs.range step.kind).draw src).outcome s =
      (.ok ((costs.range step.kind).base + i), s') := by
    rw [CostRange.draw, Draw.outcome_bind_of_ok h]
    rfl
  rw [price, Draw.outcome_bind_of_ok hdraw]
  rfl

/-- One step: a source that serves prices it within its range, by the one draw that the recorded
source notes. -/
lemma price_outcome {src : Source σ} (hsrc : src.Serves) (costs : CostModel) (step : Step)
    (s : σ) :
    ∃ cost s', (price src costs step).outcome s = (.ok (step, cost), s') ∧
      InRange costs (step, cost) ∧
      ∀ log, (price src.recorded costs step).outcome (s, log) =
        (.ok (step, cost), (s', log ++ [requestFor costs step.kind cost])) := by
  have hpos := (costs.range step.kind).spread_pos
  obtain ⟨i, s', hi, hlow, hhigh⟩ :=
    hsrc 0 ((costs.range step.kind).spread - 1) s (by omega)
  refine ⟨(costs.range step.kind).base + i, s', price_outcome_of_integer hi, ?_, fun log => ?_⟩
  · constructor
    · change ((costs.range step.kind).base : Int) ≤ (costs.range step.kind).base + i
      omega
    · change (costs.range step.kind).base + i ≤ ((costs.range step.kind).maximum : Int)
      rw [CostRange.maximum]
      omega
  · have hanswer : (costs.range step.kind).base + i - (costs.range step.kind).base = i := by omega
    rw [requestFor, hanswer]
    exact price_outcome_of_integer (Draw.outcome_noting_of_ok hi log)

/-- All steps, by induction on them: the recorded source notes one request for each, in order. -/
lemma prices_outcome {src : Source σ} (hsrc : src.Serves) (costs : CostModel) (todo : List Step)
    (s : σ) :
    ∃ priced s', (todo.mapM (price src costs)).outcome s = (.ok priced, s') ∧
      priced.map (·.1) = todo ∧ (∀ p ∈ priced, InRange costs p) ∧
      ∀ log, (todo.mapM (price src.recorded costs)).outcome (s, log) =
        (.ok priced, (s', log ++ priced.map fun p => requestFor costs p.1.kind p.2)) := by
  induction todo generalizing s with
  | nil => exact ⟨[], s, rfl, rfl, by simp, fun log => by simp⟩
  | cons step todo ih =>
    obtain ⟨cost, s₁, hprice, hrange, hnoted⟩ := price_outcome hsrc costs step s
    obtain ⟨priced, s₂, hrest, hsteps, hranges, hrestNoted⟩ := ih s₁
    refine ⟨(step, cost) :: priced, s₂, ?_, by simp [hsteps], ?_, fun log => ?_⟩
    · rw [List.mapM_cons, Draw.outcome_bind_of_ok hprice, Draw.outcome_bind_of_ok hrest]
      rfl
    · intro p hp
      rcases List.mem_cons.mp hp with rfl | hp
      · exact hrange
      · exact hranges p hp
    · rw [List.mapM_cons, Draw.outcome_bind_of_ok (hnoted log),
        Draw.outcome_bind_of_ok (hrestNoted _)]
      simp

/-! ## Whole plans -/

/-- A plan comes from priced steps and the warnings of the features. -/
lemma synthesize_outcome_eq_ok {src : Source σ} {costs : CostModel} {f : Sql.Features}
    {r : Registry} {s s' : σ} {plan : Plan} :
    (synthesize src costs f r).outcome s = (.ok plan, s') ↔
      ∃ priced, ((steps f r).mapM (price src costs)).outcome s = (.ok priced, s') ∧
        assemble priced (allWarnings f r) = .valid plan := by
  rw [synthesize, Draw.outcome_bind_eq_ok]
  constructor
  · rintro ⟨priced, s₁, hpriced, h⟩
    cases hplan : assemble priced (allWarnings f r) with
    | invalid issues => simp [hplan] at h
    | valid p =>
      simp only [hplan, Draw.outcome_pure, Prod.mk.injEq, Except.ok.injEq] at h
      obtain ⟨rfl, rfl⟩ := h
      exact ⟨priced, hpriced, hplan⟩
  · rintro ⟨priced, hpriced, hplan⟩
    exact ⟨priced, s', hpriced, by simp [hplan]⟩

/-- The warnings of a plan are those of the features and the registry, whatever is drawn. -/
lemma warnings_of_synthesize {src : Source σ} {costs : CostModel} {f : Sql.Features}
    {r : Registry} {s s' : σ} {plan : Plan}
    (h : (synthesize src costs f r).outcome s = (.ok plan, s')) :
    plan.warnings = (allWarnings f r).eraseDups := by
  obtain ⟨priced, -, hplan⟩ := synthesize_outcome_eq_ok.mp h
  exact warnings_of_assemble hplan

/-- What the plan for some features looks like.

The operations are those that the features ask for, numbered from one, with the scans first and the
sort, if there is one, last; every cost lies in the range of its kind, the total is the sum of the
costs, and no warning is repeated. -/
structure Realises (costs : CostModel) (f : Sql.Features) (r : Registry) (plan : Plan) : Prop where
  kinds : plan.operations.map (·.kind) = kindsOf f
  descriptions : plan.operations.map (·.description) = (steps f r).map (·.description)
  ids : plan.operations.map (·.id) = List.range' 1 plan.operations.length
  cost_bounds : ∀ op ∈ plan.operations,
    (costs.range op.kind).base ≤ op.cost ∧ op.cost ≤ (costs.range op.kind).maximum
  total : plan.totalCost = (plan.operations.map (·.cost)).sum
  base_le_total : ((kindsOf f).map fun k => (costs.range k).base).sum ≤ plan.totalCost
  total_le_maximum : plan.totalCost ≤ ((kindsOf f).map fun k => (costs.range k).maximum).sum
  warnings_nodup : plan.warnings.Nodup

/-- Priced steps within their ranges make a plan that realises the features. -/
lemma realises_of_inRange {costs : CostModel} {f : Sql.Features} {r : Registry}
    {priced : List (Step × Int)} {warnings : List String} (hsteps : priced.map (·.1) = steps f r)
    (hrange : ∀ p ∈ priced, InRange costs p) :
    Realises costs f r (ofPriced priced warnings) := by
  have hkinds : (numberedFrom 1 priced).map (·.kind) = kindsOf f := by
    rw [map_numberedFrom (h := fun p => p.1.kind) (fun _ _ => rfl), ← kinds_steps f r, ← hsteps,
      List.map_map]
    rfl
  have hcosts : ∀ op ∈ numberedFrom 1 priced,
      (costs.range op.kind).base ≤ op.cost ∧ op.cost ≤ (costs.range op.kind).maximum := by
    intro op hop
    obtain ⟨p, hp, hkind, hcost⟩ := mem_numberedFrom hop
    obtain ⟨hlow, hhigh⟩ := hrange p hp
    rw [hkind, hcost]
    omega
  have htotal : (ofPriced priced warnings).totalCost =
      ((numberedFrom 1 priced).map (·.cost)).sum := costOf_eq_sum _
  refine ⟨hkinds, ?_, ?_, hcosts, htotal, ?_, ?_, nodup_eraseDups warnings⟩
  · rw [operations_ofPriced, map_numberedFrom (h := fun p => p.1.description) (fun _ _ => rfl),
      ← hsteps, List.map_map]
    rfl
  · rw [operations_ofPriced, ids_numberedFrom, length_numberedFrom]
  · rw [← hkinds, List.map_map, htotal]
    exact List.sum_le_sum fun op hop => (hcosts op hop).1
  · rw [← hkinds, List.map_map, htotal]
    exact List.sum_le_sum fun op hop => (hcosts op hop).2

/-- A source that serves always leads to a plan, and the recorded source to the same one: the
priced steps are those that the features ask for. -/
lemma exists_priced_synthesize {src : Source σ} (hsrc : src.Serves) (costs : CostModel)
    (f : Sql.Features) (r : Registry) (s : σ) :
    ∃ priced s', priced.map (·.1) = steps f r ∧ (∀ p ∈ priced, InRange costs p) ∧
      (synthesize src costs f r).outcome s = (.ok (ofPriced priced (allWarnings f r)), s') ∧
      ∀ log, (synthesize src.recorded costs f r).outcome (s, log) =
        (.ok (ofPriced priced (allWarnings f r)),
          (s', log ++ priced.map fun p => requestFor costs p.1.kind p.2)) := by
  obtain ⟨priced, s', hpriced, hsteps, hrange, hnoted⟩ := prices_outcome hsrc costs (steps f r) s
  have hkinds : priced.map (·.1.kind) = kindsOf f := by
    rw [← kinds_steps f r, ← hsteps, List.map_map]
    rfl
  have hplan := assemble_eq_valid hkinds
    (fun p hp => (Int.natCast_nonneg _).trans (hrange p hp).1) (allWarnings f r)
  exact ⟨priced, s', hsteps, hrange, synthesize_outcome_eq_ok.mpr ⟨priced, hpriced, hplan⟩,
    fun log => synthesize_outcome_eq_ok.mpr ⟨priced, hnoted log, hplan⟩⟩

/-- **Synthesis always succeeds** with a source that serves, for any features, registry and costs.
The plan realises the features, and the draws that lead to it are one for each operation, in the
order of the operations and each from the range of its kind; there are no others. -/
theorem exists_realises_synthesize {src : Source σ} (hsrc : src.Serves) (costs : CostModel)
    (f : Sql.Features) (r : Registry) (s : σ) :
    ∃ plan s', (synthesize src costs f r).outcome s = (.ok plan, s') ∧ Realises costs f r plan ∧
      (synthesize src.recorded costs f r).outcome (s, []) =
        (.ok plan, (s', plan.operations.map fun op => requestFor costs op.kind op.cost)) := by
  obtain ⟨priced, s', hsteps, hrange, hplan, hnoted⟩ :=
    exists_priced_synthesize hsrc costs f r s
  have hlog : priced.map (fun p => requestFor costs p.1.kind p.2) =
      (numberedFrom 1 priced).map fun op => requestFor costs op.kind op.cost := by
    rw [map_numberedFrom (h := fun p => requestFor costs p.1.kind (p.2.toNat : Int))
      (fun _ _ => rfl)]
    refine List.map_congr_left fun p hp => ?_
    rw [Int.toNat_of_nonneg ((Int.natCast_nonneg _).trans (hrange p hp).1)]
  refine ⟨_, s', hplan, realises_of_inRange hsteps hrange, ?_⟩
  rw [hnoted [], List.nil_append, hlog]
  rfl

/-- The generator serves; here it draws for a scan, a filter and a sort. -/
theorem exists_realises_synthesize_twister :
    let f : Sql.Features :=
      { tables := ["Orders"], conditions := ["Total > 10"], orderBy := some "OrderDate" }
    let r : Registry := ⟨[⟨"orders", "INDEX ON Orders(Total)"⟩]⟩
    Twister.source.Serves ∧
      ∃ plan s', (synthesize Twister.source {} f r).outcome (Twister.ofSeed 7) = (.ok plan, s') ∧
        Realises {} f r plan ∧
        (synthesize Twister.source.recorded {} f r).outcome (Twister.ofSeed 7, []) =
          (.ok plan, (s', plan.operations.map fun op => requestFor {} op.kind op.cost)) :=
  ⟨Twister.source_serves, exists_realises_synthesize Twister.source_serves _ _ _ _⟩

end SqlAdvice.Plan
