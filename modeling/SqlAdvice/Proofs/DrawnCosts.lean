import SqlAdvice.Proofs.Synthesis

/-!
# Plans from drawn costs

A plan draws one cost for each of its operations and nothing else, and the ranges that it draws from
are those of the kinds of the operations (`costsFor`).  Neither what an operation is called nor what
is warned of has a part in it: `synthesize_outcome` says what a plan is in terms of the costs that
were drawn, for any source, be it one that fails or one that does not keep to its bounds.

The numbers of a plan are the ids, the kinds and the costs of its operations.  They are read off the
kinds and the costs that were drawn (`numbers_withCosts`).
-/

namespace SqlAdvice.Plan

variable {σ : Type}

/-! ## Drawing costs -/

/-- Draws a cost for each of some kinds. -/
def costsFor (src : Source σ) (costs : CostModel) (kinds : List OperationKind) :
    Draw σ (List Int) :=
  kinds.mapM fun kind => (costs.range kind).draw src

lemma costsFor_cons (src : Source σ) (costs : CostModel) (kind : OperationKind)
    (kinds : List OperationKind) :
    costsFor src costs (kind :: kinds) = do
      let cost ← (costs.range kind).draw src
      let drawn ← costsFor src costs kinds
      return cost :: drawn :=
  List.mapM_cons

/-- As many costs are drawn as there are kinds. -/
lemma length_of_costsFor {src : Source σ} {costs : CostModel} {kinds : List OperationKind}
    {drawn : List Int} {s s' : σ} (h : (costsFor src costs kinds).outcome s = (.ok drawn, s')) :
    drawn.length = kinds.length := by
  induction kinds generalizing s s' drawn with
  | nil =>
    obtain ⟨hdrawn, -⟩ := Prod.mk.inj h
    rw [← Except.ok.inj hdrawn]
    rfl
  | cons kind kinds ih =>
    rw [costsFor_cons, Draw.outcome_bind_eq_ok] at h
    obtain ⟨cost, s₁, -, h⟩ := h
    rw [Draw.outcome_bind_eq_ok] at h
    obtain ⟨rest, s₂, hrest, h⟩ := h
    obtain ⟨hdrawn, -⟩ := Prod.mk.inj h
    rw [← Except.ok.inj hdrawn, List.length_cons, ih hrest, List.length_cons]

lemma price_eq_map (src : Source σ) (costs : CostModel) (step : Step) :
    price src costs step = (fun cost => (step, cost)) <$> (costs.range step.kind).draw src := by
  rw [price, map_eq_pure_bind]

/-- Pricing steps is drawing costs for their kinds. -/
lemma mapM_price (src : Source σ) (costs : CostModel) (todo : List Step) :
    todo.mapM (price src costs) =
      (fun drawn => todo.zip drawn) <$> costsFor src costs (todo.map (·.kind)) := by
  induction todo with
  | nil => simp [costsFor]
  | cons step todo ih =>
    rw [List.mapM_cons, ih, price_eq_map, List.map_cons, costsFor_cons]
    simp

/-! ## Assembling -/

/-- What is wrong with an operation whose cost is below zero. -/
def negativeCost : List Record.Issue :=
  [⟨[.field "cost"], .belowMinimum⟩]

lemma operationsFrom_of_neg {priced : List (Step × Int)} (h : ∃ p ∈ priced, p.2 < 0) (id : Nat) :
    operationsFrom id priced = .invalid negativeCost := by
  induction priced generalizing id with
  | nil => simp at h
  | cons p priced ih =>
    rw [operationsFrom, operationFor]
    by_cases hp : p.2 < 0
    · rw [if_pos hp]
      rfl
    · have hrest : ∃ q ∈ priced, q.2 < 0 := by
        obtain ⟨q, hq, hneg⟩ := h
        obtain rfl | hq := List.mem_cons.mp hq
        · exact absurd hneg hp
        · exact ⟨q, hq, hneg⟩
      rw [if_neg hp, Record.Checked.andThen, ih hrest]
      rfl

/-- Assembling fails only on a cost below zero: steps of a statement are in order. -/
lemma assemble_eq {f : Sql.Features} {priced : List (Step × Int)}
    (hkinds : priced.map (·.1.kind) = kindsOf f) (warnings : List String) :
    assemble priced warnings =
      if ∀ p ∈ priced, 0 ≤ p.2 then .valid (ofPriced priced warnings)
      else .invalid negativeCost := by
  split
  · rename_i hnonneg
    exact assemble_eq_valid hkinds hnonneg warnings
  · rename_i hneg
    rw [assemble, operationsFrom_of_neg (by simpa using hneg)]
    rfl

/-- The plan for some features whose operations cost what was drawn. -/
def withCosts (f : Sql.Features) (r : Registry) (drawn : List Int) : Plan :=
  ofPriced ((steps f r).zip drawn) (allWarnings f r)

/-- **What a plan is made of**: the costs that were drawn, given to the steps in order.  It fails
where a draw does, or else on a cost below zero. -/
lemma synthesize_outcome (src : Source σ) (costs : CostModel) (f : Sql.Features) (r : Registry)
    (s : σ) :
    (synthesize src costs f r).outcome s =
      match (costsFor src costs (kindsOf f)).outcome s with
      | (.error cause, s') => (.error cause, s')
      | (.ok drawn, s') =>
        (if ∀ cost ∈ drawn, 0 ≤ cost then .ok (withCosts f r drawn)
          else .error (.invalidRecord negativeCost), s') := by
  rw [synthesize, mapM_price, kinds_steps, Draw.outcome_bind, Draw.outcome_map]
  rcases hdrawn : (costsFor src costs (kindsOf f)).outcome s with ⟨cause | drawn, s'⟩
  · rfl
  · have hlength : drawn.length = (steps f r).length := by
      rw [length_of_costsFor hdrawn, ← kinds_steps f r, List.length_map]
    have hkinds : ((steps f r).zip drawn).map (·.1.kind) = kindsOf f := calc
      ((steps f r).zip drawn).map (·.1.kind) =
          (((steps f r).zip drawn).map Prod.fst).map (·.kind) := by rw [List.map_map]; rfl
      _ = kindsOf f := by rw [List.map_fst_zip hlength.ge, kinds_steps]
    have hnonneg : (∀ p ∈ (steps f r).zip drawn, 0 ≤ p.2) ↔ ∀ cost ∈ drawn, 0 ≤ cost := by
      rw [← List.forall_mem_map (f := Prod.snd) (P := fun cost => 0 ≤ cost),
        List.map_snd_zip hlength.le]
    dsimp only
    rw [assemble_eq hkinds]
    by_cases hdrawn' : ∀ cost ∈ drawn, 0 ≤ cost
    · rw [if_pos (hnonneg.mpr hdrawn'), if_pos hdrawn']
      rfl
    · rw [if_neg (hnonneg.not.mpr hdrawn'), if_neg hdrawn']
      rfl

/-- Whatever is drawn, the operations of a plan are described as the steps are. -/
lemma descriptions_of_synthesize {src : Source σ} {costs : CostModel} {f : Sql.Features}
    {r : Registry} {s s' : σ} {plan : Plan}
    (h : (synthesize src costs f r).outcome s = (.ok plan, s')) :
    plan.operations.map (·.description) = (steps f r).map (·.description) := by
  rw [synthesize_outcome] at h
  rcases hdrawn : (costsFor src costs (kindsOf f)).outcome s with ⟨cause | drawn, s₁⟩
  · simp [hdrawn] at h
  · rw [hdrawn] at h
    have hlength : (steps f r).length ≤ drawn.length := by
      rw [length_of_costsFor hdrawn, ← kinds_steps f r, List.length_map]
    obtain ⟨hplan, -⟩ := Prod.mk.inj h
    split at hplan
    · rw [← Except.ok.inj hplan, withCosts, operations_ofPriced,
        map_numberedFrom (h := fun p => p.1.description) fun _ _ => rfl]
      calc ((steps f r).zip drawn).map (fun p => p.1.description) =
          (((steps f r).zip drawn).map Prod.fst).map (·.description) := by rw [List.map_map]; rfl
        _ = (steps f r).map (·.description) := by rw [List.map_fst_zip hlength]
    · cases hplan

/-! ## Numbers -/

/-- The number, the kind and the cost of every operation. -/
def numbers (p : Plan) : List (Nat × OperationKind × Nat) :=
  p.operations.map fun op => (op.id, op.kind, op.cost)

lemma numbers_numberedFrom (id : Nat) (todo : List Step) (drawn : List Int) :
    (numberedFrom id (todo.zip drawn)).map (fun op => (op.id, op.kind, op.cost)) =
      (List.range' id drawn.length).zip ((todo.map (·.kind)).zip (drawn.map Int.toNat)) := by
  induction todo generalizing id drawn with
  | nil => simp [numberedFrom]
  | cons step todo ih =>
    cases drawn with
    | nil => simp [numberedFrom]
    | cons cost drawn => simp [numberedFrom, ih, List.range'_succ]

/-- The numbers of a plan, whatever its steps are called and whatever it warns of. -/
lemma numbers_withCosts (f : Sql.Features) (r : Registry) (drawn : List Int) :
    (withCosts f r drawn).numbers =
      (List.range' 1 drawn.length).zip ((kindsOf f).zip (drawn.map Int.toNat)) := by
  rw [← kinds_steps f r]
  exact numbers_numberedFrom 1 (steps f r) drawn

lemma totalCost_withCosts (f : Sql.Features) (r : Registry) (drawn : List Int) :
    (withCosts f r drawn).totalCost = ((withCosts f r drawn).numbers.map (·.2.2)).sum := by
  rw [numbers, List.map_map]
  exact costOf_eq_sum _

end SqlAdvice.Plan
