import SqlAdvice.Proofs.DrawBudget
import SqlAdvice.Proofs.DrawnCosts
import SqlAdvice.Proofs.Features
import SqlAdvice.Proofs.Findings
import SqlAdvice.Proofs.ShortNumbers
import SqlAdvice.Proofs.Stages
import SqlAdvice.Proofs.TimeRounding
import SqlAdvice.Proofs.WholeWords

/-!
# Failing sources

An analysis draws one cost for every operation of the plan and then six numbers for the statistics
(`Plan.takes_synthesize`, `Statistics.takes_synthesize`).  A source that gives out is therefore
noticed in the stage that makes the draw that fails, and nowhere else: the advice between the two
does not draw at all.  `outcome_of_servesThen` says which stage that is by counting, and that a source
that lasts leaves nothing to fail: an analysis is made, and takes as many draws as were counted.

There is one failure besides that of the source.  Costs can be drawn whose sum is above the threshold
and too long to be written into the review.  The advice fails then, whatever the source has left, and
no statistics are drawn.

The part on sources that last rests on the rounding of the times, and so on the size of the
statement.  A text has fewer than `2 ^ 63` characters, as many as can be addressed, and so it has
fewer joins and conditions than that (`length_joinPredicates_le`, `length_conditions_le`) and a time
that is well within the doubles.
-/

namespace SqlAdvice

open SqlAdvice.Number

/-! ## The size of a statement -/

namespace Sql

lemma length_predicateSpans_le (skip : Nat) (prev quote : Option Char) (cs : List Char) :
    (predicateSpans skip prev quote cs).length ≤ cs.length := by
  induction cs generalizing skip prev quote with
  | nil => cases skip <;> exact Nat.le_refl 0
  | cons c cs ih =>
    cases skip with
    | succ skip => exact (ih _ _ _).trans (Nat.le_succ _)
    | zero =>
      rw [predicateSpans]
      split
      · exact Nat.succ_le_succ (ih _ _ _)
      · exact (ih _ _ _).trans (Nat.le_succ _)

lemma length_topLevelParts_le (skip : Nat) (prev quote : Option Char) (depth : Nat)
    (cs : List Char) : (topLevelParts skip prev quote depth cs).2.length ≤ cs.length := by
  induction cs generalizing skip prev quote depth with
  | nil => cases skip <;> exact Nat.le_refl 0
  | cons c cs ih =>
    cases skip with
    | succ skip => exact (ih _ _ _ _).trans (Nat.le_succ _)
    | zero =>
      rw [topLevelParts]
      split
      · exact (ih _ _ _ _).trans (Nat.le_succ _)
      · split
        · exact Nat.succ_le_succ (ih _ _ _ _)
        · exact (ih _ _ _ _).trans (Nat.le_succ _)

lemma length_cleanAll_le (fragments : List (List Char)) :
    (cleanAll fragments).length ≤ fragments.length :=
  (List.length_filter_le _ _).trans_eq (List.length_map _)

lemma length_upToPhrase_le (phrases : List (List Keyword)) (prev : Option Char) (cs : List Char) :
    (upToPhrase phrases prev cs).length ≤ cs.length := by
  induction cs generalizing prev with
  | nil => exact Nat.le_refl 0
  | cons c cs ih =>
    rw [upToPhrase]
    split
    · exact Nat.zero_le _
    · exact Nat.succ_le_succ (ih _)

/-- A keyword takes a character at least. -/
lemma length_lt_of_afterPhrase? {k : Keyword} {prev : Option Char} {cs rest : List Char}
    (h : afterPhrase? [k] prev cs = some rest) : rest.length < cs.length := by
  induction cs generalizing prev with
  | nil => simp [afterPhrase?] at h
  | cons c cs ih =>
    rw [afterPhrase?] at h
    split at h
    · rename_i hword
      obtain ⟨-, hread, -⟩ := wordPhrase?_singleton_eq_some.mp hword
      have hpos := List.length_pos_of_ne_nil (letters_ne_nil k)
      have hlength := letters?_length hread
      rw [← Option.some.inj h]
      omega
    · exact (ih h).trans (Nat.lt_succ_self _)

lemma length_joinPredicates_le (sql : List Char) : (joinPredicates sql).length ≤ sql.length :=
  (length_cleanAll_le _).trans (length_predicateSpans_le _ _ _ _)

lemma length_conditions_le (sql : List Char) : (conditions sql).length ≤ sql.length := by
  rw [conditions]
  split
  · exact Nat.zero_le _
  · rename_i rest hrest
    calc (splitTopLevel (upToPhrase whereEnds none rest)).length
        ≤ (topLevelParts 0 none none 0 (upToPhrase whereEnds none rest)).2.length + 1 :=
          length_cleanAll_le _
      _ ≤ (upToPhrase whereEnds none rest).length + 1 :=
          Nat.succ_le_succ (length_topLevelParts_le _ _ _ _ _)
      _ ≤ rest.length + 1 := Nat.succ_le_succ (length_upToPhrase_le _ _ _)
      _ ≤ sql.length := length_lt_of_afterPhrase? hrest

end Sql

/-- The time that a statement adds is at most forty for each of its characters, and forty. -/
lemma Statistics.shapeTime_le {text : String} {f : Sql.Features} (h : Sql.extract text = .ok f) :
    shapeTime f ≤ 40 * text.length + 40 := by
  have hjoins : f.joinPredicates.length ≤ text.length := by
    rw [Sql.eq_read_of_extract h, ← String.length_toList]
    exact (List.length_map _).trans_le (Sql.length_joinPredicates_le _)
  have hconditions : f.conditions.length ≤ text.length := by
    rw [Sql.eq_read_of_extract h, ← String.length_toList]
    exact (List.length_map _).trans_le (Sql.length_conditions_le _)
  rw [shapeTime]
  split <;> omega

/-! ## Draws of the stages -/

variable {σ : Type} {src : Source σ}

/-- The number of operations of the plan for some features. -/
def planSize (f : Sql.Features) : Nat :=
  f.tables.length + f.joinPredicates.length + f.conditions.length + if f.sorts then 1 else 0

lemma length_kindsOf (f : Sql.Features) : (Plan.kindsOf f).length = planSize f := by
  simp only [Plan.kindsOf, planSize, List.length_append, List.length_replicate]
  cases f.sorts <;> rfl

namespace Plan

lemma takes_costsFor (costs : CostModel) (kinds : List OperationKind) :
    Draw.Takes src kinds.length (fun drawn => ∀ cost ∈ drawn, 0 ≤ cost)
      (costsFor src costs kinds) := by
  induction kinds with
  | nil => exact Draw.takes_pure fun cost hcost => absurd hcost List.not_mem_nil
  | cons kind kinds ih =>
    have hspread := (costs.range kind).spread_pos
    rw [costsFor_cons, CostRange.draw, bind_assoc]
    refine Draw.takes_integer_bind (by omega) fun i hlow _ => ?_
    rw [pure_bind]
    refine Draw.takes_bind (m := 0) ih fun drawn hdrawn => Draw.takes_pure ?_
    exact List.forall_mem_cons.mpr ⟨by omega, hdrawn⟩

/-- **The plan** takes a draw for every operation, and nothing but the source can make it fail. -/
lemma takes_synthesize (costs : CostModel) (f : Sql.Features) (r : Registry) :
    Draw.Takes src (planSize f) (fun _ => True) (synthesize src costs f r) := by
  intro e k s hs
  rw [synthesize_outcome]
  rcases takes_costsFor costs (kindsOf f) hs with
    ⟨hk, herror⟩ | ⟨drawn, s', hk, hvalue, hnonneg, hs'⟩
  · obtain ⟨s', hdrawn⟩ := Draw.exists_state herror
    rw [hdrawn]
    exact .inl ⟨length_kindsOf f ▸ hk, rfl⟩
  · rw [length_kindsOf] at hk hs'
    rw [hvalue]
    dsimp only
    rw [if_pos hnonneg]
    exact .inr ⟨withCosts f r drawn, s', hk, rfl, trivial, hs'⟩

end Plan

namespace Statistics

lemma required_of_nonneg {pairs : List (Value × Value)} {name : String} {i : Int}
    (h : Value.lookup? pairs name = some (.int i)) (hi : 0 ≤ i) :
    Record.required pairs name (Record.readNat 0) = .valid i.toNat := by
  have hread : Record.readNat 0 (.int i) = .valid i.toNat := by
    rw [Record.readNat, Record.readInteger]
    simp only [Option.all_some, hi, Nat.cast_zero, decide_true, if_true]
    rfl
  rw [Record.required, h]
  dsimp only
  rw [hread]
  rfl

/-- Counters that are not negative are in order. -/
lemma ofFields_of_nonneg {estimatedRows actualRows estimatedTime actualTime memoryGrant cpuTime
    logicalReads : Int} (h₁ : 0 ≤ estimatedRows) (h₂ : 0 ≤ actualRows) (h₃ : 0 ≤ estimatedTime)
    (h₄ : 0 ≤ actualTime) (h₅ : 0 ≤ memoryGrant) (h₆ : 0 ≤ cpuTime) (h₇ : 0 ≤ logicalReads) :
    ofFields [
      (.text "estimated_rows", .int estimatedRows),
      (.text "actual_rows", .int actualRows),
      (.text "estimated_execution_time", .int estimatedTime),
      (.text "actual_execution_time", .int actualTime),
      (.text "memory_grant", .int memoryGrant),
      (.text "cpu_time", .int cpuTime),
      (.text "logical_reads", .int logicalReads)] =
    .valid ⟨estimatedRows.toNat, actualRows.toNat, estimatedTime.toNat, actualTime.toNat,
      memoryGrant.toNat, cpuTime.toNat, logicalReads.toNat⟩ := by
  rw [ofFields]
  dsimp only
  rw [required_of_nonneg (by rfl) h₁, required_of_nonneg (by rfl) h₂,
    required_of_nonneg (by rfl) h₃, required_of_nonneg (by rfl) h₄,
    required_of_nonneg (by rfl) h₅, required_of_nonneg (by rfl) h₆,
    required_of_nonneg (by rfl) h₇]
  rfl

lemma roundTime_of_ok {x : Float} {i : Int} (h : Double.roundHalfUp x = .ok i) :
    (roundTime x : Draw σ Int) = pure i := by
  rw [roundTime, h]

/-- **The statistics** take six draws, and nothing but the source can make them fail as long as the
time that the statement adds is within bounds. -/
lemma takes_synthesize {f : Sql.Features} (hf : shapeTime f < 2 ^ 69) :
    Draw.Takes src 6 (fun _ => True) (synthesize src f) := by
  rw [synthesize]
  refine Draw.takes_integer_bind (by decide) fun base hbase hbase' => ?_
  obtain ⟨time, htime⟩ := Int.eq_ofNat_of_zero_le (a := base + shapeTime f) (by omega)
  have hlt : time < 2 ^ 70 := by omega
  obtain ⟨cpuTime, hcpuTime, hcpuTime'⟩ := Double.roundHalfUp_mul_share hlt
  refine Draw.takes_integer_bind (by decide) fun estimatedRows hestimatedRows _ => ?_
  refine Draw.takes_integer_bind (by decide) fun actualRows hactualRows _ => ?_
  refine Draw.takes_real_bind fun factor hlow hhigh => ?_
  obtain ⟨actualTime, hactualTime, hactualTime'⟩ :=
    Double.roundHalfUp_mul_of_between hlt hlow hhigh
  rw [htime, roundTime_of_ok hactualTime, pure_bind]
  refine Draw.takes_integer_bind (by decide) fun memoryGrant hmemoryGrant _ => ?_
  rw [roundTime_of_ok hcpuTime, pure_bind]
  refine Draw.takes_integer_bind (by decide) fun logicalReads hlogicalReads _ => ?_
  dsimp only
  rw [ofFields_of_nonneg (by omega) (by omega) (by omega) hactualTime' (by omega) hcpuTime'
    (by omega)]
  exact Draw.takes_pure trivial

end Statistics

/-! ## Where a failing source is noticed -/

/-- The call ended at a stage because of `e`: its caller is told of the stage and of the cause, the
log has one line about it, and there is no analysis. -/
def FailedAt (stage : Stage) (e : Cause) (o : Except AnalysisFault Analysis) : Prop :=
  ∃ fault, o = .error fault ∧
    fault.problem = .analysis ("Analysis stage '" ++ stage.name ++ "' failed: " ++ e.described)
      (some stage.name) (some e) ∧
    fault.logLines = [AnalysisFault.failureLine stage.name e.text]

/-- A call ends at one stage only. -/
lemma FailedAt.stage_unique {stage stage' : Stage} {e e' : Cause}
    {o : Except AnalysisFault Analysis} (h : FailedAt stage e o) (h' : FailedAt stage' e' o) :
    stage = stage' := by
  obtain ⟨fault, rfl, hproblem, -⟩ := h
  obtain ⟨_, hfault, hproblem', -⟩ := h'
  rw [← Except.error.inj hfault, hproblem] at hproblem'
  obtain ⟨-, hname, -⟩ := Problem.analysis.inj hproblem'
  revert hname
  cases stage <;> cases stage' <;> decide

namespace Analyzer

lemma failedAt_stage (stage : Stage) (e : Cause) :
    FailedAt stage e (.error (.stage stage e)) :=
  ⟨_, rfl, rfl, rfl⟩

/-- The outcome of the stages, by the number of draws that are left before them and by the cost of
the plan. -/
lemma stages_of_servesThen {z : Analyzer σ} {text : String} {f : Sql.Features} {e : Cause}
    {k : Nat} {s : σ} (hf : Statistics.shapeTime f < 2 ^ 69) (hs : z.source.ServesThen e k s)
    (r : Registry) :
    (k < planSize f → FailedAt .plan e (z.stages text f r s).1) ∧
    (planSize f ≤ k → ∃ plan s₁,
      (Plan.synthesize z.source z.costs f r).outcome s = (.ok plan, s₁) ∧
      z.source.ServesThen e (k - planSize f) s₁ ∧
      (¬plan.IsReviewable z.costThreshold →
        FailedAt .recommend (.digits .tooMany) (z.stages text f r s).1 ∧
          (z.stages text f r s).2 = s₁) ∧
      (plan.IsReviewable z.costThreshold →
        (k < planSize f + 6 → FailedAt .statistics e (z.stages text f r s).1) ∧
        (planSize f + 6 ≤ k → ∃ a s', z.stages text f r s = (.ok a, s') ∧ a.plan = plan ∧
          z.source.ServesThen e (k - (planSize f + 6)) s'))) := by
  rw [stages]
  rcases Plan.takes_synthesize z.costs f r hs with ⟨hk, herror⟩ | ⟨plan, s₁, hk, hplan, -, hs₁⟩
  · obtain ⟨s₁, hplan⟩ := Draw.exists_state herror
    rw [hplan]
    exact ⟨fun _ => failedAt_stage .plan e, by omega⟩
  · rw [hplan]
    refine ⟨by omega, fun _ => ⟨plan, s₁, rfl, hs₁, fun hlong => ?_, fun hreview => ?_⟩⟩
    · dsimp only
      rw [advise_of_error (recommend_eq_error_iff.mpr hlong)]
      exact ⟨failedAt_stage .recommend _, rfl⟩
    · obtain ⟨advice, hadvice⟩ := exists_recommend_iff (f := f) (r := r).mpr hreview
      dsimp only
      rw [advise_eq_ok_iff.mpr hadvice]
      dsimp only
      rcases Statistics.takes_synthesize hf hs₁ with ⟨hk₁, herror⟩ | ⟨t, s₂, hk₁, ht, -, hs₂⟩
      · obtain ⟨s₂, ht⟩ := Draw.exists_state herror
        rw [ht]
        exact ⟨fun _ => failedAt_stage .statistics e, by omega⟩
      · rw [ht]
        rw [Nat.sub_sub] at hs₂
        exact ⟨by omega, fun _ => ⟨_, s₂, rfl, rfl, hs₂⟩⟩

/-- A statement that is read is handed to the stages. -/
lemma outcome_eq_stages {z : Analyzer σ} {text : String} {registry : Value} {f : Sql.Features}
    {r : Registry} (htext : Text.isBlankString text = false) (hextract : Sql.extract text = .ok f)
    (hregistry : Registry.ofValue registry = .ok r) (s : σ) :
    z.outcome (.text text) registry s = z.stages text f r s := by
  have hquery : queryText (.text text) = .ok text := by rw [queryText, if_neg (by simp [htext])]
  have hread : readStatement (.text text) = .ok (text, f) := by
    rw [readStatement_of_queryText hquery, hextract]
    rfl
  rw [outcome_of_accepted hregistry, hread]

/-- **A source that gives out is reported once, in the stage where it does.**  Let a statement be
read and a registry be accepted, and let the source answer `k` more requests and then fail with
`e`.  Where `k` is below the size of the plan the call fails at the plan.  Otherwise there is a plan.
If its cost can be written where it calls for a review, the call fails at the statistics where `k` is
short of the six draws after the plan, and else an analysis is made, and as many draws are gone as
the plan has operations, and six.  The caller is told of `e` itself.  If the cost of the plan cannot
be written, the call fails at the advice for that reason, with the draws of the plan gone.  The bound
on the text is the one that addresses put on every text. -/
theorem outcome_of_servesThen {z : Analyzer σ} {text : String} {registry : Value}
    {f : Sql.Features} {r : Registry} {e : Cause} {k : Nat} {s : σ}
    (htext : Text.isBlankString text = false) (hlength : text.length < 2 ^ 63)
    (hextract : Sql.extract text = .ok f) (hregistry : Registry.ofValue registry = .ok r)
    (hsource : z.source.ServesThen e k s) :
    let called := z.outcome (.text text) registry s
    (k < planSize f → FailedAt .plan e called.1) ∧
    (planSize f ≤ k → ∃ plan s₁,
      (Plan.synthesize z.source z.costs f r).outcome s = (.ok plan, s₁) ∧
      z.source.ServesThen e (k - planSize f) s₁ ∧
      (¬plan.IsReviewable z.costThreshold →
        FailedAt .recommend (.digits .tooMany) called.1 ∧ called.2 = s₁) ∧
      (plan.IsReviewable z.costThreshold →
        (k < planSize f + 6 → FailedAt .statistics e called.1) ∧
        (planSize f + 6 ≤ k → ∃ a s', called = (.ok a, s') ∧ a.plan = plan ∧
          z.source.ServesThen e (k - (planSize f + 6)) s'))) := by
  have htime := Statistics.shapeTime_le hextract
  rw [outcome_eq_stages htext hextract hregistry]
  exact stages_of_servesThen (by omega) hsource r

lemma totalCost_of_synthesize {src : Source σ} {costs : CostModel} {f : Sql.Features}
    {r : Registry} {s s' : σ} {plan : Plan} {cost : Nat}
    (h : (Plan.synthesize src costs f r).outcome s = (.ok plan, s'))
    (hcost : ((Plan.synthesize src costs f r).outcome s).1.toOption.map (·.totalCost) = some cost) :
    plan.totalCost = cost := by
  rw [h] at hcost
  exact Option.some.inj hcost

/-- A statement with two operations, and a script of five numbers. -/
theorem outcome_of_servesThen_script :
    let z : Analyzer (List Int) := { source := Script.source }
    FailedAt .statistics .drawsExhausted
      (z.outcome (.text "SELECT a FROM Orders ORDER BY Placed") .null [5, 7, 11, 40, 2000]).1 := by
  intro z
  have hextract : Sql.extract "SELECT a FROM Orders ORDER BY Placed" = .ok
      { kind := .select, tables := ["Orders"], orderBy := some "Placed",
        sortColumns := ["Placed"] } := by decide +kernel
  have hregistry : Registry.ofValue .null = .ok ⟨[]⟩ := rfl
  have hfactors : ∀ n ∈ [5, 7, 11, 40, 2000], 0.8 ≤ Script.factor n ∧ Script.factor n ≤ 1.2 := by
    decide +kernel
  have hsource : z.source.ServesThen .drawsExhausted 5 [5, 7, 11, 40, 2000] :=
    Script.servesThen_source _ hfactors
  obtain ⟨plan, s₁, hplan, -, -, hreview⟩ := (outcome_of_servesThen (by decide +kernel)
    (by decide +kernel) hextract hregistry hsource).2 (by decide)
  have hcost : plan.totalCost = 57 := totalCost_of_synthesize hplan (by decide +kernel)
  have hreviewable : plan.IsReviewable z.costThreshold := fun habove => by
    rw [hcost] at habove
    exact absurd habove (by decide)
  exact (hreview hreviewable).1 (by decide)

/-- The same statement with the same costs, where only the number that is drawn decides whether the
cost of the plan can be written.  The source answers the one request of the plan, and it is not at
the statistics that the first call fails. -/
theorem recommend_fails_by_draw :
    let z : Analyzer (List Int) :=
      { source := Script.source, costs := { scan := { base := 10 ^ digitLimit - 1, spread := 2 } } }
    let f : Sql.Features := { kind := .select, tables := ["t"] }
    let sql := "SELECT a FROM t"
    Sql.extract sql = .ok f ∧ planSize f = 1 ∧ z.source.ServesThen .drawsExhausted 1 [1] ∧
      FailedAt .recommend (.digits .tooMany) (z.outcome (.text sql) .null [1]).1 ∧
      ¬FailedAt .statistics .drawsExhausted (z.outcome (.text sql) .null [1]).1 ∧
      FailedAt .statistics .drawsExhausted (z.outcome (.text sql) .null [0]).1 := by
  intro z f sql
  have hextract : Sql.extract sql = .ok f := by decide +kernel
  have hstages : ∀ draws, z.outcome (.text sql) .null draws = z.stages sql f ⟨[]⟩ draws :=
    outcome_eq_stages (by decide +kernel) hextract rfl
  have hserves : ∀ n ∈ ([0, 1] : List Int), z.source.ServesThen .drawsExhausted 1 [n] :=
    fun n hn => Script.servesThen_source [n] (by revert n; decide +kernel)
  have htime : Statistics.shapeTime f < 2 ^ 69 := by decide
  have hthreshold : 100 < 10 ^ digitLimit := isShort_iff.mp (by decide +kernel)
  have hfails : FailedAt .recommend (.digits .tooMany) (z.outcome (.text sql) .null [1]).1 := by
    obtain ⟨plan, s₁, hplan, -, hlong, -⟩ :=
      (stages_of_servesThen htime (hserves 1 (by decide)) ⟨[]⟩).2 (by decide)
    have hcost : plan.totalCost = 10 ^ digitLimit :=
      totalCost_of_synthesize hplan (by decide +kernel)
    rw [hstages]
    refine (hlong fun hreview => ?_).1
    rw [Plan.IsReviewable, hcost] at hreview
    exact not_isShort_pow (hreview (by exact_mod_cast hthreshold))
  have hlasts : FailedAt .statistics .drawsExhausted (z.outcome (.text sql) .null [0]).1 := by
    obtain ⟨plan, s₁, hplan, -, -, hreview⟩ :=
      (stages_of_servesThen htime (hserves 0 (by decide)) ⟨[]⟩).2 (by decide)
    have hcost : plan.totalCost = 10 ^ digitLimit - 1 :=
      totalCost_of_synthesize hplan (by decide +kernel)
    rw [hstages]
    refine (hreview fun _ => ?_).1 (by decide)
    rw [hcost, isShort_iff]
    omega
  exact ⟨hextract, rfl, hserves 1 (by decide), hfails,
    fun hstatistics => absurd (hfails.stage_unique hstatistics) (by decide), hlasts⟩

end Analyzer

end SqlAdvice
