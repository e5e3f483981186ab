import SqlAdvice.Advice.Rules
import SqlAdvice.Proofs.Fallible
import SqlAdvice.Proofs.ShortNumbers
import SqlAdvice.Proofs.Synthesis
import Mathlib.Data.List.Forall2

/-!
# Findings

The warnings of a plan and the advice for a statement are made by two separate passes over the same
features, and each of them drops its own repeats: the warnings by their text, the advice by the
whole recommendation.  A `Finding` is what both passes speak of.  `findings` lists them with
repeats, in the order in which the passes go, and both passes are maps of that list
(`allWarnings_eq_map`, `structural_eq_map`).

Both maps tell all findings apart, whatever the names of the tables and the columns are
(`Finding.warning_injective`, `Finding.advice_injective`), so dropping repeats before and after them
is the same.  That keeps the two lists aligned: the advice without the review of the cost says of
every place what the warning at that place says (`warnings_forall₂_advice`).

The names of the called functions are no part of a finding.  A statement gives cause to one such
finding at most, and its texts name the functions of the statement; two different lists of names can
have the same text, as a name may hold a comma.
-/

namespace SqlAdvice

open Number

/-! ## What both passes speak of -/

/-- What a plan warns of, and what there is advice for. -/
inductive Finding where
  /-- The table has no entry in the registry. -/
  | missingIndex (table : String)
  /-- The column is not covered. -/
  | uncovered (use : Plan.ColumnUse) (column : String)
  | wildcard
  /-- Functions are called. -/
  | calls
  deriving DecidableEq

namespace Finding

/-- The warning for a finding in a statement that calls some functions. -/
def warning (functions : List String) : Finding → String
  | missingIndex table => Plan.missingIndexWarning table
  | uncovered use column => Plan.uncoveredColumnWarning use column
  | wildcard => Plan.wildcardWarning
  | calls => Plan.functionWarning functions

/-- The advice for a finding in a statement that calls some functions and whose columns are
attributed to `owner`. -/
def advice (owner : Option String) (functions : List String) : Finding → Recommendation
  | missingIndex table => Advice.primaryKeyIndex table
  | uncovered use column => Advice.columnIndex owner use column
  | wildcard => Advice.wildcardAdvice
  | calls => Advice.functionAdvice functions

end Finding

/-- The findings in a statement, with repeats. -/
def findings (f : Sql.Features) (r : Registry) : List Finding :=
  (f.tables.filter fun t => !r.hasEntry t).map .missingIndex ++
  (f.joinPredicates.flatMap (uncoveredJoinColumns r f.tables)).map (.uncovered .join) ++
  (f.conditions.filterMap (uncoveredFilterColumn? r f.tables)).map (.uncovered .filter) ++
  (f.orderBy.toList.flatMap (uncoveredSortColumns r f.tables)).map (.uncovered .sort) ++
  (if f.hasWildcard then [.wildcard] else []) ++
  (if f.functionCalls.isEmpty then [] else [.calls])

/-- The columns that the features speak of in one use. -/
def Sql.Features.columnsFor (f : Sql.Features) : Plan.ColumnUse → List String
  | .join => f.joinPredicates.flatMap fun p => (Sql.joinColumns p.toList).map String.ofList
  | .filter => f.conditions.filterMap fun c => (Sql.filterColumn? c.toList).map String.ofList
  | .sort => f.orderBy.toList.flatMap fun o => (Sql.sortColumns o.toList).map String.ofList

/-- In every use the columns that are found are the ones that are not covered. -/
lemma findings_eq (f : Sql.Features) (r : Registry) :
    findings f r =
      (f.tables.filter fun t => !r.hasEntry t).map .missingIndex ++
      ((f.columnsFor .join).filter fun c => !r.covers c f.tables).map (.uncovered .join) ++
      ((f.columnsFor .filter).filter fun c => !r.covers c f.tables).map (.uncovered .filter) ++
      ((f.columnsFor .sort).filter fun c => !r.covers c f.tables).map (.uncovered .sort) ++
      (if f.hasWildcard then [.wildcard] else []) ++
      (if f.functionCalls.isEmpty then [] else [.calls]) := by
  have hjoin : f.joinPredicates.flatMap (uncoveredJoinColumns r f.tables) =
      (f.columnsFor .join).filter fun c => !r.covers c f.tables := by
    rw [Sql.Features.columnsFor, List.filter_flatMap]
    rfl
  have hfilter : f.conditions.filterMap (uncoveredFilterColumn? r f.tables) =
      (f.columnsFor .filter).filter fun c => !r.covers c f.tables := by
    rw [Sql.Features.columnsFor, List.filter_filterMap]
    rfl
  have hsort : f.orderBy.toList.flatMap (uncoveredSortColumns r f.tables) =
      (f.columnsFor .sort).filter fun c => !r.covers c f.tables := by
    rw [Sql.Features.columnsFor, List.filter_flatMap]
    rfl
  rw [findings, hjoin, hfilter, hsort]

/-- What is found, said kind by kind. -/
lemma mem_findings {f : Sql.Features} {r : Registry} {x : Finding} :
    x ∈ findings f r ↔
      match x with
      | .missingIndex t => t ∈ f.tables ∧ r.hasEntry t = false
      | .uncovered use c => c ∈ f.columnsFor use ∧ r.covers c f.tables = false
      | .wildcard => f.hasWildcard = true
      | .calls => f.functionCalls ≠ [] := by
  rw [findings_eq]
  rcases x with t | ⟨_ | _ | _, c⟩ | _ | _ <;> simp

lemma allWarnings_eq_map (f : Sql.Features) (r : Registry) :
    Plan.allWarnings f r = (findings f r).map (Finding.warning f.functionCalls) := by
  have hwild : (if f.hasWildcard then [Plan.wildcardWarning] else []) =
      (if f.hasWildcard then [Finding.wildcard] else []).map
        (Finding.warning f.functionCalls) := by
    split <;> rfl
  have hcalls : (if f.functionCalls.isEmpty then [] else [Plan.functionWarning f.functionCalls]) =
      (if f.functionCalls.isEmpty then [] else [Finding.calls]).map
        (Finding.warning f.functionCalls) := by
    split <;> rfl
  simp only [Plan.allWarnings, findings, List.map_append, List.map_map, hwild, hcalls]
  rfl

lemma structural_eq_map (f : Sql.Features) (r : Registry) :
    Advice.structural f r =
      (findings f r).map (Finding.advice f.primaryTable? f.functionCalls) := by
  have hwild : (if f.hasWildcard then [Advice.wildcardAdvice] else []) =
      (if f.hasWildcard then [Finding.wildcard] else []).map
        (Finding.advice f.primaryTable? f.functionCalls) := by
    split <;> rfl
  have hcalls : (if f.functionCalls.isEmpty then [] else [Advice.functionAdvice f.functionCalls]) =
      (if f.functionCalls.isEmpty then [] else [Finding.calls]).map
        (Finding.advice f.primaryTable? f.functionCalls) := by
    split <;> rfl
  have hfilter : f.conditions.flatMap (fun c =>
      (uncoveredFilterColumn? r f.tables c).toList.map
        (Advice.columnIndex f.primaryTable? .filter)) =
      (f.conditions.filterMap (uncoveredFilterColumn? r f.tables)).map
        (Advice.columnIndex f.primaryTable? .filter) := by
    rw [List.filterMap_eq_flatMap_toList, List.map_flatMap]
  simp only [Advice.structural, findings, List.map_append, List.map_map, hwild, hcalls, hfilter,
    ← List.map_flatMap]
  rfl

/-! ## Findings are told apart -/

namespace Finding

/-- The first two letters of a warning.  They tell the kind of the finding, and what a column is
used for. -/
def warningInitials : Finding → List Char
  | missingIndex _ => ['T', 'a']
  | uncovered .join _ => ['J', 'o']
  | uncovered .filter _ => ['F', 'i']
  | uncovered .sort _ => ['S', 'o']
  | wildcard => ['W', 'i']
  | calls => ['F', 'u']

lemma take_warning (functions : List String) (x : Finding) :
    (x.warning functions).toList.take 2 = x.warningInitials := by
  cases x with
  | missingIndex t => simp [warning, warningInitials, Plan.missingIndexWarning]
  | uncovered use c =>
    cases use <;>
      simp [warning, warningInitials, Plan.uncoveredColumnWarning, Plan.ColumnUse.word]
  | wildcard => simp [warning, warningInitials, Plan.wildcardWarning]
  | calls =>
    change (Plan.functionWarning functions).toList.take 2 = _
    unfold Plan.functionWarning
    rw [String.toList_append]
    simp [warningInitials]

lemma warning_injective (functions : List String) :
    Function.Injective (warning functions) := by
  intro x y h
  have hinitials : x.warningInitials = y.warningInitials := by
    rw [← take_warning functions x, ← take_warning functions y, h]
  rcases x with t | ⟨use, c⟩ | _ | _ <;> rcases y with t' | ⟨use', c'⟩ | _ | _
  case missingIndex.missingIndex => simpa [warning, Plan.missingIndexWarning] using h
  case uncovered.uncovered =>
    have huse : use = use' := by
      cases use <;> cases use' <;> simp_all [warningInitials]
    subst huse
    simpa [warning, Plan.uncoveredColumnWarning] using h
  case wildcard.wildcard => rfl
  case calls.calls => rfl
  -- in all other cases the kinds differ, and so do the initials
  all_goals (try cases use) <;> (try cases use') <;> simp [warningInitials] at hinitials

/-- The first letter of the description of a piece of advice tells the kind of the finding. -/
def adviceInitial : Finding → Char
  | missingIndex _ => 'T'
  | uncovered _ _ => 'C'
  | wildcard => 'A'
  | calls => 'F'

lemma head?_advice (owner : Option String) (functions : List String) (x : Finding) :
    (x.advice owner functions).description.toList.head? = some x.adviceInitial := by
  cases x <;>
    simp [advice, adviceInitial, Advice.primaryKeyIndex, Advice.columnIndex, Advice.wildcardAdvice,
      Advice.functionAdvice]

end Finding

/-- A table is read off the description of its primary key, which names it twice. -/
lemma primaryKeyIndex_injective : Function.Injective Advice.primaryKeyIndex := by
  intro t t' h
  have hdesc := congrArg (fun a => a.description.toList) h
  simp only [Advice.primaryKeyIndex, String.toList_append, List.append_assoc,
    List.append_cancel_left_eq] at hdesc
  have hlength := congrArg List.length hdesc
  simp only [List.length_append] at hlength
  exact String.toList_inj.mp (List.append_inj hdesc (by omega)).1

/-- The last letter of the description of an index tells what the column is used for. -/
lemma getLast?_columnIndex (owner : Option String) (use : Plan.ColumnUse) (c : String) :
    (Advice.columnIndex owner use c).description.toList.getLast? =
      (Advice.usePurpose use).toList.getLast? := by
  have hne : (Advice.usePurpose use).toList ≠ [] := by
    cases use <;> simp [Advice.usePurpose]
  simp only [Advice.columnIndex, String.toList_append]
  rw [List.getLast?_append_of_ne_nil _ hne]

/-- Among the columns of one statement, use and column are read off the description. -/
lemma columnIndex_injective {owner : Option String} {use use' : Plan.ColumnUse} {c c' : String}
    (h : Advice.columnIndex owner use c = Advice.columnIndex owner use' c') :
    use = use' ∧ c = c' := by
  have huse : use = use' := by
    have hlast := getLast?_columnIndex owner use c
    rw [h, getLast?_columnIndex owner use' c'] at hlast
    cases use <;> cases use' <;> simp [Advice.usePurpose] at hlast ⊢
  subst huse
  have hdesc := congrArg (fun a => a.description) h
  refine ⟨rfl, ?_⟩
  cases owner <;> simpa [Advice.columnIndex] using hdesc

namespace Finding

lemma advice_injective (owner : Option String) (functions : List String) :
    Function.Injective (advice owner functions) := by
  intro x y h
  have hinitial : x.adviceInitial = y.adviceInitial := by
    have hhead := head?_advice owner functions x
    rw [h, head?_advice owner functions y] at hhead
    exact (Option.some.inj hhead).symm
  cases x <;> cases y
  case missingIndex.missingIndex => exact congrArg _ (primaryKeyIndex_injective h)
  case uncovered.uncovered =>
    obtain ⟨rfl, rfl⟩ := columnIndex_injective h
    rfl
  case wildcard.wildcard => rfl
  case calls.calls => rfl
  all_goals simp [adviceInitial] at hinitial

end Finding

/-! ## Warnings and advice as maps of the findings -/

/-- The warnings of a plan are those of the findings without repeats. -/
lemma Plan.warnings_eq_map {σ : Type} {src : Source σ} {costs : CostModel} {f : Sql.Features}
    {r : Registry} {s s' : σ} {plan : Plan}
    (h : (Plan.synthesize src costs f r).outcome s = (.ok plan, s')) :
    plan.warnings = (findings f r).eraseDups.map (Finding.warning f.functionCalls) := by
  rw [Plan.warnings_of_synthesize h, allWarnings_eq_map,
    eraseDups_map (Finding.warning_injective f.functionCalls)]

lemma severity_advice_ne_low (owner : Option String) (functions : List String) (x : Finding) :
    (x.advice owner functions).severity ≠ .low := by
  rcases x with t | ⟨_ | _ | _, c⟩ | _ | _ <;>
    simp [Finding.advice, Advice.primaryKeyIndex, Advice.columnIndex, Advice.useSeverity,
      Advice.wildcardAdvice, Advice.functionAdvice]

/-! ## When there is advice -/

namespace Plan

/-- The review of the cost of a plan. -/
def review (plan : Plan) : Recommendation :=
  Advice.costReview (decimalNat plan.totalCost)

/-- The cost of a plan is not too long to be written in a review, or it needs none. -/
def IsReviewable (plan : Plan) (threshold : Int) : Prop :=
  threshold < plan.totalCost → IsShort plan.totalCost

end Plan

lemma reviews_eq_ok_iff {threshold : Int} {plan : Plan} {review : List Recommendation} :
    Advice.reviews threshold plan = .ok review ↔
      plan.IsReviewable threshold ∧
        review = if threshold < plan.totalCost then [plan.review] else [] := by
  unfold Advice.reviews Plan.IsReviewable
  split
  case isTrue hcost =>
    simp only [Except.map_eq_ok_iff, writeNat_eq_ok_iff, hcost, forall_const]
    constructor
    · rintro ⟨_, ⟨hshort, rfl⟩, rfl⟩
      exact ⟨hshort, rfl⟩
    · rintro ⟨hshort, rfl⟩
      exact ⟨_, ⟨hshort, rfl⟩, rfl⟩
  case isFalse hcost => simp [hcost, eq_comm]

/-- Only the review of a cost is of low severity, so it is no advice for a finding. -/
lemma advice_ne_costReview (owner : Option String) (functions : List String) (x : Finding)
    (cost : String) : x.advice owner functions ≠ Advice.costReview cost := by
  intro h
  have hlow : (x.advice owner functions).severity = .low := by rw [h]; rfl
  exact severity_advice_ne_low owner functions x hlow

/-- There is advice unless the cost calls for a review and is too long to be written.  It is that for
the findings without repeats, and then the review where the plan costs too much. -/
lemma recommend_eq_ok_iff {threshold : Int} {f : Sql.Features} {plan : Plan} {r : Registry}
    {advice : List Recommendation} :
    Advice.recommend threshold f plan r = .ok advice ↔
      plan.IsReviewable threshold ∧
        advice = (findings f r).eraseDups.map (Finding.advice f.primaryTable? f.functionCalls) ++
          if threshold < plan.totalCost then [plan.review] else [] := by
  have hdedup : ((Advice.structural f r) ++
        if threshold < plan.totalCost then [plan.review] else []).eraseDups =
      (findings f r).eraseDups.map (Finding.advice f.primaryTable? f.functionCalls) ++
        if threshold < plan.totalCost then [plan.review] else [] := by
    rw [eraseDups_append_of_disjoint, structural_eq_map,
      eraseDups_map (Finding.advice_injective f.primaryTable? f.functionCalls)]
    · congr 1
      split <;> rfl
    · intro a ha hmem
      rw [structural_eq_map, List.mem_map] at hmem
      obtain ⟨x, -, rfl⟩ := hmem
      split at ha
      · exact advice_ne_costReview _ _ x _ (List.mem_singleton.mp ha)
      · simp at ha
  rw [Advice.recommend, Except.map_eq_ok_iff, ← hdedup]
  simp only [reviews_eq_ok_iff]
  constructor
  · rintro ⟨_, ⟨hwritable, rfl⟩, rfl⟩
    exact ⟨hwritable, rfl⟩
  · rintro ⟨hwritable, rfl⟩
    exact ⟨_, ⟨hwritable, rfl⟩, rfl⟩

/-- There is advice exactly when the review of the cost can be written or is not called for. -/
lemma exists_recommend_iff {threshold : Int} {f : Sql.Features} {plan : Plan} {r : Registry} :
    (∃ advice, Advice.recommend threshold f plan r = .ok advice) ↔ plan.IsReviewable threshold := by
  simp only [recommend_eq_ok_iff, exists_and_left, exists_eq, and_true]

lemma recommend_eq_error_iff {threshold : Int} {f : Sql.Features} {plan : Plan} {r : Registry} :
    Advice.recommend threshold f plan r = .error .tooMany ↔ ¬plan.IsReviewable threshold := by
  rw [← exists_recommend_iff (f := f) (r := r)]
  cases Advice.recommend threshold f plan r with
  | ok advice => simp
  | error fault => cases fault; simp

/-- With a source that serves, and costs whose greatest sum can be written, there is a plan and advice
for it. -/
lemma exists_synthesize_recommend {σ : Type} {src : Source σ} (hsrc : src.Serves)
    (costs : CostModel) (f : Sql.Features)
    (hshort : IsShort ((Plan.kindsOf f).map fun kind => (costs.range kind).maximum).sum)
    (r : Registry) (threshold : Int) (s : σ) :
    ∃ plan s' advice, (Plan.synthesize src costs f r).outcome s = (.ok plan, s') ∧
      Advice.recommend threshold f plan r = .ok advice := by
  obtain ⟨priced, s', hsteps, hrange, hplan, -⟩ := Plan.exists_priced_synthesize hsrc costs f r s
  have hrealises : Plan.Realises costs f r (Plan.ofPriced priced (Plan.allWarnings f r)) :=
    Plan.realises_of_inRange hsteps hrange
  obtain ⟨advice, hadvice⟩ := exists_recommend_iff (f := f) (r := r).mpr
    fun _ => hshort.mono hrealises.total_le_maximum
  exact ⟨_, s', advice, hplan, hadvice⟩

/-- What is advised on is what is found, and a cost above the threshold. -/
lemma mem_recommend_iff {threshold : Int} {f : Sql.Features} {plan : Plan} {r : Registry}
    {advice : List Recommendation} (h : Advice.recommend threshold f plan r = .ok advice)
    {a : Recommendation} :
    a ∈ advice ↔
      (∃ x ∈ findings f r, x.advice f.primaryTable? f.functionCalls = a) ∨
        threshold < plan.totalCost ∧ a = plan.review := by
  rw [(recommend_eq_ok_iff.mp h).2, List.mem_append, List.mem_map]
  simp only [List.mem_eraseDups]
  refine or_congr_right ?_
  split <;> simp [*]

/-- Without the review of the cost, the advice is that for the findings without repeats. -/
lemma filter_recommend_ne_review {threshold : Int} {f : Sql.Features} {plan : Plan} {r : Registry}
    {advice : List Recommendation} (h : Advice.recommend threshold f plan r = .ok advice) :
    advice.filter (· ≠ plan.review) =
      (findings f r).eraseDups.map (Finding.advice f.primaryTable? f.functionCalls) := by
  have hkeep : ((findings f r).eraseDups.map
      (Finding.advice f.primaryTable? f.functionCalls)).filter (· ≠ plan.review) =
      (findings f r).eraseDups.map (Finding.advice f.primaryTable? f.functionCalls) := by
    refine List.filter_eq_self.mpr fun a ha => ?_
    obtain ⟨x, -, rfl⟩ := List.mem_map.mp ha
    exact decide_eq_true (advice_ne_costReview _ _ x _)
  rw [(recommend_eq_ok_iff.mp h).2, List.filter_append, hkeep]
  split <;> simp

/-! ## The two lists are aligned -/

/-- A warning and a piece of advice speak of the same finding, where columns are attributed to
`owner`: whichever of the four kinds one of them is of, the other is of that kind too, for the same
table, the same column with the same use, or the same names of functions in the same order. -/
structure SameFinding (owner : Option String) (w : String) (a : Recommendation) : Prop where
  missingIndex : ∀ t, w = Plan.missingIndexWarning t ↔ a = Advice.primaryKeyIndex t
  uncovered : ∀ use c, w = Plan.uncoveredColumnWarning use c ↔ a = Advice.columnIndex owner use c
  wildcard : w = Plan.wildcardWarning ↔ a = Advice.wildcardAdvice
  calls : ∀ names, w = Plan.functionWarning names ↔ a = Advice.functionAdvice names
  /-- The warning is of one of the four kinds. -/
  kind : (∃ t, w = Plan.missingIndexWarning t) ∨ (∃ use c, w = Plan.uncoveredColumnWarning use c) ∨
    w = Plan.wildcardWarning ∨ ∃ names, w = Plan.functionWarning names

/-- Both texts name the functions in the same way. -/
lemma functionWarning_eq_iff (names names' : List String) :
    Plan.functionWarning names = Plan.functionWarning names' ↔
      Advice.functionAdvice names = Advice.functionAdvice names' := by
  have hwarning : Plan.functionWarning names = Plan.functionWarning names' ↔
      ", ".intercalate names.eraseDups = ", ".intercalate names'.eraseDups := by
    unfold Plan.functionWarning
    exact String.append_right_inj _
  have hadvice : Advice.functionAdvice names = Advice.functionAdvice names' ↔
      ", ".intercalate names.eraseDups = ", ".intercalate names'.eraseDups := by
    simp only [Advice.functionAdvice, Recommendation.mk.injEq, String.append_right_inj,
      String.append_left_inj, true_and, and_true]
  rw [hwarning, hadvice]

lemma Finding.sameFinding (owner : Option String) (functions : List String) (x : Finding) :
    SameFinding owner (x.warning functions) (x.advice owner functions) := by
  -- equal texts mean equal findings on both sides
  have hiff : ∀ y : Finding, x.warning functions = y.warning functions ↔
      x.advice owner functions = y.advice owner functions := fun y =>
    ((warning_injective functions).eq_iff).trans ((advice_injective owner functions).eq_iff).symm
  refine ⟨fun t => hiff (.missingIndex t), fun use c => hiff (.uncovered use c), hiff .wildcard,
    fun names => ?_, ?_⟩
  · by_cases hx : x = .calls
    · subst hx
      exact functionWarning_eq_iff functions names
    · -- only the texts for called functions depend on the names
      have hw : x.warning functions = x.warning names := by cases x <;> first | rfl | simp at hx
      have ha : x.advice owner functions = x.advice owner names := by
        cases x <;> first | rfl | simp at hx
      rw [hw, ha]
      have hwarning : x.warning names ≠ calls.warning names :=
        fun h => hx (warning_injective names h)
      have hadvice : x.advice owner names ≠ calls.advice owner names :=
        fun h => hx (advice_injective owner names h)
      exact ⟨fun h => absurd h hwarning, fun h => absurd h hadvice⟩
  · cases x with
    | missingIndex t => exact .inl ⟨t, rfl⟩
    | uncovered use c => exact .inr (.inl ⟨use, c, rfl⟩)
    | wildcard => exact .inr (.inr (.inl rfl))
    | calls => exact .inr (.inr (.inr ⟨functions, rfl⟩))

/-- **Warnings and advice correspond.**  Whatever the features, the registry, the costs, the
threshold and the draws are, the advice without the review of the cost has the length of the
warnings of the plan, and at every place the two speak of the same finding.  All advice is longer by
the review, which is given exactly when the plan costs more than the threshold.  There is advice
unless the review is called for and the cost is too long to be written. -/
theorem warnings_forall₂_advice {σ : Type} {src : Source σ} {costs : CostModel}
    {f : Sql.Features} {r : Registry} {s s' : σ} {plan : Plan}
    (h : (Plan.synthesize src costs f r).outcome s = (.ok plan, s')) (threshold : Int) :
    (∀ advice, Advice.recommend threshold f plan r = .ok advice →
      List.Forall₂ (SameFinding f.primaryTable?) plan.warnings
          (advice.filter (· ≠ plan.review)) ∧
        advice.length = plan.warnings.length + if threshold < plan.totalCost then 1 else 0) ∧
      ((∃ advice, Advice.recommend threshold f plan r = .ok advice) ↔
        (threshold < plan.totalCost → IsShort plan.totalCost)) := by
  refine ⟨fun advice hadvice => ⟨?_, ?_⟩, exists_recommend_iff⟩
  · rw [Plan.warnings_eq_map h, filter_recommend_ne_review hadvice, List.forall₂_map_left_iff,
      List.forall₂_map_right_iff, List.forall₂_same]
    exact fun x _ => x.sameFinding f.primaryTable? f.functionCalls
  · rw [Plan.warnings_eq_map h, (recommend_eq_ok_iff.mp hadvice).2, List.length_append,
      List.length_map, List.length_map]
    congr 1
    split <;> rfl

/-- The features of a statement that joins a table without an entry and calls a function. -/
theorem warnings_forall₂_advice_twister :
    let f : Sql.Features :=
      { tables := ["Orders", "Items"], joinPredicates := ["i.OrderID = o.ID"],
        functionCalls := ["COUNT", "MAX", "COUNT"] }
    let r : Registry := ⟨[⟨"orders", "INDEX ON Orders(ID)"⟩]⟩
    ∃ plan s' advice,
      (Plan.synthesize Twister.source {} f r).outcome (Twister.ofSeed 7) = (.ok plan, s') ∧
      Advice.recommend 20 f plan r = .ok advice ∧
      List.Forall₂ (SameFinding f.primaryTable?) plan.warnings
        (advice.filter (· ≠ plan.review)) ∧
      advice.length = plan.warnings.length + if (20 : Int) < plan.totalCost then 1 else 0 := by
  intro f r
  obtain ⟨plan, s', advice, hplan, hadvice⟩ := exists_synthesize_recommend Twister.source_serves
    {} f (by decide +kernel) r 20 (Twister.ofSeed 7)
  exact ⟨plan, s', advice, hplan, hadvice, (warnings_forall₂_advice hplan 20).1 advice hadvice⟩

end SqlAdvice
