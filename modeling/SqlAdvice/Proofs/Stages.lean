import SqlAdvice.Analysis
import SqlAdvice.Proofs.Draws
import SqlAdvice.Proofs.Fallible

/-!
# The stages of an analysis

An analysis first reads what it is given and then runs its stages: the plan, the advice and the
statistics.  The first and the last draw numbers.  `Analyzer.outcome` runs it from a state of the
source: it gives the analysis or the fault, and the state in which the source is left.

The statement and the registry are read apart from each other.  Against a registry that is accepted
an analysis is what the statement alone reads as (`readStatement`), followed by the stages, which
see the registry and not the value that it came from (`outcome_of_accepted`).  Nothing after this
file unfolds the monad of `Analyzer.analyze`.
-/

namespace SqlAdvice

/-- The text of a statement and its features, or what is wrong with it. -/
def readStatement (sql : Value) : Except AnalysisFault (String × Sql.Features) := do
  let text ← (queryText sql).mapError .input
  let features ← (Sql.extract text).mapError .extraction
  return (text, features)

lemma readStatement_of_queryText {sql : Value} {text : String} (h : queryText sql = .ok text) :
    readStatement sql = ((Sql.extract text).mapError .extraction).map fun f => (text, f) := by
  rw [readStatement, h]
  simp only [Except.mapError, bind, Except.bind]
  cases Sql.extract text <;> rfl

/-- Against an accepted registry, only the statement can be refused. -/
lemma prepare_of_accepted {registry : Value} {r : Registry} (h : Registry.ofValue registry = .ok r)
    (sql : Value) :
    prepare sql registry = (readStatement sql).map fun p => (p.1, r, p.2) := by
  rw [prepare, readStatement, h]
  cases queryText sql with
  | error fault => rfl
  | ok text =>
    simp only [Except.mapError, bind, Except.bind]
    cases Sql.extract text <;> rfl

lemma eq_text_of_queryText {sql : Value} {text : String} (h : queryText sql = .ok text) :
    sql = .text text := by
  unfold queryText at h
  split at h
  · simp at h
  · split at h
    · simp at h
    · rw [Except.ok.inj h]
  · simp at h

namespace Analyzer

variable {σ : Type}

/-- The analysis or the fault, and the state in which the source is left. -/
def outcome (z : Analyzer σ) (sql registry : Value) (s : σ) : Except AnalysisFault Analysis × σ :=
  (z.analyze sql registry).run.run s

/-- What the stages make of a statement that was read and of a registry. -/
def stages (z : Analyzer σ) (text : String) (f : Sql.Features) (r : Registry) (s : σ) :
    Except AnalysisFault Analysis × σ :=
  match (Plan.synthesize z.source z.costs f r).outcome s with
  | (.error cause, s₁) => (.error (.stage .plan cause), s₁)
  | (.ok plan, s₁) =>
    match z.advise f plan r with
    | .error fault => (.error fault, s₁)
    | .ok advice =>
      match (Statistics.synthesize z.source f).outcome s₁ with
      | (.error cause, s₂) => (.error (.stage .statistics cause), s₂)
      | (.ok statistics, s₂) => (.ok ⟨text, f, plan, advice, statistics⟩, s₂)

/-! ## Running the stages -/

lemma advise_eq_ok_iff {z : Analyzer σ} {f : Sql.Features} {plan : Plan} {r : Registry}
    {advice : List Recommendation} :
    z.advise f plan r = .ok advice ↔ Advice.recommend z.costThreshold f plan r = .ok advice :=
  Except.mapError_eq_ok_iff

lemma advise_of_error {z : Analyzer σ} {f : Sql.Features} {plan : Plan} {r : Registry}
    {fault : Number.DigitFault} (h : Advice.recommend z.costThreshold f plan r = .error fault) :
    z.advise f plan r = .error (.stage .recommend (.digits fault)) := by
  rw [advise, h]
  rfl

lemma run_stage (stage : Stage) {α : Type} (x : Draw σ α) (s : σ) :
    (run stage x).run.run s = ((x.outcome s).1.mapError (.stage stage), (x.outcome s).2) := by
  rw [run, ExceptT.run_adapt, StateT.run_map]
  rfl

lemma run_stage_bind (stage : Stage) {α β : Type} (x : Draw σ α)
    (g : α → ExceptT AnalysisFault (StateM σ) β) (s : σ) :
    (run stage x >>= g).run.run s =
      match x.outcome s with
      | (.ok a, s') => (g a).run.run s'
      | (.error cause, s') => (.error (.stage stage cause), s') := by
  rw [ExceptT.run_bind, StateT.run_bind, run_stage]
  rcases x.outcome s with ⟨_ | _, s'⟩ <;> rfl

lemma run_pure_stage_bind {α β : Type} (x : Except AnalysisFault α)
    (g : α → ExceptT AnalysisFault (StateM σ) β) (s : σ) :
    ((x : ExceptT AnalysisFault (StateM σ) α) >>= g).run.run s =
      match x with
      | .ok a => (g a).run.run s
      | .error fault => (.error fault, s) := by
  cases x <;> rfl

lemma outcome_of_prepare_ok {z : Analyzer σ} {sql registry : Value} {text : String}
    {f : Sql.Features} {r : Registry} (h : prepare sql registry = .ok (text, r, f)) (s : σ) :
    z.outcome sql registry s = z.stages text f r s := by
  have hanalyze : z.analyze sql registry = (do
      let plan ← run .plan (Plan.synthesize z.source z.costs f r)
      let advice ← (z.advise f plan r : Except AnalysisFault _)
      let statistics ← run .statistics (Statistics.synthesize z.source f)
      return ⟨text, f, plan, advice, statistics⟩) := by
    rw [analyze, h]
    rfl
  rw [outcome, hanalyze, run_stage_bind, stages]
  rcases (Plan.synthesize z.source z.costs f r).outcome s with ⟨_ | plan, s₁⟩
  · rfl
  · dsimp only
    rw [run_pure_stage_bind]
    cases z.advise f plan r with
    | error fault => rfl
    | ok advice =>
      dsimp only
      rw [run_stage_bind]
      rcases (Statistics.synthesize z.source f).outcome s₁ with ⟨_ | statistics, s₂⟩ <;> rfl

/-- An analysis that is refused draws nothing. -/
lemma outcome_of_prepare_error {z : Analyzer σ} {sql registry : Value} {fault : AnalysisFault}
    (h : prepare sql registry = .error fault) (s : σ) :
    z.outcome sql registry s = (.error fault, s) := by
  rw [outcome, analyze, h]
  rfl

/-- **Against an accepted registry** an analysis reads the statement and then runs the stages. -/
lemma outcome_of_accepted {registry : Value} {r : Registry} (h : Registry.ofValue registry = .ok r)
    (z : Analyzer σ) (sql : Value) (s : σ) :
    z.outcome sql registry s =
      match readStatement sql with
      | .error fault => (.error fault, s)
      | .ok (text, f) => z.stages text f r s := by
  have hprepare := prepare_of_accepted h sql
  cases hread : readStatement sql with
  | error fault => exact outcome_of_prepare_error (by rw [hprepare, hread]; rfl) s
  | ok p => exact outcome_of_prepare_ok (by rw [hprepare, hread]; rfl) s

/-! ## Analyses that are made -/

/-- An outcome of which some part of an analysis can be computed is an analysis. -/
lemma exists_analysis_of_part {α : Type} {o : Except AnalysisFault Analysis × σ}
    {g : Analysis → α} {x : α} (h : o.1.toOption.map g = some x) :
    ∃ a, o = (.ok a, o.2) ∧ g a = x := by
  obtain ⟨_ | a, s⟩ := o
  · simp [Except.toOption] at h
  · exact ⟨a, rfl, Option.some.inj h⟩

lemma exists_analysis_of_features {o : Except AnalysisFault Analysis × σ} {f : Sql.Features}
    (h : o.1.toOption.map (·.features) = some f) : ∃ a, o = (.ok a, o.2) ∧ a.features = f :=
  exists_analysis_of_part h

/-- An analysis is made of what the stages give, one behind the other. -/
lemma stages_eq_ok_iff {z : Analyzer σ} {text : String} {f : Sql.Features} {r : Registry}
    {s s' : σ} {a : Analysis} :
    z.stages text f r s = (.ok a, s') ↔
      ∃ plan s₁ advice statistics,
        (Plan.synthesize z.source z.costs f r).outcome s = (.ok plan, s₁) ∧
        Advice.recommend z.costThreshold f plan r = .ok advice ∧
        (Statistics.synthesize z.source f).outcome s₁ = (.ok statistics, s') ∧
        a = ⟨text, f, plan, advice, statistics⟩ := by
  unfold stages advise
  rcases (Plan.synthesize z.source z.costs f r).outcome s with ⟨_ | plan, s₁⟩
  · simp
  · cases hadvice : Advice.recommend z.costThreshold f plan r with
    | error fault => simp [hadvice, Except.mapError]
    | ok advice =>
      rcases hstatistics : (Statistics.synthesize z.source f).outcome s₁ with ⟨_ | statistics, s₂⟩
      · simp [hadvice, hstatistics, Except.mapError]
      · simp [hadvice, hstatistics, Except.mapError, eq_comm, and_comm]

/-- An analysis records the text and the features that its stages went by. -/
lemma eq_of_stages_eq_ok {z : Analyzer σ} {text : String} {f : Sql.Features} {r : Registry}
    {s s' : σ} {a : Analysis} (h : z.stages text f r s = (.ok a, s')) :
    a.sql = text ∧ a.features = f := by
  obtain ⟨plan, s₁, advice, statistics, -, -, -, rfl⟩ := stages_eq_ok_iff.mp h
  exact ⟨rfl, rfl⟩

/-- The plan of an analysis is synthesised first, and the advice is for that plan. -/
lemma exists_synthesize_of_stages {z : Analyzer σ} {text : String} {f : Sql.Features} {r : Registry}
    {s s' : σ} {a : Analysis} (h : z.stages text f r s = (.ok a, s')) :
    ∃ s₁, (Plan.synthesize z.source z.costs f r).outcome s = (.ok a.plan, s₁) ∧
      Advice.recommend z.costThreshold f a.plan r = .ok a.recommendations := by
  obtain ⟨plan, s₁, advice, statistics, hplan, hadvice, -, rfl⟩ := stages_eq_ok_iff.mp h
  exact ⟨s₁, hplan, hadvice⟩

/-- An analysis is what the stages make of the text and the features that it records, against the
registry that was accepted. -/
lemma exists_stages_of_outcome {z : Analyzer σ} {sql registry : Value} {s s' : σ} {a : Analysis}
    (h : z.outcome sql registry s = (.ok a, s')) :
    ∃ r, z.stages a.sql a.features r s = (.ok a, s') := by
  cases hprepare : prepare sql registry with
  | error fault => simp [outcome_of_prepare_error hprepare] at h
  | ok p =>
    obtain ⟨text, r, f⟩ := p
    rw [outcome_of_prepare_ok hprepare] at h
    obtain ⟨htext, hfeatures⟩ := eq_of_stages_eq_ok h
    exact ⟨r, by rw [htext, hfeatures, h]⟩

/-- An analysis records the text that was given and the features of that text. -/
lemma extract_of_outcome {z : Analyzer σ} {sql registry : Value} {s s' : σ} {a : Analysis}
    (h : z.outcome sql registry s = (.ok a, s')) :
    sql = .text a.sql ∧ Sql.extract a.sql = .ok a.features := by
  cases hprepare : prepare sql registry with
  | error fault => simp [outcome_of_prepare_error hprepare] at h
  | ok p =>
    obtain ⟨text, r, f⟩ := p
    rw [outcome_of_prepare_ok hprepare] at h
    obtain ⟨rfl, rfl⟩ := eq_of_stages_eq_ok h
    simp only [prepare, Except.bind_eq_ok_iff, Except.mapError_eq_ok_iff] at hprepare
    obtain ⟨text, hquery, r, -, f, hextract, hsame⟩ := hprepare
    obtain ⟨rfl, -, rfl⟩ : text = a.sql ∧ _ ∧ f = a.features := by simpa using Except.ok.inj hsame
    exact ⟨eq_text_of_queryText hquery, hextract⟩

end Analyzer

end SqlAdvice
