import SqlAdvice.Proofs.Stages

/-!
# Rejected calls

An analyzer goes on with one source from call to call (`Analyzer.runAll`).  A call is rejected when
its caller is told that the input is malformed or that no features can be read off the text
(`isRejected`).  Both are found out before anything is drawn, from what is handed in alone
(`isRejected_outcome`), so a rejected call leaves the source as it found it
(`state_of_isRejected`).

By induction on the calls, a sequence of calls therefore comes to the same without its rejected
ones: every other call has the outcome it had, and the source ends in the same state
(`runAll_kept`).  Calls that fail in a stage are not rejected in this sense.  They may have drawn,
and the calls after them go on with what is left.
-/

namespace SqlAdvice

/-! ## Rejection -/

/-- Holds of the problems with what was handed in. -/
def Problem.isRejection : Problem → Bool
  | malformedInput _ => true
  | extraction _ _ => true
  | _ => false

/-- Tells whether a call ended with a problem with what was handed in. -/
def isRejected : Except AnalysisFault Analysis → Bool
  | .ok _ => false
  | .error fault => fault.problem.isRejection

namespace AnalysisFault

lemma isRejection_problem_input (fault : InputFault) :
    (input fault).problem.isRejection = true := rfl

lemma isRejection_problem_extraction (fault : Sql.ExtractionFault) :
    (extraction fault).problem.isRejection = true := by
  cases fault <;> rfl

lemma isRejection_problem_stage (s : Stage) (cause : Cause) :
    (stage s cause).problem.isRejection = false := rfl

end AnalysisFault

/-- What is found wrong before the stages is always a rejection. -/
lemma isRejection_of_prepare_error {sql registry : Value} {fault : AnalysisFault}
    (h : prepare sql registry = .error fault) : fault.problem.isRejection = true := by
  simp only [prepare, bind, Except.bind] at h
  cases hsql : queryText sql with
  | error inputFault =>
    simp only [hsql, Except.mapError, Except.error.injEq] at h
    exact h ▸ AnalysisFault.isRejection_problem_input _
  | ok text =>
    cases hregistry : Registry.ofValue registry with
    | error registryFault =>
      simp only [hsql, hregistry, Except.mapError, Except.error.injEq] at h
      exact h ▸ AnalysisFault.isRejection_problem_input _
    | ok r =>
      cases hextract : Sql.extract text with
      | error extractionFault =>
        simp only [hsql, hregistry, hextract, Except.mapError, Except.error.injEq] at h
        exact h ▸ AnalysisFault.isRejection_problem_extraction _
      | ok f =>
        simp [hsql, hregistry, hextract, Except.mapError, pure, Except.pure] at h

namespace Analyzer

variable {σ : Type}

/-- The stages never reject: their faults name the stage. -/
lemma isRejected_stages (z : Analyzer σ) (text : String) (f : Sql.Features) (r : Registry) (s : σ) :
    isRejected (z.stages text f r s).1 = false := by
  rw [stages]
  rcases (Plan.synthesize z.source z.costs f r).outcome s with ⟨cause | plan, s₁⟩
  · exact AnalysisFault.isRejection_problem_stage .plan cause
  · dsimp only
    cases hadvice : Advice.recommend z.costThreshold f plan r with
    | error fault =>
      rw [advise_of_error hadvice]
      exact AnalysisFault.isRejection_problem_stage .recommend (.digits fault)
    | ok advice =>
      rw [advise_eq_ok_iff.mpr hadvice]
      dsimp only
      rcases (Statistics.synthesize z.source f).outcome s₁ with ⟨cause | statistics, s₂⟩
      · exact AnalysisFault.isRejection_problem_stage .statistics cause
      · rfl

/-- A call is rejected exactly when what is handed in cannot be prepared, whatever the analyzer is
and whatever it has drawn. -/
lemma isRejected_outcome (z : Analyzer σ) (sql registry : Value) (s : σ) :
    isRejected (z.outcome sql registry s).1 = !(prepare sql registry).isOk := by
  cases hprepare : prepare sql registry with
  | error fault =>
    rw [outcome_of_prepare_error hprepare]
    exact isRejection_of_prepare_error hprepare
  | ok p =>
    obtain ⟨text, r, f⟩ := p
    rw [outcome_of_prepare_ok hprepare]
    exact isRejected_stages z text f r s

/-- **One step**: a rejected call leaves the source as it found it. -/
lemma state_of_isRejected {z : Analyzer σ} {sql registry : Value} {s : σ}
    (h : isRejected (z.outcome sql registry s).1 = true) : (z.outcome sql registry s).2 = s := by
  rw [isRejected_outcome] at h
  cases hprepare : prepare sql registry with
  | error fault => rw [outcome_of_prepare_error hprepare]
  | ok p => simp [hprepare, Except.isOk, Except.toBool] at h

/-! ## Sequences of calls -/

/-- What one call hands in. -/
structure Call where
  sql : Value
  registry : Value

/-- Makes calls one after another, each with the source as the one before left it: the outcomes in
order, and the state that is left at the end. -/
def runAll (z : Analyzer σ) : List Call → σ → List (Except AnalysisFault Analysis) × σ
  | [], s => ([], s)
  | call :: calls, s =>
    let (o, s₁) := z.outcome call.sql call.registry s
    let (os, s₂) := z.runAll calls s₁
    (o :: os, s₂)

/-- The calls of a sequence that are not rejected when the sequence is run. -/
def kept (z : Analyzer σ) (calls : List Call) (s : σ) : List Call :=
  ((calls.zip (z.runAll calls s).1).filter fun p => !isRejected p.2).map (·.1)

variable {z : Analyzer σ} {call : Call} {s : σ}

lemma runAll_cons (z : Analyzer σ) (call : Call) (calls : List Call) (s : σ) :
    z.runAll (call :: calls) s =
      ((z.outcome call.sql call.registry s).1 ::
          (z.runAll calls (z.outcome call.sql call.registry s).2).1,
        (z.runAll calls (z.outcome call.sql call.registry s).2).2) := rfl

lemma kept_cons_of_rejected (h : isRejected (z.outcome call.sql call.registry s).1 = true)
    (calls : List Call) : z.kept (call :: calls) s = z.kept calls s := by
  rw [kept, runAll_cons, List.zip_cons_cons, List.filter_cons_of_neg (by simp [h]),
    state_of_isRejected h]
  rfl

lemma kept_cons_of_not_rejected (h : isRejected (z.outcome call.sql call.registry s).1 = false)
    (calls : List Call) :
    z.kept (call :: calls) s =
      call :: z.kept calls (z.outcome call.sql call.registry s).2 := by
  rw [kept, runAll_cons, List.zip_cons_cons, List.filter_cons_of_pos (by simp [h])]
  rfl

/-- **Rejected calls leave no trace.**  Of any sequence of calls, those that are not rejected have
the same outcomes and leave the source in the same state when the rejected ones are not made at
all. -/
theorem runAll_kept (z : Analyzer σ) (calls : List Call) (s : σ) :
    z.runAll (z.kept calls s) s =
      ((z.runAll calls s).1.filter fun o => !isRejected o, (z.runAll calls s).2) := by
  induction calls generalizing s with
  | nil => rfl
  | cons call calls ih =>
    cases h : isRejected (z.outcome call.sql call.registry s).1 with
    | true =>
      rw [kept_cons_of_rejected h, ih, runAll_cons, state_of_isRejected h,
        List.filter_cons_of_neg (by simp [h])]
    | false =>
      rw [kept_cons_of_not_rejected h, runAll_cons, ih, runAll_cons,
        List.filter_cons_of_pos (by simp [h])]

end Analyzer

end SqlAdvice
