import SqlAdvice.Draw.Source
import SqlAdvice.Proofs.Findings
import SqlAdvice.Proofs.Lookup
import SqlAdvice.Proofs.Stages
import Mathlib.Data.Set.Basic

/-!
# A registry is a set

The content of a registry is the set of the pairs of a table, in lower case, and a definition that
its entries hold (`Registry.content`).  It leaves out in which order and how often the entries are
listed, and in which letter case the tables are written.

Both questions that a registry answers are about its content (`Registry.hasEntry_iff_content`,
`Registry.covers_iff_content`), and plans and advice know of the registry only what it answers.  So
two registries of the same content lead to the same analysis, texts and numbers alike
(`Analyzer.outcome_eq_of_content`), from whatever kind of value they were read.
-/

namespace SqlAdvice

/-! ## Content -/

namespace Registry

/-- The pairs of a table, in lower case, and a definition that the entries hold. -/
def content (r : Registry) : Set (String × String) :=
  {p | ∃ e ∈ r.entries, (Text.lowered e.table, e.definition) = p}

lemma mem_content {r : Registry} {p : String × String} :
    p ∈ r.content ↔ p ∈ r.entries.map fun e => (Text.lowered e.table, e.definition) :=
  List.mem_map.symm

/-- A table has an entry when some definition is registered for it. -/
lemma hasEntry_iff_content {r : Registry} {t : String} :
    r.hasEntry t = true ↔ ∃ d, (Text.lowered t, d) ∈ r.content := by
  rw [hasEntry_iff]
  constructor
  · rintro ⟨e, he, hfor⟩
    exact ⟨e.definition, e, he, Prod.ext (eq_of_beq hfor) rfl⟩
  · rintro ⟨d, e, he, hpair⟩
    exact ⟨e, he, beq_iff_eq.mpr (congrArg Prod.fst hpair)⟩

/-- A column is covered when some definition that is registered for a table has its name. -/
lemma covers_iff_content {r : Registry} {c : String} {ts : List String} :
    r.covers c ts = true ↔
      ∃ t ∈ ts, ∃ d, (Text.lowered t, d) ∈ r.content ∧ c.toList <:+: d.toList := by
  rw [covers_eq_true_iff, Covered]
  constructor
  · rintro ⟨e, he, ⟨t, ht, hfor⟩, hmentions⟩
    exact ⟨t, ht, e.definition, ⟨e, he, Prod.ext hfor rfl⟩, hmentions⟩
  · rintro ⟨t, ht, d, ⟨e, he, hpair⟩, hmentions⟩
    obtain ⟨hfor, rfl⟩ := Prod.mk.inj hpair
    exact ⟨e, he, ⟨t, ht, hfor⟩, hmentions⟩

variable {r r' : Registry}

lemma hasEntry_eq_of_content (h : r.content = r'.content) (t : String) :
    r.hasEntry t = r'.hasEntry t := by
  rw [Bool.eq_iff_iff, hasEntry_iff_content, hasEntry_iff_content, h]

lemma covers_eq_of_content (h : r.content = r'.content) (c : String) (ts : List String) :
    r.covers c ts = r'.covers c ts := by
  rw [Bool.eq_iff_iff, covers_iff_content, covers_iff_content, h]

end Registry

/-! ## Passes over the features -/

section Passes

variable {r r' : Registry} (h : r.content = r'.content)

include h

lemma findings_eq_of_content (f : Sql.Features) : findings f r = findings f r' := by
  simp only [findings_eq, Registry.hasEntry_eq_of_content h, Registry.covers_eq_of_content h]

lemma steps_eq_of_content (f : Sql.Features) : Plan.steps f r = Plan.steps f r' := by
  have hscan : Plan.scanStep r = Plan.scanStep r' := by
    funext t
    rw [Plan.scanStep, Plan.scanStep, Registry.hasEntry_eq_of_content h]
  rw [Plan.steps, Plan.steps, hscan]

/-- The same operations are planned, and the same is warned of. -/
lemma synthesize_eq_of_content {σ : Type} (src : Source σ) (costs : CostModel)
    (f : Sql.Features) : Plan.synthesize src costs f r = Plan.synthesize src costs f r' := by
  rw [Plan.synthesize, Plan.synthesize, steps_eq_of_content h, allWarnings_eq_map,
    allWarnings_eq_map, findings_eq_of_content h]

lemma recommend_eq_of_content (threshold : Int) (f : Sql.Features) (plan : Plan) :
    Advice.recommend threshold f plan r = Advice.recommend threshold f plan r' := by
  rw [Advice.recommend, Advice.recommend, structural_eq_map, structural_eq_map,
    findings_eq_of_content h]

end Passes

/-! ## Analyses -/

namespace Analyzer

variable {σ : Type}

/-- **Only the content of a registry matters.**  Two values that are accepted as registries of the
same content lead to the same analysis of every statement, or to the same fault, and leave the
source in the same state. -/
theorem outcome_eq_of_content {registry registry' : Value} {r r' : Registry}
    (hr : Registry.ofValue registry = .ok r) (hr' : Registry.ofValue registry' = .ok r')
    (hcontent : r.content = r'.content) (z : Analyzer σ) (sql : Value) (s : σ) :
    z.outcome sql registry s = z.outcome sql registry' s := by
  rw [outcome_of_accepted hr, outcome_of_accepted hr']
  cases readStatement sql with
  | error fault => rfl
  | ok p =>
    dsimp only
    rw [stages, stages, synthesize_eq_of_content hcontent]
    simp only [advise, recommend_eq_of_content hcontent]

/-- A mapping, and the same content in another order, with a repeat and in other letter cases, as
items of three kinds that can be gone through once. -/
theorem outcome_eq_of_content_stream :
    let d := "INDEX ON Orders(Total)"
    let registry := Value.mapping [(.text "Orders", .text d), (.text "items", .text "IX(ID)")]
    let registry' := Value.stream
      [.entry ⟨"ITEMS", " IX(ID)"⟩, .tuple [.text " orders", .text d],
        .list [.text "ORDERS", .text d]]
    let r : Registry := ⟨[⟨"Orders", d⟩, ⟨"items", "IX(ID)"⟩]⟩
    let r' : Registry := ⟨[⟨"ITEMS", "IX(ID)"⟩, ⟨"orders", d⟩, ⟨"ORDERS", d⟩]⟩
    let z : Analyzer (List Int) := { source := Script.source }
    let sql := Value.text "SELECT * FROM Orders o WHERE o.Total > 10"
    Registry.ofValue registry = .ok r ∧ Registry.ofValue registry' = .ok r' ∧
      r.content = r'.content ∧
      z.outcome sql registry [5, 7, 11] = z.outcome sql registry' [5, 7, 11] := by
  intro d registry registry' r r' z sql
  have hr : Registry.ofValue registry = .ok r := by decide +kernel
  have hr' : Registry.ofValue registry' = .ok r' := by decide +kernel
  have hpairs : r.entries.map (fun e => (Text.lowered e.table, e.definition)) =
      [("orders", d), ("items", "IX(ID)")] := by decide +kernel
  have hpairs' : r'.entries.map (fun e => (Text.lowered e.table, e.definition)) =
      [("items", "IX(ID)"), ("orders", d), ("orders", d)] := by decide +kernel
  have hcontent : r.content = r'.content := by
    ext p
    rw [Registry.mem_content, Registry.mem_content, hpairs, hpairs']
    simp [or_comm]
  exact ⟨hr, hr', hcontent, outcome_eq_of_content hr hr' hcontent z sql [5, 7, 11]⟩

end Analyzer

end SqlAdvice
