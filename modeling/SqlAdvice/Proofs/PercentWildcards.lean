import SqlAdvice.Draw.Source
import SqlAdvice.Proofs.Advised
import SqlAdvice.Proofs.Features
import SqlAdvice.Proofs.LiteralTemplate
import SqlAdvice.Proofs.Stages

/-!
# Percent signs and the wildcard

A percent sign in front of a pattern keeps an index from being used, and two of them in one literal
are the wildcard that is warned of.  But percent signs are counted over the whole text, so two
literals that hold one each raise the wildcard together, though neither of them does alone
(`wildcard_of_trailing_percents`).

A `QuotedText` is a text in which the single-quoted literals are told.  It leaves open what else
quotes: whether a doubled quote closes a literal, and whether single quotes count between double
ones, can be told either way, and one way is that of the extractors of clauses (`exists_isScanned`).
Where no literal holds more than one percent sign and none stands outside of them, the wildcard is
raised exactly by two literals that hold one (`wildcardFindings_of_singlyWild`).
-/

namespace SqlAdvice

open Sql

/-- A text and its single-quoted literals. -/
structure QuotedText where
  /-- For each literal what stands in front of it, from the literal before on, and what it holds. -/
  parts : List (List Char × List Char)
  /-- What stands behind the last literal. -/
  behind : List Char

namespace QuotedText

def text (t : QuotedText) : List Char :=
  t.parts.flatMap (fun p => p.1 ++ '\'' :: p.2 ++ ['\'']) ++ t.behind

/-- What the literals hold. -/
def literals (t : QuotedText) : List (List Char) :=
  t.parts.map (·.2)

/-- What stands between the literals. -/
def outside (t : QuotedText) : List (List Char) :=
  t.parts.map (·.1) ++ [t.behind]

/-- How many literals hold a percent sign. -/
def wildLiterals (t : QuotedText) : Nat :=
  t.literals.countP (·.contains '%')

/-- There are no stars, and percent signs only in literals, one in each at most. -/
structure SinglyWild (t : QuotedText) : Prop where
  no_star : '*' ∉ t.text
  no_percent_outside : ∀ o ∈ t.outside, '%' ∉ o
  once : ∀ x ∈ t.literals, x.count '%' ≤ 1

/-! ## The literals that the extractors of clauses see -/

/-- No single-quoted literal is open anywhere in a text. -/
def Unquoted (quote : Option Char) (o : List Char) : Prop :=
  ∀ w, w <+: o → Literal.openAfter quote w ≠ some '\''

/-- The literals are told as the scan of a text tells them, `quote` being open in front of it. -/
inductive IsScanned : Option Char → QuotedText → Prop
  | behind {quote : Option Char} {behind : List Char} (h : Unquoted quote behind) :
      IsScanned quote ⟨[], behind⟩
  | literal {quote : Option Char} {o x behind : List Char} {parts : List (List Char × List Char)}
      (ho : Unquoted quote o) (hopen : Literal.openAfter quote o = none) (hx : '\'' ∉ x)
      (h : IsScanned none ⟨parts, behind⟩) : IsScanned quote ⟨(o, x) :: parts, behind⟩

section Scanned

variable {quote : Option Char} {c : Char} {o : List Char}

lemma Unquoted.nil (h : quote ≠ some '\'') : Unquoted quote [] := by
  intro w hw
  rwa [List.prefix_nil.mp hw]

lemma Unquoted.cons (hquote : quote ≠ some '\'') (h : Unquoted (Literal.next quote c) o) :
    Unquoted quote (c :: o) := by
  intro w hw
  obtain rfl | ⟨w', rfl, hw'⟩ := List.prefix_cons_iff.mp hw
  · exact hquote
  · exact h w' hw'

/-- Only a single quote opens a single-quoted literal. -/
lemma next_eq_some_iff (hquote : quote ≠ some '\'') :
    Literal.next quote c = some '\'' ↔ quote = none ∧ c = '\'' := by
  cases quote with
  | none =>
    by_cases hc : c = '\''
    · simp [Literal.next, hc, Literal.isQuote]
    · simp [Literal.next, hc]
  | some q =>
    have hq : q ≠ '\'' := fun h => hquote (h ▸ rfl)
    by_cases hc : c = q <;> simp [Literal.next, hc, hq]

lemma Unquoted.of_not_mem (hquote : quote ≠ some '\'') (h : '\'' ∉ o) : Unquoted quote o := by
  induction o generalizing quote with
  | nil => exact Unquoted.nil hquote
  | cons c o ih =>
    obtain ⟨hc, ho⟩ := List.ne_and_not_mem_of_not_mem_cons h
    have hnext : Literal.next quote c ≠ some '\'' := fun h =>
      hc ((next_eq_some_iff hquote).mp h).2.symm
    exact (ih hnext ho).cons hquote

/-- A character that opens no single-quoted literal can be put in front. -/
lemma exists_isScanned_cons {t : QuotedText} (hquote : quote ≠ some '\'')
    (h : IsScanned (Literal.next quote c) t) :
    ∃ t', IsScanned quote t' ∧ t'.text = c :: t.text := by
  cases h with
  | behind h => exact ⟨_, .behind (h.cons hquote), rfl⟩
  | literal ho hopen hx h => exact ⟨_, .literal (ho.cons hquote) hopen hx h, rfl⟩

/-- Every text in which all single-quoted literals are closed can be told like that. -/
lemma exists_isScanned (hquote : quote ≠ some '\'') {cs : List Char}
    (h : Literal.openAfter quote cs ≠ some '\'') : ∃ t, IsScanned quote t ∧ t.text = cs := by
  induction hlength : cs.length using Nat.strong_induction_on generalizing cs quote with
  | h length ih =>
    subst hlength
    cases cs with
    | nil => exact ⟨_, .behind (Unquoted.nil hquote), rfl⟩
    | cons c cs =>
      by_cases hnext : Literal.next quote c = some '\''
      · -- the literal that is opened here is closed again, and a new part begins behind it
        obtain ⟨rfl, rfl⟩ := (next_eq_some_iff hquote).mp hnext
        obtain ⟨x, rest, rfl, hx, hrest⟩ := exists_closing h
        obtain ⟨t, ht, rfl⟩ := ih rest.length (by simp; omega) (by simp) (hrest ▸ h) rfl
        exact ⟨⟨([], x) :: t.parts, t.behind⟩, .literal (Unquoted.nil hquote) rfl hx ht,
          by simp [text]⟩
      · obtain ⟨t, ht, rfl⟩ := ih cs.length (by simp) hnext h rfl
        exact exists_isScanned_cons hquote ht

end Scanned

/-! ## Counting -/

lemma count_text (t : QuotedText) :
    t.text.count '%' = (t.outside.map (·.count '%')).sum + (t.literals.map (·.count '%')).sum := by
  obtain ⟨parts, behind⟩ := t
  induction parts with
  | nil => simp [text, outside, literals]
  | cons p parts ih =>
    simp [text, outside, literals] at ih ⊢
    omega

/-- A literal counts once if it holds a percent sign. -/
lemma sum_count_eq_countP {ls : List (List Char)} (h : ∀ x ∈ ls, x.count '%' ≤ 1) :
    (ls.map (·.count '%')).sum = ls.countP (·.contains '%') := by
  induction ls with
  | nil => rfl
  | cons x ls ih =>
    obtain ⟨hx, hls⟩ := List.forall_mem_cons.mp h
    have hcount : x.count '%' = if x.contains '%' = true then 1 else 0 := by
      by_cases hmem : '%' ∈ x
      · have hpos : 0 < x.count '%' := List.count_pos_iff.mpr hmem
        simp [hmem]
        omega
      · simp [hmem, List.count_eq_zero_of_not_mem hmem]
    rw [List.map_cons, List.sum_cons, ih hls, hcount, List.countP_cons, Nat.add_comm]

lemma hasWildcard_iff {t : QuotedText} (ht : t.SinglyWild) :
    hasWildcard t.text = true ↔ 2 ≤ t.wildLiterals := by
  have houtside : (t.outside.map (·.count '%')).sum = 0 := by
    rw [List.sum_eq_zero_iff]
    simpa [List.count_eq_zero] using ht.no_percent_outside
  have hcount : t.text.count '%' = t.wildLiterals := by
    rw [count_text, houtside, Nat.zero_add, sum_count_eq_countP ht.once, wildLiterals]
  simp [hasWildcard, ht.no_star, hcount]

end QuotedText

/-! ## Warnings and advice -/

lemma wildcardWarning_mem_iff {σ : Type} {src : Source σ} {costs : CostModel}
    {f : Sql.Features} {r : Registry} {s s' : σ} {plan : Plan}
    (h : (Plan.synthesize src costs f r).outcome s = (.ok plan, s')) :
    Plan.wildcardWarning ∈ plan.warnings ↔ f.hasWildcard = true :=
  (warning_mem_warnings_iff h (x := .wildcard)).trans mem_findings

/-- An analysis warns of a wildcard, and advises on it, exactly if its text has one. -/
lemma wildcardFindings_of_outcome {σ : Type} {z : Analyzer σ} {sql : String} {registry : Value}
    {s s' : σ} {a : Analysis} (h : z.outcome (.text sql) registry s = (.ok a, s')) :
    (Plan.wildcardWarning ∈ a.plan.warnings ↔ hasWildcard sql.toList = true) ∧
      (Advice.wildcardAdvice ∈ a.recommendations ↔ hasWildcard sql.toList = true) := by
  obtain ⟨r, hstages⟩ := Analyzer.exists_stages_of_outcome h
  obtain ⟨s₁, hplan, hadvice⟩ := Analyzer.exists_synthesize_of_stages hstages
  obtain ⟨hsql, hextract⟩ := Analyzer.extract_of_outcome h
  have hfeatures : a.features.hasWildcard = hasWildcard sql.toList := by
    rw [eq_read_of_extract hextract, Value.text.inj hsql]
    rfl
  rw [wildcardWarning_mem_iff hplan, wildcardAdvice_mem_iff hadvice, hfeatures]
  exact ⟨.rfl, .rfl⟩

/-- **Percent signs add up.**  In a text without stars, let percent signs occur only in
single-quoted literals, at most one in each.  Then there is a wildcard exactly if two literals hold
a percent sign, and an analysis of the text warns of the wildcard, and advises on it, exactly
then. -/
theorem wildcardFindings_of_singlyWild {t : QuotedText} (ht : t.SinglyWild) :
    (hasWildcard t.text = true ↔ 2 ≤ t.wildLiterals) ∧
      ∀ {σ : Type} {z : Analyzer σ} {registry : Value} {s s' : σ} {a : Analysis},
        z.outcome (.text (String.ofList t.text)) registry s = (.ok a, s') →
          (Plan.wildcardWarning ∈ a.plan.warnings ↔ 2 ≤ t.wildLiterals) ∧
          (Advice.wildcardAdvice ∈ a.recommendations ↔ 2 ≤ t.wildLiterals) := by
  have hwild := QuotedText.hasWildcard_iff ht
  refine ⟨hwild, fun h => ?_⟩
  have hfindings := wildcardFindings_of_outcome h
  rwa [String.toList_ofList, hwild] at hfindings

/-- One trailing percent sign. -/
theorem wildcardFindings_of_singlyWild_script :
    let t : QuotedText := ⟨[("SELECT a FROM t WHERE b LIKE ".toList, "x%".toList)], []⟩
    let sql := "SELECT a FROM t WHERE b LIKE 'x%'"
    let z : Analyzer (List Int) := { source := Script.source }
    t.SinglyWild ∧ hasWildcard sql.toList = false ∧
      ∃ a s, z.outcome (.text sql) .null [5, 7, 11, 40, 2000, 3000, 500, 600, 700, 800] =
          (.ok a, s) ∧
        Plan.wildcardWarning ∉ a.plan.warnings ∧ Advice.wildcardAdvice ∉ a.recommendations := by
  intro t sql z
  have ht : t.SinglyWild := ⟨by decide, by decide, by decide⟩
  have htext : t.text = sql.toList := by decide
  obtain ⟨hwild, hanalyses⟩ := wildcardFindings_of_singlyWild ht
  rw [htext] at hwild
  have hone : ¬ 2 ≤ t.wildLiterals := by decide
  obtain ⟨a, ha, -⟩ := Analyzer.exists_analysis_of_features
    (o := z.outcome (.text sql) .null [5, 7, 11, 40, 2000, 3000, 500, 600, 700, 800])
    (f := { kind := .select, tables := ["t"], conditions := ["b LIKE 'x%'"] }) (by decide +kernel)
  obtain ⟨hwarning, hadvice⟩ := hanalyses ha
  exact ⟨ht, Bool.eq_false_iff.mpr (hone ∘ hwild.mp), a, _, ha, hone ∘ hwarning.mp,
    hone ∘ hadvice.mp⟩

/-- **Two trailing percent signs are a wildcard.**  No literal holds more than one, and still the
wildcard is warned of, and advised on. -/
theorem wildcard_of_trailing_percents :
    let sql := "SELECT a FROM t WHERE b LIKE 'x%' OR b LIKE 'y%'"
    let z : Analyzer (List Int) := { source := Script.source }
    ∃ t : QuotedText, t.SinglyWild ∧ t.IsScanned none ∧ t.text = sql.toList ∧
      hasWildcard sql.toList = true ∧
      ∃ a s, z.outcome (.text sql) .null [5, 7, 11, 40, 2000, 3000, 500, 600, 700, 800, 900] =
          (.ok a, s) ∧
        Plan.wildcardWarning ∈ a.plan.warnings ∧ Advice.wildcardAdvice ∈ a.recommendations := by
  intro sql z
  let t : QuotedText := ⟨[("SELECT a FROM t WHERE b LIKE ".toList, "x%".toList),
    (" OR b LIKE ".toList, "y%".toList)], []⟩
  have hscanned : t.IsScanned none :=
    .literal (.of_not_mem (by decide) (by decide)) (by decide) (by decide)
      (.literal (.of_not_mem (by decide) (by decide)) (by decide) (by decide)
        (.behind (.nil (by decide))))
  have hwild : hasWildcard sql.toList = true := by decide
  obtain ⟨a, ha, -⟩ := Analyzer.exists_analysis_of_features
    (o := z.outcome (.text sql) .null [5, 7, 11, 40, 2000, 3000, 500, 600, 700, 800, 900])
    (f := { kind := .select, tables := ["t"], conditions := ["b LIKE 'x%'", "b LIKE 'y%'"],
            hasWildcard := true }) (by decide +kernel)
  obtain ⟨hwarning, hadvice⟩ := wildcardFindings_of_outcome ha
  exact ⟨t, ⟨by decide, by decide, by decide⟩, hscanned, by decide, hwild, a, _, ha,
    hwarning.mpr hwild, hadvice.mpr hwild⟩

end SqlAdvice
