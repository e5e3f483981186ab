import SqlAdvice.Proofs.Features
import SqlAdvice.Proofs.Findings
import SqlAdvice.Proofs.Lookup

/-!
# Following the advice

Advice to create an index comes with the code that creates it.  Following the advice means to
register that code (`Advice.follow`): the code of a primary key under its table, and the code of an
index on a column under the table to which the columns of the statement are attributed, the first
one.

For a statement that names a table this always succeeds, as the names of tables and the codes are
texts that need no stripping.  It also leaves nothing to advise: the new entries answer for exactly
the tables and the columns that were found, and the look-ups only gain from the others
(`findings_follow`).  What can be warned of after that are wildcards and function calls, which no
index helps.
-/

namespace SqlAdvice.Advice

/-! ## Registering what is advised -/

/-- The table that an index is for: the one whose primary key it is, or else the one to which the
columns are attributed. -/
def tableOf? (f : Sql.Features) (a : Recommendation) : Option String :=
  (f.tables.find? fun t => a == primaryKeyIndex t).or f.primaryTable?

/-- The registry after the advice to create indexes is followed, one entry for each piece of it in
order.  Other advice does not touch the registry. -/
def follow (f : Sql.Features) (r : Registry) (advice : List Recommendation) :
    Except Registry.EntryFault Registry :=
  (advice.filter (·.category == .index)).foldlM
    (fun r a => r.add? ((tableOf? f a).getD "") a.code) r

lemma tableOf?_primaryKeyIndex {f : Sql.Features} {t : String} (ht : t ∈ f.tables) :
    tableOf? f (primaryKeyIndex t) = some t := by
  obtain ⟨t', hfind⟩ : ∃ t', f.tables.find? (fun t' => primaryKeyIndex t == primaryKeyIndex t') =
      some t' :=
    Option.isSome_iff_exists.mp (List.find?_isSome.mpr ⟨t, ht, beq_self_eq_true _⟩)
  have hsame : t = t' := primaryKeyIndex_injective (eq_of_beq (List.find?_some hfind :))
  rw [tableOf?, hfind, hsame]
  rfl

lemma tableOf?_columnIndex (f : Sql.Features) (owner : Option String) (use : Plan.ColumnUse)
    (c : String) : tableOf? f (columnIndex owner use c) = f.primaryTable? := by
  have hfind : f.tables.find? (fun t => columnIndex owner use c == primaryKeyIndex t) = none := by
    refine List.find?_eq_none.mpr fun t _ hbeq => ?_
    have hsame : (Finding.uncovered use c).advice owner [] =
        (Finding.missingIndex t).advice owner [] := eq_of_beq hbeq
    exact nomatch Finding.advice_injective owner [] hsame
  rw [tableOf?, hfind]
  rfl

/-! ## The codes need no stripping -/

/-- A text from `C` to a semicolon is accepted as a definition. -/
lemma noBlankEnds_of_ends {s : String} (hhead : s.toList.head? = some 'C')
    (hlast : s.toList.getLast? = some ';') : Text.NoBlankEnds s.toList ∧ s ≠ "" := by
  refine ⟨⟨fun c hc => ?_, fun c hc => ?_⟩, fun h => ?_⟩
  · rw [hhead, Option.mem_some] at hc
    exact hc ▸ by decide
  · rw [hlast, Option.mem_some] at hc
    exact hc ▸ by decide
  · rw [h] at hhead
    simp at hhead

lemma noBlankEnds_code_primaryKeyIndex (t : String) :
    Text.NoBlankEnds (primaryKeyIndex t).code.toList ∧ (primaryKeyIndex t).code ≠ "" := by
  apply noBlankEnds_of_ends
  · simp [primaryKeyIndex]
  · simp only [primaryKeyIndex, String.toList_append]
    rw [List.getLast?_append_of_ne_nil _ (by simp)]
    simp

lemma noBlankEnds_code_columnIndex (owner : Option String) (use : Plan.ColumnUse) (c : String) :
    Text.NoBlankEnds (columnIndex owner use c).code.toList ∧
      (columnIndex owner use c).code ≠ "" := by
  apply noBlankEnds_of_ends
  · simp [columnIndex]
  · simp only [columnIndex, String.toList_append]
    rw [List.getLast?_append_of_ne_nil _ (by simp)]
    simp

/-- The code of an index on a column names the column. -/
lemma infix_code_columnIndex (owner : Option String) (use : Plan.ColumnUse) (c : String) :
    c.toList <:+: (columnIndex owner use c).code.toList := by
  simp only [columnIndex, String.toList_append]
  exact ⟨_, _, rfl⟩

/-! ## Following is appending -/

/-- The entry that following a piece of advice adds. -/
def entryFor (f : Sql.Features) (a : Recommendation) : Registry.Entry :=
  ⟨(tableOf? f a).getD "", a.code⟩

/-- The tables have names without blanks at their ends, as those of a text do. -/
def NamedTables (f : Sql.Features) : Prop :=
  ∀ t ∈ f.tables, t ≠ "" ∧ Text.NoBlankEnds t.toList

lemma namedTables_of_extract {sql : String} {f : Sql.Features} (h : Sql.extract sql = .ok f) :
    NamedTables f := by
  intro t ht
  rw [Sql.eq_read_of_extract h] at ht
  obtain ⟨name, hname, rfl⟩ := List.mem_map.mp ht
  obtain ⟨hne, hends⟩ := Sql.tables_spec hname
  refine ⟨fun hempty => hne ?_, by rwa [String.toList_ofList]⟩
  rw [← String.toList_ofList (l := name), hempty, String.toList_empty]

section

variable {f : Sql.Features} {r : Registry} {threshold : Int} {plan : Plan}
  {advice : List Recommendation}

/-- Advice to create an index comes from a finding, and from one that asks for an index. -/
lemma exists_finding_of_index (h : recommend threshold f plan r = .ok advice) {a : Recommendation}
    (ha : a ∈ advice) (hindex : a.category = .index) :
    ∃ x ∈ findings f r, a = x.advice f.primaryTable? f.functionCalls ∧
      x ≠ .wildcard ∧ x ≠ .calls := by
  obtain ⟨x, hx, rfl⟩ | ⟨-, rfl⟩ := (mem_recommend_iff h).mp ha
  · refine ⟨x, hx, rfl, ?_, ?_⟩
    · rintro rfl
      simp [Finding.advice, wildcardAdvice] at hindex
    · rintro rfl
      simp [Finding.advice, functionAdvice] at hindex
  · simp [Plan.review, costReview] at hindex

/-- Such advice is for the primary key of a table or for a column. -/
lemma eq_advice_of_index (h : recommend threshold f plan r = .ok advice) {a : Recommendation}
    (ha : a ∈ advice.filter (·.category == .index)) :
    (∃ t ∈ f.tables, a = primaryKeyIndex t) ∨
      ∃ use c, a = columnIndex f.primaryTable? use c := by
  obtain ⟨hmem, hindex⟩ := List.mem_filter.mp ha
  obtain ⟨x, hx, rfl, hwildcard, hcalls⟩ := exists_finding_of_index h hmem (eq_of_beq hindex)
  rw [mem_findings] at hx
  cases x with
  | missingIndex t => exact .inl ⟨t, hx.1, rfl⟩
  | uncovered use c => exact .inr ⟨use, c, rfl⟩
  | wildcard => exact absurd rfl hwildcard
  | calls => exact absurd rfl hcalls

end

/-- Every piece of it is accepted by any registry. -/
lemma add?_entryFor {f : Sql.Features} (hnamed : NamedTables f) (htables : f.tables ≠ [])
    {a : Recommendation}
    (ha : (∃ t ∈ f.tables, a = primaryKeyIndex t) ∨ ∃ use c, a = columnIndex f.primaryTable? use c)
    (r : Registry) :
    r.add? ((tableOf? f a).getD "") a.code = .ok ⟨r.entries ++ [entryFor f a]⟩ := by
  obtain ⟨t, ht, htable⟩ : ∃ t ∈ f.tables, tableOf? f a = some t := by
    obtain ⟨t, ht, rfl⟩ | ⟨use, c, rfl⟩ := ha
    · exact ⟨t, ht, tableOf?_primaryKeyIndex ht⟩
    · obtain ⟨t, rest, hcons⟩ := List.exists_cons_of_ne_nil htables
      have hmem : t ∈ f.tables := hcons ▸ List.mem_cons_self
      refine ⟨t, hmem, ?_⟩
      rw [tableOf?_columnIndex, Sql.Features.primaryTable?, hcons]
      rfl
  have hcode : Text.NoBlankEnds a.code.toList ∧ a.code ≠ "" := by
    obtain ⟨t, -, rfl⟩ | ⟨use, c, rfl⟩ := ha
    · exact noBlankEnds_code_primaryKeyIndex t
    · exact noBlankEnds_code_columnIndex _ use c
  obtain ⟨hne, hends⟩ := hnamed t ht
  rw [entryFor, htable, Option.getD_some, Registry.add?,
    Registry.Entry.checked_eq_ok hends hne hcode.1 hcode.2]
  rfl

/-- Following advice appends its entries, by induction on the advice: each step is accepted whatever
was registered before. -/
lemma foldlM_add?_eq_ok {f : Sql.Features} {advice : List Recommendation}
    (h : ∀ a ∈ advice, ∀ r : Registry,
      r.add? ((tableOf? f a).getD "") a.code = .ok ⟨r.entries ++ [entryFor f a]⟩) (r : Registry) :
    advice.foldlM (fun r a => r.add? ((tableOf? f a).getD "") a.code) r =
      .ok ⟨r.entries ++ advice.map (entryFor f)⟩ := by
  induction advice generalizing r with
  | nil => simp [pure, Except.pure]
  | cons a advice ih =>
    rw [List.foldlM_cons, h a List.mem_cons_self r]
    change advice.foldlM _ (⟨r.entries ++ [entryFor f a]⟩ : Registry) = _
    rw [ih fun b hb => h b (List.mem_cons_of_mem a hb)]
    simp

lemma follow_eq_ok {f : Sql.Features} (hnamed : NamedTables f) (htables : f.tables ≠ [])
    {r : Registry} {threshold : Int} {plan : Plan} {advice : List Recommendation}
    (h : recommend threshold f plan r = .ok advice) :
    follow f r advice =
      .ok ⟨r.entries ++ (advice.filter (·.category == .index)).map (entryFor f)⟩ :=
  foldlM_add?_eq_ok (fun _ ha => add?_entryFor hnamed htables (eq_advice_of_index h ha)) r

/-! ## Nothing is left to advise -/

/-- A finding that asks for an index is advised, whatever the plan is. -/
lemma mem_index_advice {f : Sql.Features} {r : Registry} {x : Finding} (hx : x ∈ findings f r)
    (hindex : (x.advice f.primaryTable? f.functionCalls).category = .index) {threshold : Int}
    {plan : Plan} {advice : List Recommendation} (h : recommend threshold f plan r = .ok advice) :
    x.advice f.primaryTable? f.functionCalls ∈ advice.filter (·.category == .index) :=
  List.mem_filter.mpr ⟨(mem_recommend_iff h).mpr (.inl ⟨x, hx, rfl⟩), beq_iff_eq.mpr hindex⟩

/-- After the advice is followed, no finding asks for an index. -/
lemma findings_follow {f : Sql.Features} (hnamed : NamedTables f) (htables : f.tables ≠ [])
    {r r' : Registry} {threshold : Int} {plan : Plan} {advice : List Recommendation}
    (h : recommend threshold f plan r = .ok advice) (hfollow : follow f r advice = .ok r')
    {x : Finding} (hx : x ∈ findings f r') : x = .wildcard ∨ x = .calls := by
  rw [follow_eq_ok hnamed htables h, Except.ok.injEq] at hfollow
  have hsub : r.entries ⊆ r'.entries := by
    rw [← hfollow]
    exact List.subset_append_left _ _
  have hnew : ∀ a ∈ advice.filter (·.category == .index), entryFor f a ∈ r'.entries := by
    intro a ha
    rw [← hfollow]
    exact List.mem_append_right _ (List.mem_map_of_mem ha)
  rw [mem_findings] at hx
  cases x with
  | missingIndex t =>
    obtain ⟨ht, hnone⟩ := hx
    have hold : r.hasEntry t = false :=
      Bool.eq_false_iff.mpr fun hyes =>
        Bool.eq_false_iff.mp hnone (Registry.hasEntry_mono hsub hyes)
    have hentry := hnew _ (mem_index_advice (x := .missingIndex t) (mem_findings.mpr ⟨ht, hold⟩)
      rfl h)
    have hyes : r'.hasEntry t = true := by
      refine Registry.hasEntry_iff.mpr ⟨_, hentry, ?_⟩
      rw [entryFor, Finding.advice, tableOf?_primaryKeyIndex ht]
      exact Registry.Entry.isFor_self t _
    exact absurd hyes (Bool.eq_false_iff.mp hnone)
  | uncovered use c =>
    obtain ⟨hc, hnone⟩ := hx
    have hold : r.covers c f.tables = false :=
      Bool.eq_false_iff.mpr fun hyes => Bool.eq_false_iff.mp hnone (Registry.covers_mono hsub hyes)
    have hentry := hnew _ (mem_index_advice (x := .uncovered use c) (mem_findings.mpr ⟨hc, hold⟩)
      rfl h)
    obtain ⟨t, rest, hcons⟩ := List.exists_cons_of_ne_nil htables
    have howner : f.primaryTable? = some t := by rw [Sql.Features.primaryTable?, hcons]; rfl
    have hyes : r'.covers c f.tables = true := by
      refine Registry.covers_iff.mpr ⟨_, hentry, ⟨t, hcons ▸ List.mem_cons_self, ?_⟩, ?_⟩
      · rw [entryFor, Finding.advice, tableOf?_columnIndex, howner]
        exact Registry.Entry.isFor_self t _
      · exact Registry.Entry.mentions_iff.mpr (infix_code_columnIndex _ use c)
    exact absurd hyes (Bool.eq_false_iff.mp hnone)
  | wildcard => exact .inl rfl
  | calls => exact .inr rfl

/-- **Following the advice silences it.**  For a text that names a table, the entries that are
advised are all accepted and are appended in order.  Against the registry that results nothing
advises an index, for any plan and threshold, and every plan for the text warns of wildcards and of
function calls at most. -/
theorem follow_silences {sql : String} {f : Sql.Features} (hsql : Sql.extract sql = .ok f)
    (htables : f.tables ≠ []) {r : Registry} {threshold : Int} {plan : Plan}
    {advice : List Recommendation} (hadvice : recommend threshold f plan r = .ok advice) :
    ∃ r', follow f r advice = .ok r' ∧
      r'.entries = r.entries ++ (advice.filter (·.category == .index)).map (entryFor f) ∧
      (∀ threshold' plan' advice', recommend threshold' f plan' r' = .ok advice' →
        ∀ a ∈ advice', a.category ≠ .index) ∧
      ∀ {σ : Type} (src : Source σ) costs s plan' s',
        (Plan.synthesize src costs f r').outcome s = (.ok plan', s') →
        ∀ w ∈ plan'.warnings,
          w = Plan.wildcardWarning ∨ w = Plan.functionWarning f.functionCalls := by
  have hnamed := namedTables_of_extract hsql
  have hfollow := follow_eq_ok hnamed htables hadvice
  refine ⟨_, hfollow, rfl, fun threshold' plan' advice' hadvice' a ha hindex => ?_,
    fun src costs s plan' s' hplan w hw => ?_⟩
  · obtain ⟨x, hx, -, hwildcard, hcalls⟩ := exists_finding_of_index hadvice' ha hindex
    obtain rfl | rfl := findings_follow hnamed htables hadvice hfollow hx
    · exact hwildcard rfl
    · exact hcalls rfl
  · rw [Plan.warnings_eq_map hplan] at hw
    obtain ⟨x, hx, rfl⟩ := List.mem_map.mp hw
    obtain rfl | rfl := findings_follow hnamed htables hadvice hfollow (List.mem_eraseDups.mp hx)
    · exact .inl rfl
    · exact .inr rfl

/-- A table without an entry and two columns: the advice adds three entries. -/
theorem follow_silences_orders :
    let f : Sql.Features :=
      { kind := .select, tables := ["Orders"], conditions := ["o.Total > 10"],
        orderBy := some "o.Placed", sortColumns := ["Placed"] }
    let plan : Plan := ⟨[], 0, []⟩
    let advice := [primaryKeyIndex "Orders", columnIndex (some "Orders") .filter "Total",
      columnIndex (some "Orders") .sort "Placed"]
    Sql.extract "SELECT ID FROM Orders o WHERE o.Total > 10 ORDER BY o.Placed" = .ok f ∧
      f.tables ≠ [] ∧ recommend 20 f plan ⟨[]⟩ = .ok advice ∧
      ∃ r', follow f ⟨[]⟩ advice = .ok r' ∧
        r'.entries = [] ++ (advice.filter (·.category == .index)).map (entryFor f) ∧
        (∀ threshold' plan' advice', recommend threshold' f plan' r' = .ok advice' →
          ∀ a ∈ advice', a.category ≠ .index) ∧
        ∀ {σ : Type} (src : Source σ) costs s plan' s',
          (Plan.synthesize src costs f r').outcome s = (.ok plan', s') →
          ∀ w ∈ plan'.warnings,
            w = Plan.wildcardWarning ∨ w = Plan.functionWarning f.functionCalls :=
  have hsql : Sql.extract "SELECT ID FROM Orders o WHERE o.Total > 10 ORDER BY o.Placed" = .ok
      { kind := .select, tables := ["Orders"], conditions := ["o.Total > 10"],
        orderBy := some "o.Placed", sortColumns := ["Placed"] } := by decide +kernel
  have hadvice : recommend 20
      { kind := .select, tables := ["Orders"], conditions := ["o.Total > 10"],
        orderBy := some "o.Placed", sortColumns := ["Placed"] } ⟨[], 0, []⟩ ⟨[]⟩ =
      .ok [primaryKeyIndex "Orders", columnIndex (some "Orders") .filter "Total",
        columnIndex (some "Orders") .sort "Placed"] := by decide +kernel
  ⟨hsql, by decide, hadvice, follow_silences hsql (by decide) hadvice⟩

end SqlAdvice.Advice
