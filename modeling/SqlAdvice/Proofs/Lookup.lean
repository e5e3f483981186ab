import SqlAdvice.Registry.Basic
import SqlAdvice.Proofs.Trimmed

/-!
# Looking up tables and columns

A registry answers two questions: whether a table has an entry, and whether a column is covered for
some tables.  Both are existence statements on its entries (`Registry.hasEntry_iff`,
`Registry.covers_iff`), so a registry with more entries answers yes wherever a smaller one does
(`Registry.hasEntry_mono`, `Registry.covers_mono`).  `Registry.Covered` puts the second one in terms
of the texts of the entries alone.

The last section is about stripping: an entry is accepted when neither of its texts is blank, and
one made of two texts that need no stripping is accepted as it is.
-/

namespace SqlAdvice.Registry

/-! ## Look-ups -/

lemma hasEntry_iff {r : Registry} {t : String} :
    r.hasEntry t = true ↔ ∃ e ∈ r.entries, e.isFor t := by
  rw [hasEntry, find?, List.find?_isSome]

lemma covers_iff {r : Registry} {c : String} {ts : List String} :
    r.covers c ts = true ↔ ∃ e ∈ r.entries, (∃ t ∈ ts, e.isFor t) ∧ e.mentions c := by
  simp only [covers, List.any_eq_true, Bool.and_eq_true]

lemma hasEntry_mono {r r' : Registry} (h : r.entries ⊆ r'.entries) {t : String}
    (ht : r.hasEntry t = true) : r'.hasEntry t = true := by
  obtain ⟨e, he, hfor⟩ := hasEntry_iff.mp ht
  exact hasEntry_iff.mpr ⟨e, h he, hfor⟩

lemma covers_mono {r r' : Registry} (h : r.entries ⊆ r'.entries) {c : String} {ts : List String}
    (hc : r.covers c ts = true) : r'.covers c ts = true := by
  obtain ⟨e, he, hfor⟩ := covers_iff.mp hc
  exact covers_iff.mpr ⟨e, h he, hfor⟩

/-- An entry is registered for its own table. -/
lemma Entry.isFor_self (t d : String) : (⟨t, d⟩ : Entry).isFor t = true := by
  simp [Entry.isFor, Text.sameName]

lemma Entry.mentions_iff {e : Entry} {c : String} :
    e.mentions c = true ↔ c.toList <:+: e.definition.toList :=
  Text.occursIn_iff

/-- Some entry is registered for one of the tables, letter case aside, and has the name of the
column in its definition. -/
def Covered (r : Registry) (c : String) (ts : List String) : Prop :=
  ∃ e ∈ r.entries, (∃ t ∈ ts, Text.lowered e.table = Text.lowered t) ∧
    c.toList <:+: e.definition.toList

lemma covers_eq_true_iff {r : Registry} {c : String} {ts : List String} :
    r.covers c ts = true ↔ r.Covered c ts := by
  simp only [covers_iff, Covered, Entry.isFor, Text.sameName, beq_iff_eq, Entry.mentions_iff]

lemma covers_eq_false_iff {r : Registry} {c : String} {ts : List String} :
    r.covers c ts = false ↔ ¬ r.Covered c ts := by
  rw [← covers_eq_true_iff, Bool.not_eq_true]

/-- A table has no entry when the tables of all entries have other names, letter case aside. -/
lemma hasEntry_eq_false_iff {r : Registry} {t : String} :
    r.hasEntry t = false ↔ ∀ e ∈ r.entries, Text.lowered e.table ≠ Text.lowered t := by
  simp [← Bool.not_eq_true, hasEntry_iff, Entry.isFor, Text.sameName]

/-! ## Stripped entries -/

lemma stripped_eq_empty_iff {s : String} :
    Text.stripped s = "" ↔ Text.isBlankString s = true := by
  rw [Text.stripped, Text.isBlankString, List.all_eq_true, ← Text.trim_eq_nil_iff,
    String.ofList_eq_empty_iff]

/-- Two texts make an entry when neither is blank, and it holds them without their outer blanks. -/
lemma Entry.checked_eq_ok_iff {t d : String} {e : Entry} :
    checked t d = .ok e ↔ Text.isBlankString t = false ∧ Text.isBlankString d = false ∧
      e = ⟨Text.stripped t, Text.stripped d⟩ := by
  rw [checked, ← Bool.not_eq_true, ← Bool.not_eq_true, ← stripped_eq_empty_iff,
    ← stripped_eq_empty_iff]
  by_cases ht : Text.stripped t = ""
  · simp [ht]
  · by_cases hd : Text.stripped d = ""
    · simp [ht, hd]
    · simp only [String.isEmpty_iff, ht, hd, if_false, Except.ok.injEq, not_false_eq_true, true_and]
      exact eq_comm

lemma stripped_of_noBlankEnds {s : String} (h : Text.NoBlankEnds s.toList) :
    Text.stripped s = s := by
  rw [Text.stripped, Text.trim_of_noBlankEnds h, String.ofList_toList]

lemma Entry.checked_eq_ok {t d : String} (ht : Text.NoBlankEnds t.toList) (hne : t ≠ "")
    (hd : Text.NoBlankEnds d.toList) (hd' : d ≠ "") : Entry.checked t d = .ok ⟨t, d⟩ := by
  rw [Entry.checked, stripped_of_noBlankEnds ht, stripped_of_noBlankEnds hd]
  simp [hne, hd']

end SqlAdvice.Registry
