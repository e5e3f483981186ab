import SqlAdvice.Proofs.Distinct
import SqlAdvice.Proofs.NormalForm

/-!
# Exported registries

A registry is exported as a mapping from tables to definitions (`Registry.exported`).  A mapping has
each key once, so of the entries with one table name only the first is exported.  Table names are
told apart as they are written there, but without regard to letter case where a table is looked up,
and whether a column is covered is a matter of all entries.

The registry that is read from an export has the exported entries and no others
(`ofValue_exported_eq`).  The first entry for a table is always among them, since the entries that
are left out have the very name of an earlier one (`find?_exported`).  So look-ups are the same, and
coverage can only be lost, by the definitions that are left out.
-/

namespace SqlAdvice.Registry

/-- The mapping from tables to definitions that a registry is exported as. -/
def exported (r : Registry) : Value :=
  .mapping (r.toPairs.map fun p => (.text p.1, .text p.2))

/-- The registry of the first entry for every table name as it is written. -/
def firstOfEach (r : Registry) : Registry :=
  ⟨r.entries.eraseDupsBy fun a b => a.table == b.table⟩

lemma toPairs_eq (r : Registry) :
    r.toPairs = r.firstOfEach.entries.map fun e => (e.table, e.definition) :=
  rfl

lemma firstOfEach_subset (r : Registry) : r.firstOfEach.entries ⊆ r.entries :=
  (eraseDupsBy_sublist _ r.entries).subset

/-- Entries are left out of the export where table names are repeated, letter by letter. -/
lemma pairwise_table_iff {r : Registry} :
    (r.entries.Pairwise fun a b => (b.table == a.table) = false) ↔ r.tableNames.Nodup := by
  rw [tableNames, List.Nodup, List.pairwise_map]
  simp only [beq_eq_false_iff_ne, ne_comm]

lemma firstOfEach_eq_self_iff {r : Registry} : r.firstOfEach = r ↔ r.tableNames.Nodup := by
  rw [← pairwise_table_iff, ← eraseDupsBy_eq_self_iff]
  constructor
  · exact congrArg Registry.entries
  · exact congrArg Registry.mk

/-- The export has every key once. -/
lemma nodup_keys_toPairs (r : Registry) : (r.toPairs.map (·.1)).Nodup := by
  have hnames : r.toPairs.map (·.1) = r.firstOfEach.tableNames := by
    rw [toPairs_eq, List.map_map]
    rfl
  rw [hnames, ← pairwise_table_iff]
  exact pairwise_eraseDupsBy (fun a b => a.table == b.table) r.entries

/-- **Look-ups in the export**: entries of one name are registered for the same tables, so it is
never the first entry for a table that is left out. -/
lemma find?_exported (r : Registry) (t : String) : r.firstOfEach.find? t = r.find? t := by
  apply find?_eraseDupsBy
  intro a b hsame
  rw [Entry.isFor, Entry.isFor, eq_of_beq hsame]

/-- **Reading an export**: the entries of a registry in normal form pass the check again. -/
lemma ofValue_exported_eq {r : Registry} (h : r.IsNormal) :
    ofValue r.exported = .ok r.firstOfEach := by
  have hfirst : r.firstOfEach.IsNormal := fun e he => h e (r.firstOfEach_subset he)
  rw [← hfirst.ofItems_eq fun e => .tuple e.table e.definition, exported, ofValue, toPairs_eq,
    List.map_map, List.map_map]
  rfl

/-- **Exporting keeps look-ups.**  A registry that is made from items is exported as a mapping with
every key once, and a registry can be read from that.  It finds the same entry for every table, what
it covers was covered before, and it is the same registry exactly when no two entries had the same
table name as it is written. -/
theorem lookups_exported {items : List Value} {s : Registry} (h : ofItems items = .ok s) :
    (s.toPairs.map (·.1)).Nodup ∧
      ∃ r, ofValue s.exported = .ok r ∧
        (∀ t, r.find? t = s.find? t) ∧
        (∀ c ts, r.covers c ts = true → s.covers c ts = true) ∧
        (r = s ↔ s.tableNames.Nodup) := by
  refine ⟨s.nodup_keys_toPairs, s.firstOfEach, ofValue_exported_eq (isNormal_of_ofItems h),
    s.find?_exported, ?_, firstOfEach_eq_self_iff⟩
  intro c ts hcovered
  exact covers_mono s.firstOfEach_subset hcovered

/-- Three entries for one table, of which two have its name in the same letter case. -/
theorem lookups_exported_repeated :
    let items : List Value :=
      [.entry ⟨"Orders", "IX(ID) "⟩, .tuple [.text " orders", .text "IX(Total)"],
        .list [.text "Orders", .text "IX(Day)"]]
    let s : Registry := ⟨[⟨"Orders", "IX(ID)"⟩, ⟨"orders", "IX(Total)"⟩, ⟨"Orders", "IX(Day)"⟩]⟩
    ofItems items = .ok s ∧
      (s.toPairs.map (·.1)).Nodup ∧
      ∃ r, ofValue s.exported = .ok r ∧
        (∀ t, r.find? t = s.find? t) ∧
        (∀ c ts, r.covers c ts = true → s.covers c ts = true) ∧
        (r = s ↔ s.tableNames.Nodup) := by
  intro items s
  have h : ofItems items = .ok s := by decide +kernel
  exact ⟨h, lookups_exported h⟩

/-- What the second of two entries covers is lost. -/
example :
    let s : Registry := ⟨[⟨"Orders", "IX(ID)"⟩, ⟨"Orders", "IX(Day)"⟩]⟩
    s.covers "Day" ["orders"] = true ∧
      ofValue s.exported = .ok ⟨[⟨"Orders", "IX(ID)"⟩]⟩ ∧
      Registry.covers ⟨[⟨"Orders", "IX(ID)"⟩]⟩ "Day" ["orders"] = false := by
  decide +kernel

end SqlAdvice.Registry
