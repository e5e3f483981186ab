import SqlAdvice.Sql.Features
import SqlAdvice.Proofs.Distinct
import SqlAdvice.Proofs.Trimmed
import Mathlib.Data.List.Nodup

/-!
# Features read off a text

`Sql.extract` reads every feature by a recogniser of its own and then checks the record.  The check
never finds fault with a record that was read off a text: tables are listed without repeats, and
sort columns are read off the `ORDER BY` text itself (`checked_read`).  Extraction is therefore the
recognition of the statement's kind and nothing else that can fail (`extract_eq`).
-/

namespace SqlAdvice.Sql

/-- The features of a text whose kind is known. -/
def Features.read (kind : StatementKind) (cs : List Char) : Features where
  kind := kind
  tables := (Sql.tables cs).map String.ofList
  joinPredicates := (Sql.joinPredicates cs).map String.ofList
  conditions := (Sql.conditions cs).map String.ofList
  orderBy := (orderBy? cs).map String.ofList
  sortColumns := ((orderBy? cs).elim [] Sql.sortColumns).map String.ofList
  hasWildcard := Sql.hasWildcard cs
  functionCalls := (Sql.functionCalls cs).map String.ofList

lemma nodup_tables (cs : List Char) : (tables cs).Nodup :=
  nodup_eraseDups _

/-- A record that was read off a text keeps its rules. -/
lemma checked_read (kind : StatementKind) (cs : List Char) :
    (Features.read kind cs).checked = .ok (Features.read kind cs) := by
  have htables : (Features.read kind cs).tables.eraseDups = (Features.read kind cs).tables :=
    eraseDups_of_nodup ((nodup_tables cs).map fun _ _ h => String.ofList_injective h)
  have hcolumns : ((Features.read kind cs).orderBy.isNone &&
      !(Features.read kind cs).sortColumns.isEmpty) = false := by
    cases horder : orderBy? cs <;> simp [Features.read, horder]
  rw [Features.checked, htables, hcolumns]
  simp

/-- Reading the features of a text fails exactly where its kind cannot be told. -/
lemma extract_eq (sql : String) :
    extract sql =
      match statementKind sql.toList with
      | .error word => .error (.unknownKind (String.ofList word))
      | .ok kind => .ok (Features.read kind sql.toList) := by
  rw [extract]
  cases hkind : statementKind sql.toList with
  | error word => rfl
  | ok kind =>
    have hchecked := checked_read kind sql.toList
    simp only [Features.read] at hchecked
    simp only [hchecked, Features.read]

/-- Features that were read off a text are those of its kind. -/
lemma eq_read_of_extract {sql : String} {f : Features} (h : extract sql = .ok f) :
    f = Features.read f.kind sql.toList := by
  rw [extract_eq] at h
  cases hkind : statementKind sql.toList with
  | error word => simp [hkind] at h
  | ok kind =>
    rw [hkind] at h
    rw [← Except.ok.inj h]
    rfl

/-- The tables of a text have names, and the names have no blanks at their ends. -/
lemma tables_spec {cs name : List Char} (h : name ∈ tables cs) :
    name ≠ [] ∧ Text.NoBlankEnds name := by
  rw [tables, List.mem_eraseDups, List.mem_filter, List.mem_map] at h
  obtain ⟨⟨written, -, rfl⟩, hne⟩ := h
  exact ⟨by simpa using hne, noBlankEnds_undecorate written⟩

end SqlAdvice.Sql
