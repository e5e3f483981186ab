import SqlAdvice.Proofs.Lookup
import Mathlib.Data.Set.Card

/-!
# Edit histories

A registry that is edited call by call is determined by the calls.  `Edit` is one call, and a
registry after a sequence of calls is `afterEdits`; a call that is refused leaves the registry that
was there before.

What a look-up answers can be told from the calls alone.  An accepted addition is *live* as long as
no later call removes its table (`LiveAt`), whatever else is called in between.  One call removes
entries and adds one at the end (`Edit.entries_apply`), so by induction on the calls the entries
after them are those of the live additions, in the order of the calls (`entries_afterEdits`).  With
that, every look-up is a statement about live additions (`lookups_afterEdits`).
-/

namespace SqlAdvice.Registry

open SqlAdvice.Text

/-! ## One call -/

/-- A call that edits a registry. -/
inductive Edit where
  | add (table definition : String)
  | remove (table : String)

namespace Edit

/-- The registry that a caller goes on with: a refused addition leaves the one before. -/
def apply (r : Registry) : Edit → Registry
  | add table definition => (r.add? table definition).toOption.getD r
  | remove table => r.without table

/-- The entry that a call adds. -/
def added? : Edit → Option Entry
  | add table definition => (Entry.checked table definition).toOption
  | remove _ => none

/-- Tells whether a call removes an entry. -/
def removes (e : Entry) : Edit → Bool
  | add _ _ => false
  | remove table => e.isFor table

lemma added?_eq_some_iff {edit : Edit} {e : Entry} :
    edit.added? = some e ↔ ∃ t d, edit = add t d ∧
      isBlankString t = false ∧ isBlankString d = false ∧ e = ⟨stripped t, stripped d⟩ := by
  cases edit with
  | add t d =>
    have hchecked : (add t d).added? = some e ↔ Entry.checked t d = .ok e := by
      rw [added?]
      cases Entry.checked t d <;> simp [Except.toOption]
    rw [hchecked, Entry.checked_eq_ok_iff]
    constructor
    · exact fun h => ⟨t, d, rfl, h⟩
    · rintro ⟨t', d', heq, h⟩
      obtain ⟨rfl, rfl⟩ := Edit.add.inj heq
      exact h
  | remove t => simp [added?]

lemma removes_eq_true_iff {edit : Edit} {e : Entry} :
    edit.removes e = true ↔ ∃ t, edit = remove t ∧ lowered t = lowered e.table := by
  cases edit with
  | add t d => simp [removes]
  | remove t =>
    have hfor : (remove t).removes e = true ↔ lowered e.table = lowered t := beq_iff_eq
    rw [hfor]
    constructor
    · exact fun h => ⟨t, rfl, h.symm⟩
    · rintro ⟨t', heq, h⟩
      rw [Edit.remove.inj heq, h]

/-- **One call** takes entries out and puts what it adds at the end. -/
lemma entries_apply (r : Registry) (edit : Edit) :
    (apply r edit).entries = r.entries.filter (!edit.removes ·) ++ edit.added?.toList := by
  cases edit with
  | add t d =>
    rw [apply, add?, added?]
    cases Entry.checked t d <;> simp [Except.map, Except.toOption, removes]
  | remove t => simp [apply, without, removes, added?]

end Edit

/-! ## Sequences of calls -/

/-- A registry after a sequence of calls. -/
def afterEdits (r : Registry) (edits : List Edit) : Registry :=
  edits.foldl Edit.apply r

lemma afterEdits_concat (r : Registry) (edits : List Edit) (edit : Edit) :
    r.afterEdits (edits ++ [edit]) = edit.apply (r.afterEdits edits) :=
  List.foldl_append

/-- The call at place `i` is an accepted addition of an entry, and no later call removes the table
of that entry. -/
structure LiveAt (edits : List Edit) (i : Nat) (e : Entry) : Prop where
  added : ∃ t d, edits[i]? = some (.add t d) ∧
    isBlankString t = false ∧ isBlankString d = false ∧ e = ⟨stripped t, stripped d⟩
  kept : ∀ j t, i < j → edits[j]? = some (.remove t) → lowered t ≠ lowered e.table

/-- The entry of the live addition at a place. -/
def live? (edits : List Edit) (i : Nat) : Option Entry :=
  (edits[i]?.bind Edit.added?).filter fun e => !(edits.drop (i + 1)).any (Edit.removes e)

lemma live?_eq_some_iff {edits : List Edit} {i : Nat} {e : Entry} :
    live? edits i = some e ↔ LiveAt edits i e := by
  have hadded : (edits[i]?.bind Edit.added? = some e) ↔ ∃ t d, edits[i]? = some (.add t d) ∧
      isBlankString t = false ∧ isBlankString d = false ∧ e = ⟨stripped t, stripped d⟩ := by
    simp only [Option.bind_eq_some_iff, Edit.added?_eq_some_iff]
    constructor
    · rintro ⟨_, hcall, t, d, rfl, h⟩
      exact ⟨t, d, hcall, h⟩
    · rintro ⟨t, d, hcall, h⟩
      exact ⟨_, hcall, t, d, rfl, h⟩
  have hkept : (edits.drop (i + 1)).any (Edit.removes e) = false ↔
      ∀ j t, i < j → edits[j]? = some (.remove t) → lowered t ≠ lowered e.table := by
    rw [List.any_eq_false]
    constructor
    · intro h j t hij hcall heq
      have hmem : Edit.remove t ∈ edits.drop (i + 1) := by
        refine List.mem_iff_getElem?.mpr ⟨j - (i + 1), ?_⟩
        rw [List.getElem?_drop, Nat.add_sub_cancel' hij, hcall]
      exact h _ hmem (Edit.removes_eq_true_iff.mpr ⟨t, rfl, heq⟩)
    · intro h edit hmem hremoves
      obtain ⟨t, rfl, heq⟩ := Edit.removes_eq_true_iff.mp hremoves
      obtain ⟨j, hj⟩ := List.mem_iff_getElem?.mp hmem
      rw [List.getElem?_drop] at hj
      exact h (i + 1 + j) t (by omega) hj heq
  rw [live?, Option.filter_eq_some_iff, hadded, Bool.not_eq_true', hkept]
  exact ⟨fun ⟨hadded, hkept⟩ => ⟨hadded, hkept⟩, fun h => ⟨h.added, h.kept⟩⟩

lemma live?_concat_of_lt {edits : List Edit} {i : Nat} (hi : i < edits.length) (edit : Edit) :
    live? (edits ++ [edit]) i = (live? edits i).filter (!edit.removes ·) := by
  rw [live?, live?, List.getElem?_append_left hi, List.drop_append_of_le_length hi,
    Option.filter_filter]
  congr 1
  funext e
  simp

lemma live?_concat_length (edits : List Edit) (edit : Edit) :
    live? (edits ++ [edit]) edits.length = edit.added? := by
  have hdrop : (edits ++ [edit]).drop (edits.length + 1) = [] :=
    List.drop_of_length_le (by simp)
  rw [live?, List.getElem?_concat_length, hdrop, Option.bind_some]
  cases edit.added? <;> rfl

/-- **A run of calls**: the entries are those of the live additions, in the order of the calls. -/
lemma entries_afterEdits (edits : List Edit) :
    (empty.afterEdits edits).entries = (List.range edits.length).filterMap (live? edits) := by
  induction edits using List.reverseRecOn with
  | nil => rfl
  | append_singleton edits edit ih =>
    have hold : (List.range edits.length).filterMap (live? (edits ++ [edit])) =
        ((List.range edits.length).filterMap (live? edits)).filter (!edit.removes ·) := by
      rw [List.filter_filterMap]
      exact List.filterMap_congr fun i hi => live?_concat_of_lt (List.mem_range.mp hi) edit
    have hnew : [edits.length].filterMap (live? (edits ++ [edit])) = edit.added?.toList := by
      rw [List.filterMap_cons, live?_concat_length]
      cases edit.added? <;> rfl
    rw [afterEdits_concat, Edit.entries_apply, ih, List.length_append, List.length_singleton,
      List.range_succ, List.filterMap_append, hold, hnew]

/-! ## Look-ups -/

/-- A live addition for a table: the two names differ in letter case only. -/
structure LiveFor (edits : List Edit) (table : String) (i : Nat) (e : Entry) : Prop
    extends LiveAt edits i e where
  named : lowered e.table = lowered table

variable {edits : List Edit} {x : String}

lemma liveFor_iff {i : Nat} {e : Entry} :
    LiveFor edits x i e ↔ live? edits i = some e ∧ e.isFor x = true := by
  rw [live?_eq_some_iff, Entry.isFor, sameName, beq_iff_eq]
  constructor
  · intro h
    exact ⟨h.toLiveAt, h.named⟩
  · rintro ⟨hlive, hnamed⟩
    exact ⟨hlive, hnamed⟩

/-- The entries for a table are those of the live additions for it. -/
lemma mem_afterEdits_iff {e : Entry} :
    e ∈ (empty.afterEdits edits).entries ∧ e.isFor x = true ↔ ∃ i, LiveFor edits x i e := by
  simp only [entries_afterEdits, List.mem_filterMap, liveFor_iff, List.mem_range]
  constructor
  · rintro ⟨⟨i, -, hlive⟩, hfor⟩
    exact ⟨i, hlive, hfor⟩
  · rintro ⟨i, hlive, hfor⟩
    obtain ⟨t, d, hcall, -⟩ := (live?_eq_some_iff.mp hlive).added
    exact ⟨⟨i, (List.getElem?_eq_some_iff.mp hcall).1, hlive⟩, hfor⟩

/-- The first entry for a table is that of the earliest live addition for it. -/
lemma find?_afterEdits {e : Entry} :
    (empty.afterEdits edits).find? x = some e ↔
      ∃ i, LiveFor edits x i e ∧ ∀ j e', LiveFor edits x j e' → i ≤ j := by
  have hany : ∀ i, (live? edits i).any (·.isFor x) = true ↔ ∃ e', LiveFor edits x i e' := by
    intro i
    simp only [Option.any_eq_true, liveFor_iff]
  rw [find?, entries_afterEdits, List.find?_filterMap, Option.bind_eq_some_iff]
  constructor
  · rintro ⟨i, hfind, hlive⟩
    obtain ⟨hfor, -, hbefore⟩ := List.find?_range_eq_some.mp hfind
    rw [hlive] at hfor
    refine ⟨i, liveFor_iff.mpr ⟨hlive, hfor⟩, fun j e' hj => ?_⟩
    by_contra hlt
    have hnone := hbefore j (Nat.lt_of_not_le hlt)
    rw [(hany j).mpr ⟨e', hj⟩] at hnone
    exact Bool.false_ne_true hnone
  · rintro ⟨i, hi, hfirst⟩
    obtain ⟨t, d, hcall, -⟩ := hi.added
    refine ⟨i, List.find?_range_eq_some.mpr ⟨(hany i).mpr ⟨e, hi⟩, ?_, fun j hj => ?_⟩,
      (liveFor_iff.mp hi).1⟩
    · exact List.mem_range.mpr (List.getElem?_eq_some_iff.mp hcall).1
    · rw [Bool.not_eq_true', Bool.eq_false_iff]
      intro hfor
      obtain ⟨e', he'⟩ := (hany j).mp hfor
      exact absurd (hfirst j e' he') (Nat.not_le.mpr hj)

/-- There are as many entries as live additions. -/
lemma size_afterEdits (edits : List Edit) :
    ((empty.afterEdits edits).size : ℕ∞) = {i | ∃ e, LiveAt edits i e}.encard := by
  have hset : {i | ∃ e, LiveAt edits i e} =
      (((List.range edits.length).filter fun i => (live? edits i).isSome).toFinset : Set Nat) := by
    ext i
    simp only [Set.mem_ofPred_eq, List.coe_toFinset, List.mem_filter, List.mem_range,
      Option.isSome_iff_exists, live?_eq_some_iff]
    constructor
    · rintro ⟨e, he⟩
      obtain ⟨t, d, hcall, -⟩ := he.added
      exact ⟨(List.getElem?_eq_some_iff.mp hcall).1, e, he⟩
    · exact fun h => h.2
  rw [hset, Set.encard_coe_eq_coe_finsetCard,
    List.toFinset_card_of_nodup (List.nodup_range.filter _), size, entries_afterEdits,
    List.length_filterMap_eq_countP, List.countP_eq_length_filter]

/-- **Look-ups follow the calls.**  After any sequence of calls from the empty registry on, a table
has an entry when an addition for it is live, the earliest of those is found, a column is covered
when the definition of one of them mentions it, and the number of entries is the number of live
additions. -/
theorem lookups_afterEdits (edits : List Edit) (x c : String) :
    let r := empty.afterEdits edits
    (r.hasEntry x = true ↔ ∃ i e, LiveFor edits x i e) ∧
    (∀ e, r.find? x = some e ↔
      ∃ i, LiveFor edits x i e ∧ ∀ j e', LiveFor edits x j e' → i ≤ j) ∧
    (r.covers c [x] = true ↔
      ∃ i e, LiveFor edits x i e ∧ c.toList <:+: e.definition.toList) ∧
    (r.size : ℕ∞) = {i | ∃ e, LiveAt edits i e}.encard := by
  intro r
  refine ⟨?_, fun e => find?_afterEdits, ?_, size_afterEdits edits⟩
  · rw [hasEntry_iff, exists_comm]
    exact exists_congr fun e => mem_afterEdits_iff
  · rw [covers_iff, exists_comm]
    refine exists_congr fun e => ?_
    simp only [List.mem_singleton, exists_eq_left, Entry.mentions_iff, ← and_assoc]
    rw [exists_and_right]
    exact and_congr_left fun _ => mem_afterEdits_iff

end SqlAdvice.Registry
