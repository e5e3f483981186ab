import SqlAdvice.Proofs.EditHistory
import SqlAdvice.Proofs.RegistryDocument

/-!
# Validated registries

A registry is `Validated` when it was made from something else, a value, items or a file, and
perhaps edited after that.  All of these ways go through the check of entries: a caller can hand in
a registry that was never checked, but nothing else makes one.

Each way of making a registry gives one in normal form, and each edit keeps it so
(`IsNormal.apply`).  By induction on how it came about, a validated registry is in normal form.
Its entries, or their texts in pairs, make the same registry again when they are handed in as items.
-/

namespace SqlAdvice.Registry

open SqlAdvice.Text

/-! ## Making and editing -/

/-- A registry that is read from a value other than a registry, from items, or from a file, with any
edits after that.  A mapping from tables to definitions is such a value. -/
inductive Validated : Registry → Prop
  | value {v : Value} {r : Registry} (hv : ∀ r', v ≠ .registry r') (h : ofValue v = .ok r) :
      Validated r
  | items {items : List Value} {r : Registry} (h : ofItems items = .ok r) : Validated r
  | file {files : Files} {path : Path} {r : Registry} (h : (load files path).outcome = .ok r) :
      Validated r
  | edited {r : Registry} (h : Validated r) (edit : Edit) : Validated (edit.apply r)

/-- A value other than a registry is null, or stands for items. -/
lemma ofValue_eq_ok {v : Value} {r : Registry} (hv : ∀ r', v ≠ .registry r')
    (h : ofValue v = .ok r) : r = empty ∨ ∃ items, ofItems items = .ok r := by
  unfold ofValue at h
  split at h
  · exact .inl (Except.ok.inj h).symm
  · exact absurd rfl (hv _)
  all_goals first | exact .inr ⟨_, h⟩ | exact nomatch h

lemma isNormal_empty : empty.IsNormal :=
  fun _ he => nomatch he

/-- **One edit** keeps a registry in normal form. -/
lemma IsNormal.apply {r : Registry} (h : r.IsNormal) (edit : Edit) : (edit.apply r).IsNormal := by
  intro e he
  rw [Edit.entries_apply, List.mem_append, Option.mem_toList] at he
  obtain hold | hnew := he
  · exact h e (List.mem_of_mem_filter hold)
  · obtain ⟨t, d, -, hchecked⟩ := Edit.added?_eq_some_iff.mp hnew
    exact Entry.isNormal_of_checked (Entry.checked_eq_ok_iff.mpr hchecked)

/-- **Any making with any edits** gives a registry in normal form. -/
lemma Validated.isNormal {r : Registry} (h : Validated r) : r.IsNormal := by
  induction h with
  | value hv h =>
    obtain rfl | ⟨items, h⟩ := ofValue_eq_ok hv h
    · exact isNormal_empty
    · exact isNormal_of_ofItems h
  | items h => exact isNormal_of_ofItems h
  | file h =>
    obtain ⟨v, -, h⟩ := outcome_load_eq_ok_iff.mp h
    exact (ofDocument_eq_ok_iff.mp h).isNormal
  | edited _ edit ih => exact ih.apply edit

/-! ## Checking again -/

/-- An entry as a pair of its texts. -/
def Entry.asPair (e : Entry) : Value :=
  .tuple [.text e.table, .text e.definition]

/-- **Validated registries are fixed points of the check.**  They are in normal form, and their
entries or the pairs of their texts make the same registry.  The check itself gives one entry for
each item, with both texts stripped, in the order of the items; it refuses a list with a faulty
item in it, and what it says is what is wrong with the first one. -/
theorem validated_fixed_point :
    (∀ r, Validated r → r.IsNormal ∧ ofItems (r.entries.map .entry) = .ok r ∧
      ofItems (r.entries.map Entry.asPair) = .ok r) ∧
    ∀ items,
      (∀ r, ofItems items = .ok r ↔ List.Forall₂ (fun item e => ∃ t d, Spells item t d ∧
        isBlankString t = false ∧ isBlankString d = false ∧ e = ⟨stripped t, stripped d⟩)
        items r.entries) ∧
      (∀ fault, ofItems items = .error fault ↔ ∃ before item after,
        items = before ++ item :: after ∧ (∀ b ∈ before, ∀ f, ¬ Faulty b f) ∧
          Faulty item fault) ∧
      ((∃ fault, ofItems items = .error fault) ↔ ∃ item ∈ items,
        (∀ t d, ¬ Spells item t d) ∨ ∃ t d, Spells item t d ∧
          (isBlankString t = true ∨ isBlankString d = true)) := by
  refine ⟨fun r hr => ?_, fun items => ⟨fun r => ?_, fun fault => ?_, ?_⟩⟩
  · have hnormal := hr.isNormal
    exact ⟨hnormal, hnormal.ofItems_eq .entry, hnormal.ofItems_eq fun e => .tuple _ _⟩
  · simp only [ofItems_eq_ok_iff, entryOfItem_eq_ok_iff]
  · exact ofItems_eq_error_iff
  · simp only [exists_ofItems_eq_error_iff, exists_faulty_iff]

/-- Two items, of which one is removed in another letter case, one blank addition and one that needs
stripping. -/
theorem validated_fixed_point_edited :
    let items := [Value.entry ⟨" Orders", "IX(ID) "⟩, .list [.text "items\t", .text "IX(Price)"]]
    let r : Registry := ⟨[⟨"Orders", "IX(ID)"⟩, ⟨"items", "IX(Price)"⟩]⟩
    let edits := [Edit.remove "ORDERS", .add "Users" " ", .add " Users " "IX(Name)"]
    let r' : Registry := ⟨[⟨"items", "IX(Price)"⟩, ⟨"Users", "IX(Name)"⟩]⟩
    ofItems items = .ok r ∧ r.afterEdits edits = r' ∧ Validated r' ∧
      r'.IsNormal ∧ ofItems (r'.entries.map .entry) = .ok r' ∧
      ofItems (r'.entries.map Entry.asPair) = .ok r' := by
  intro items r edits r'
  have hitems : ofItems items = .ok r := by decide +kernel
  have hedits : r.afterEdits edits = r' := by decide +kernel
  have hremoved : Validated ((Edit.remove "ORDERS").apply r) := .edited (.items hitems) _
  have hafter : Validated (r.afterEdits edits) :=
    .edited (.edited hremoved (.add "Users" " ")) (.add " Users " "IX(Name)")
  exact ⟨hitems, hedits, hedits ▸ hafter, validated_fixed_point.1 r' (hedits ▸ hafter)⟩

end SqlAdvice.Registry
