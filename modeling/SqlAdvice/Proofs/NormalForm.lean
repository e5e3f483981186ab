import SqlAdvice.Registry.Input
import SqlAdvice.Proofs.Fallible
import SqlAdvice.Proofs.Lookup

/-!
# Registries in normal form

An entry is in normal form when neither of its texts is empty or has blanks at its ends
(`Entry.IsNormal`).  The check of an entry gives entries in normal form only, and leaves those as
they are.  So items that are accepted make a registry in normal form, and such a registry can be
taken apart into items and put together again (`IsNormal.ofItems_eq`).

Which items are accepted is said without the check: an item `Spells` two texts, and a `Faulty` item
has something wrong with its shape or with its texts.
-/

namespace SqlAdvice.Registry

open SqlAdvice.Text

/-! ## Entries in normal form -/

/-- Neither of the texts is empty or has blanks at its ends. -/
structure Entry.IsNormal (e : Entry) : Prop where
  table_ne : e.table ≠ ""
  table_ends : NoBlankEnds e.table.toList
  definition_ne : e.definition ≠ ""
  definition_ends : NoBlankEnds e.definition.toList

/-- All entries are in normal form. -/
def IsNormal (r : Registry) : Prop :=
  ∀ e ∈ r.entries, e.IsNormal

lemma noBlankEnds_stripped (s : String) : NoBlankEnds (stripped s).toList := by
  rw [stripped, String.toList_ofList]
  exact noBlankEnds_trim s.toList

lemma stripped_ne_empty {s : String} (h : isBlankString s = false) : stripped s ≠ "" := by
  rw [ne_eq, stripped_eq_empty_iff, h]
  exact Bool.false_ne_true

/-- **One step**: what the check accepts is in normal form. -/
lemma Entry.isNormal_of_checked {t d : String} {e : Entry} (h : checked t d = .ok e) :
    e.IsNormal := by
  obtain ⟨ht, hd, rfl⟩ := checked_eq_ok_iff.mp h
  exact ⟨stripped_ne_empty ht, noBlankEnds_stripped t, stripped_ne_empty hd, noBlankEnds_stripped d⟩

/-- The check leaves entries in normal form as they are. -/
lemma Entry.IsNormal.checked_eq {e : Entry} (h : e.IsNormal) :
    Entry.checked e.table e.definition = .ok e :=
  checked_eq_ok h.table_ends h.table_ne h.definition_ends h.definition_ne

/-! ## Items -/

/-- The two texts of an item: those of an entry, or those of a pair, which may be a tuple or a
list. -/
inductive Spells : Value → String → String → Prop
  | entry (e : Entry) : Spells (.entry e) e.table e.definition
  | tuple (t d : String) : Spells (.tuple [.text t, .text d]) t d
  | list (t d : String) : Spells (.list [.text t, .text d]) t d

/-- What is wrong with an item.  The first three faults are of its shape, the others of its texts.
An item of a wrong shape is shown, if the numbers in it can be written. -/
inductive Faulty : Value → InputFault → Prop
  | notPair {item : Value} {shown : String} (hentry : ∀ e, item ≠ .entry e)
      (hpair : ∀ a b, item ≠ .tuple [a, b] ∧ item ≠ .list [a, b]) (hshown : item.shown = .ok shown) :
      Faulty item (.notPair shown)
  | digits {item : Value} {fault : Number.DigitFault} (hentry : ∀ e, item ≠ .entry e)
      (hpair : ∀ a b, item ≠ .tuple [a, b] ∧ item ≠ .list [a, b])
      (hshown : item.shown = .error fault) : Faulty item (.digits fault)
  | pairKinds {item a b : Value} (hitem : item = .tuple [a, b] ∨ item = .list [a, b])
      (htexts : ∀ t d, ¬ Spells item t d) : Faulty item (.pairKinds a.kindName b.kindName)
  | blankTable {item : Value} {t d : String} (h : Spells item t d) (ht : isBlankString t = true) :
      Faulty item (.entry .blankTable)
  | noDefinitions {item : Value} {t d : String} (h : Spells item t d)
      (ht : isBlankString t = false) (hd : isBlankString d = true) :
      Faulty item (.entry (.noDefinitions (stripped t)))

lemma Entry.checked_eq_error_iff {t d : String} {fault : EntryFault} :
    checked t d = .error fault ↔
      (isBlankString t = true ∧ fault = .blankTable) ∨
        (isBlankString t = false ∧ isBlankString d = true ∧
          fault = .noDefinitions (stripped t)) := by
  rw [checked, ← Bool.not_eq_true, ← stripped_eq_empty_iff, ← stripped_eq_empty_iff]
  by_cases ht : stripped t = ""
  · simp only [String.isEmpty_iff, ht, if_true, Except.error.injEq, not_true, true_and, false_and,
      or_false]
    exact eq_comm
  · by_cases hd : stripped d = ""
    · simp only [String.isEmpty_iff, ht, hd, if_false, if_true, Except.error.injEq,
        not_false_eq_true, true_and, false_and, false_or]
      exact eq_comm
    · simp [ht, hd]

lemma entryOfItem_of_spells {item : Value} {t d : String} (h : Spells item t d) :
    entryOfItem item = (Entry.checked t d).mapError .entry := by
  cases h <;> rfl

/-- An item spells two texts, or its shape is wrong. -/
lemma spells_or_faulty (item : Value) :
    (∃ t d, Spells item t d) ∨ ∃ fault, Faulty item fault := by
  by_cases hspells : ∃ t d, Spells item t d
  · exact .inl hspells
  have htexts : ∀ t d, ¬ Spells item t d := fun t d h => hspells ⟨t, d, h⟩
  by_cases hpair : ∃ a b, item = .tuple [a, b] ∨ item = .list [a, b]
  · obtain ⟨a, b, hitem⟩ := hpair
    exact .inr ⟨_, .pairKinds hitem htexts⟩
  · have hentry : ∀ e, item ≠ .entry e := by
      rintro e rfl
      exact htexts _ _ (.entry e)
    have hpair : ∀ a b, item ≠ .tuple [a, b] ∧ item ≠ .list [a, b] := fun a b =>
      ⟨fun h => hpair ⟨a, b, .inl h⟩, fun h => hpair ⟨a, b, .inr h⟩⟩
    cases hshown : item.shown with
    | ok shown => exact .inr ⟨_, .notPair hentry hpair hshown⟩
    | error fault => exact .inr ⟨_, .digits hentry hpair hshown⟩

lemma entryOfItem_of_ne {item : Value} (hentry : ∀ e, item ≠ .entry e)
    (hpair : ∀ a b, item ≠ .tuple [a, b] ∧ item ≠ .list [a, b]) :
    entryOfItem item = .error (.ofItem item) := by
  unfold entryOfItem
  split
  · exact absurd rfl (hentry _)
  · exact absurd rfl (hpair _ _).1
  · exact absurd rfl (hpair _ _).2
  · rfl

lemma entryOfItem_of_faulty {item : Value} {fault : InputFault} (h : Faulty item fault) :
    entryOfItem item = .error fault := by
  cases h with
  | notPair hentry hpair hshown => rw [entryOfItem_of_ne hentry hpair, InputFault.ofItem, hshown]
  | digits hentry hpair hshown => rw [entryOfItem_of_ne hentry hpair, InputFault.ofItem, hshown]
  | @pairKinds a b hitem htexts =>
    have hpair : entryOfItem item = entryOfPair a b := by obtain rfl | rfl := hitem <;> rfl
    rw [hpair]
    unfold entryOfPair
    split
    · obtain rfl | rfl := hitem
      · exact absurd (.tuple _ _) (htexts _ _)
      · exact absurd (.list _ _) (htexts _ _)
    · rfl
  | blankTable h ht =>
    rw [entryOfItem_of_spells h, Entry.checked_eq_error_iff.mpr (.inl ⟨ht, rfl⟩)]
    rfl
  | noDefinitions h ht hd =>
    rw [entryOfItem_of_spells h, Entry.checked_eq_error_iff.mpr (.inr ⟨ht, hd, rfl⟩)]
    rfl

/-- An item is refused with the fault that it has. -/
lemma entryOfItem_eq_error_iff {item : Value} {fault : InputFault} :
    entryOfItem item = .error fault ↔ Faulty item fault := by
  refine ⟨fun hrefused => ?_, entryOfItem_of_faulty⟩
  obtain ⟨t, d, h⟩ | ⟨fault', h⟩ := spells_or_faulty item
  · rw [entryOfItem_of_spells h, Except.mapError_eq_error_iff] at hrefused
    obtain ⟨entryFault, hchecked, rfl⟩ := hrefused
    obtain ⟨ht, rfl⟩ | ⟨ht, hd, rfl⟩ := Entry.checked_eq_error_iff.mp hchecked
    · exact .blankTable h ht
    · exact .noDefinitions h ht hd
  · rw [entryOfItem_of_faulty h] at hrefused
    exact Except.error.inj hrefused ▸ h

/-- An item is accepted when it spells two texts that are not blank. -/
lemma entryOfItem_eq_ok_iff {item : Value} {e : Entry} :
    entryOfItem item = .ok e ↔ ∃ t d, Spells item t d ∧
      isBlankString t = false ∧ isBlankString d = false ∧ e = ⟨stripped t, stripped d⟩ := by
  constructor
  · intro haccepted
    obtain ⟨t, d, h⟩ | ⟨fault, h⟩ := spells_or_faulty item
    · rw [entryOfItem_of_spells h, Except.mapError_eq_ok_iff] at haccepted
      exact ⟨t, d, h, Entry.checked_eq_ok_iff.mp haccepted⟩
    · rw [entryOfItem_of_faulty h] at haccepted
      exact nomatch haccepted
  · rintro ⟨t, d, h, haccepted⟩
    rw [entryOfItem_of_spells h, Except.mapError_eq_ok_iff]
    exact Entry.checked_eq_ok_iff.mpr haccepted

lemma exists_entryOfItem_eq_ok_iff {item : Value} :
    (∃ e, entryOfItem item = .ok e) ↔ ∀ fault, ¬ Faulty item fault := by
  simp only [← entryOfItem_eq_error_iff]
  cases entryOfItem item <;> simp

/-- What makes an item faulty: it spells no two texts, or one of them is blank. -/
lemma exists_faulty_iff {item : Value} :
    (∃ fault, Faulty item fault) ↔ (∀ t d, ¬ Spells item t d) ∨
      ∃ t d, Spells item t d ∧ (isBlankString t = true ∨ isBlankString d = true) := by
  constructor
  · rintro ⟨fault, h⟩
    cases h with
    | notPair hentry hpair | digits hentry hpair =>
      refine .inl fun t d h => ?_
      cases h with
      | entry e => exact hentry e rfl
      | tuple => exact (hpair _ _).1 rfl
      | list => exact (hpair _ _).2 rfl
    | pairKinds _ htexts => exact .inl htexts
    | blankTable h ht => exact .inr ⟨_, _, h, .inl ht⟩
    | noDefinitions h _ hd => exact .inr ⟨_, _, h, .inr hd⟩
  · rintro (hshape | ⟨t, d, h, hblank⟩)
    · exact (spells_or_faulty item).resolve_left fun ⟨t, d, h⟩ => hshape t d h
    · by_cases ht : isBlankString t = true
      · exact ⟨_, .blankTable h ht⟩
      · exact ⟨_, .noDefinitions h (Bool.eq_false_iff.mpr ht) (hblank.resolve_left ht)⟩

/-! ## Lists of items -/

lemma ofItems_eq_ok_iff {items : List Value} {r : Registry} :
    ofItems items = .ok r ↔
      List.Forall₂ (fun item e => entryOfItem item = .ok e) items r.entries := by
  rw [ofItems, Except.map_eq_ok_iff, ← mapM_eq_ok_iff]
  constructor
  · rintro ⟨entries, h, rfl⟩
    exact h
  · exact fun h => ⟨r.entries, h, rfl⟩

/-- A list of items is refused with what is wrong with the first faulty one. -/
lemma ofItems_eq_error_iff {items : List Value} {fault : InputFault} :
    ofItems items = .error fault ↔ ∃ before item after, items = before ++ item :: after ∧
      (∀ b ∈ before, ∀ f, ¬ Faulty b f) ∧ Faulty item fault := by
  simp only [ofItems, Except.map_eq_error_iff, mapM_eq_error_iff, exists_entryOfItem_eq_ok_iff,
    entryOfItem_eq_error_iff]

lemma exists_ofItems_eq_error_iff {items : List Value} :
    (∃ fault, ofItems items = .error fault) ↔ ∃ item ∈ items, ∃ fault, Faulty item fault := by
  simp only [ofItems, Except.map_eq_error_iff, exists_mapM_eq_error_iff, entryOfItem_eq_error_iff]

/-- Items that are accepted make a registry in normal form. -/
lemma isNormal_of_ofItems {items : List Value} {r : Registry} (h : ofItems items = .ok r) :
    r.IsNormal := by
  intro e he
  obtain ⟨item, -, hitem⟩ := exists_mem_of_forall₂ (ofItems_eq_ok_iff.mp h) he
  obtain ⟨t, d, -, hchecked⟩ := entryOfItem_eq_ok_iff.mp hitem
  exact Entry.isNormal_of_checked (Entry.checked_eq_ok_iff.mpr hchecked)

/-- A registry in normal form is what its entries make, in whichever way they are written as
items. -/
lemma IsNormal.ofItems_eq {r : Registry} (h : r.IsNormal) {asItem : Entry → Value}
    (hspells : ∀ e, Spells (asItem e) e.table e.definition) :
    ofItems (r.entries.map asItem) = .ok r := by
  rw [ofItems_eq_ok_iff, List.forall₂_map_left_iff, List.forall₂_same]
  intro e he
  rw [entryOfItem_of_spells (hspells e), (h e he).checked_eq]
  rfl

end SqlAdvice.Registry
