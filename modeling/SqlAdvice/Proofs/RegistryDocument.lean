import SqlAdvice.Failure
import SqlAdvice.Proofs.NormalForm
import SqlAdvice.Proofs.ShortNumbers

/-!
# Registries in documents

A document holds a registry in one of two layouts: a mapping from tables to definitions, or a list
of objects with the keys `table` and `indexes`.  `Holds` says which entries a value holds in one of
these layouts, and `IsLayout` says which values hold any, key by key and item by item.  Neither
mentions the reader.

The reader checks the shape of a document, the names and the definitions, and what it has read is
checked once more as entries.  The second check finds nothing: names and definitions that are read
are in normal form already (`ofPairs_of_pairsOfDocument`).  So a document is accepted when it is
laid out like this, and holds what is read from it (`ofDocument_eq_ok_iff`).

A file that cannot be loaded is a problem with the registry, and its path is the source of the
problem.  There is one exception: where the first key or item that is refused has a table that cannot
be written, because an integer in it is too long (`StopsAtLongName`), the failure to write it is all
that the caller gets.  How the text of a file is read plays no part in any of this.
-/

namespace SqlAdvice.Registry

open SqlAdvice.Number SqlAdvice.Text

/-! ## Names and definitions -/

/-- A value names a table: it is not null, and it can be written as a text that is not blank.  The
name is that text without its outer blanks. -/
inductive Names : Value → String → Prop
  | written {v : Value} {s : String} (hnull : v ≠ .null) (hwritten : v.written = .ok s)
      (hblank : isBlankString s = false) : Names v (stripped s)

/-- A value lists definitions: it is a text that is not blank, or a list of texts that are not all
blank.  Listed texts that are not blank make up one text with a line end between neighbours. -/
inductive Defines : Value → String → Prop
  | text {s : String} (hblank : isBlankString s = false) : Defines (.text s) (stripped s)
  | texts {items : List String} (hblank : ∃ s ∈ items, isBlankString s = false) :
      Defines (.list (items.map .text))
        ("\n".intercalate ((items.filter fun s => !isBlankString s).map stripped))

lemma tableOfValue_of_written {v : Value} {s : String} (hnull : v ≠ .null)
    (hwritten : v.written = .ok s) :
    tableOfValue v = if stripped s = "" then .error .blankTable else .ok (stripped s) := by
  unfold tableOfValue
  split
  · exact absurd rfl hnull
  · rw [hwritten]
    simp only [Except.map, Except.mapError, bind, Except.bind, String.isEmpty_iff]

/-- A value that cannot be written is no table. -/
lemma tableOfValue_eq_digits_iff {v : Value} {fault : DigitFault} :
    tableOfValue v = .error (.digits fault) ↔ v.written = .error fault := by
  by_cases hnull : v = .null
  · subst hnull
    exact iff_of_false nofun nofun
  cases hwritten : v.written with
  | ok s =>
    rw [tableOfValue_of_written hnull hwritten]
    refine iff_of_false (fun h => ?_) nofun
    split at h <;> exact nomatch h
  | error fault' =>
    unfold tableOfValue
    split
    · exact absurd rfl hnull
    · rw [hwritten]
      simp [Except.map, Except.mapError, bind, Except.bind]

lemma tableOfValue_eq_ok_iff {v : Value} {t : String} :
    tableOfValue v = .ok t ↔ Names v t := by
  constructor
  · intro h
    have hnull : v ≠ .null := by
      rintro rfl
      exact nomatch h
    cases hwritten : v.written with
    | error fault =>
      rw [tableOfValue_eq_digits_iff.mpr hwritten] at h
      exact nomatch h
    | ok s =>
      rw [tableOfValue_of_written hnull hwritten] at h
      split at h
      · exact nomatch h
      · rename_i hne
        rw [stripped_eq_empty_iff] at hne
        exact Except.ok.inj h ▸ .written hnull hwritten (Bool.eq_false_iff.mpr hne)
  · rintro ⟨hnull, hwritten, hblank⟩
    rw [tableOfValue_of_written hnull hwritten, if_neg (stripped_ne_empty hblank)]

lemma mapM_textOfValue? {items : List Value} {texts : List String} :
    items.mapM textOfValue? = some texts ↔ items = texts.map .text := by
  induction items generalizing texts with
  | nil => simp [eq_comm]
  | cons v items ih =>
    rw [List.mapM_cons]
    simp only [Option.bind_eq_bind, Option.bind_eq_some_iff, ih, Option.pure_def,
      Option.some.injEq]
    constructor
    · rintro ⟨s, hs, texts, rfl, rfl⟩
      cases v <;> simp_all [textOfValue?]
    · intro h
      cases texts with
      | nil => simp at h
      | cons s texts =>
        obtain ⟨rfl, rfl⟩ := List.cons_eq_cons.mp h
        exact ⟨s, rfl, texts, rfl, rfl⟩

lemma toList_intercalate_newline (texts : List String) :
    ("\n".intercalate texts).toList = joinPieces '\n' (texts.map String.toList) := by
  rw [String.toList_intercalate]
  rfl

lemma joinDefinitions_eq (items : List String) :
    joinDefinitions items =
      "\n".intercalate ((items.filter fun s => !isBlankString s).map stripped) := by
  have hblank : ∀ s, (!(stripped s).isEmpty) = !isBlankString s := by
    intro s
    rw [Bool.eq_iff_iff, Bool.not_eq_true', Bool.not_eq_true', Bool.eq_false_iff,
      Bool.eq_false_iff, ne_eq, String.isEmpty_iff, stripped_eq_empty_iff]
  rw [joinDefinitions, List.filter_map]
  simp only [Function.comp_def, hblank]

/-- Of texts that are not all blank, something is left, and it needs no stripping. -/
lemma joinDefinitions_normal {items : List String} (h : ∃ s ∈ items, isBlankString s = false) :
    joinDefinitions items ≠ "" ∧ NoBlankEnds (joinDefinitions items).toList := by
  obtain ⟨s, hs, hblank⟩ := h
  rw [ne_eq, ← String.toList_eq_nil_iff, joinDefinitions_eq, toList_intercalate_newline]
  refine noBlankEnds_joinPieces_of_ne_nil (List.ne_nil_of_mem (List.mem_map_of_mem
    (List.mem_map_of_mem (List.mem_filter.mpr ⟨hs, by rw [hblank]; rfl⟩)))) fun w hw => ?_
  obtain ⟨v, hv, rfl⟩ := List.mem_map.mp hw
  obtain ⟨u, hu, rfl⟩ := List.mem_map.mp hv
  have hblank' : isBlankString u = false := by simpa using (List.mem_filter.mp hu).2
  exact ⟨String.toList_eq_nil_iff.not.mpr (stripped_ne_empty hblank'), noBlankEnds_stripped u⟩

/-- Of blank texts, nothing is left. -/
lemma joinDefinitions_of_blank {items : List String} (h : ∀ s ∈ items, isBlankString s = true) :
    joinDefinitions items = "" := by
  have hnone : (items.filter fun s => !isBlankString s) = [] :=
    List.filter_eq_nil_iff.mpr fun s hs => by simp [h s hs]
  rw [joinDefinitions_eq, hnone]
  rfl

lemma definitionOfValue_of_text? {v : Value} {s : String} (h : definitionText? v = some s)
    (t : String) :
    definitionOfValue t v = if s = "" then .error (.noDefinitions t) else .ok s := by
  rw [definitionOfValue, h]
  simp only [String.isEmpty_iff]

lemma definitionOfValue_eq_ok_iff {t : String} {v : Value} {d : String} :
    definitionOfValue t v = .ok d ↔ Defines v d := by
  constructor
  · intro h
    cases htext : definitionText? v with
    | none =>
      rw [definitionOfValue, htext] at h
      exact nomatch h
    | some s =>
      rw [definitionOfValue_of_text? htext] at h
      split at h
      · exact nomatch h
      rename_i hne
      obtain rfl := Except.ok.inj h
      unfold definitionText? at htext
      split at htext
      · rename_i s'
        rw [Option.some.injEq] at htext
        subst htext
        exact .text (by simpa [stripped_eq_empty_iff] using hne)
      · rename_i items
        obtain ⟨texts, htexts, rfl⟩ := Option.map_eq_some_iff.mp htext
        rw [mapM_textOfValue?.mp htexts, joinDefinitions_eq]
        refine .texts ?_
        by_contra hall
        refine hne (joinDefinitions_of_blank fun s hs => ?_)
        rw [← Bool.not_eq_false]
        exact fun hblank => hall ⟨s, hs, hblank⟩
      · exact nomatch htext
  · intro h
    cases h with
    | text hblank =>
      rw [definitionOfValue_of_text? rfl, if_neg (stripped_ne_empty hblank)]
    | @texts items hblank =>
      have htext : definitionText? (.list (items.map .text)) = some (joinDefinitions items) := by
        rw [definitionText?, mapM_textOfValue?.mpr rfl]
        rfl
      rw [definitionOfValue_of_text? htext, if_neg (joinDefinitions_normal hblank).1,
        joinDefinitions_eq]

lemma Names.normal {v : Value} {t : String} (h : Names v t) : t ≠ "" ∧ NoBlankEnds t.toList := by
  cases h with
  | written _ _ hblank => exact ⟨stripped_ne_empty hblank, noBlankEnds_stripped _⟩

lemma Defines.normal {v : Value} {d : String} (h : Defines v d) :
    d ≠ "" ∧ NoBlankEnds d.toList := by
  cases h with
  | text hblank => exact ⟨stripped_ne_empty hblank, noBlankEnds_stripped _⟩
  | texts hblank => exact joinDefinitions_eq _ ▸ joinDefinitions_normal hblank

/-- The empty text, which stands for definitions that are not given, lists none. -/
lemma Defines.ne_text_empty {v : Value} {d : String} (h : Defines v d) : v ≠ .text "" := by
  cases h with
  | text hblank =>
    intro hempty
    obtain rfl := Value.text.inj hempty
    exact absurd hblank (by decide)
  | texts => exact nofun

/-! ## Layouts -/

/-- An item of a list holds an entry: it is a mapping whose key `table` names a table and whose key
`indexes` lists definitions. -/
inductive ItemHolds : Value → Entry → Prop
  | object {pairs : List (Value × Value)} {table indexes : Value} {e : Entry}
      (htable : Value.lookup? pairs "table" = some table)
      (hindexes : Value.lookup? pairs "indexes" = some indexes)
      (hnames : Names table e.table) (hdefines : Defines indexes e.definition) :
      ItemHolds (.mapping pairs) e

/-- A value holds entries, one for each key or item and in their order.  Null holds none. -/
inductive Holds : Value → List Entry → Prop
  | null : Holds .null []
  | mapping {pairs : List (Value × Value)} {entries : List Entry}
      (h : List.Forall₂ (fun p e => Names p.1 e.table ∧ Defines p.2 e.definition) pairs entries) :
      Holds (.mapping pairs) entries
  | list {items : List Value} {entries : List Entry} (h : List.Forall₂ ItemHolds items entries) :
      Holds (.list items) entries

/-- The entry that a pair of texts stands for. -/
def Entry.ofPair (p : String × String) : Entry :=
  ⟨p.1, p.2⟩

lemma pairOfValues_eq_ok_iff {table indexes : Value} {p : String × String} :
    pairOfValues table indexes = .ok p ↔ Names table p.1 ∧ Defines indexes p.2 := by
  simp only [pairOfValues, Except.bind_eq_ok_iff, tableOfValue_eq_ok_iff,
    definitionOfValue_eq_ok_iff, pure, Except.pure, Except.ok.injEq]
  constructor
  · rintro ⟨t, ht, d, hd, rfl⟩
    exact ⟨ht, hd⟩
  · exact fun ⟨ht, hd⟩ => ⟨p.1, ht, p.2, hd, rfl⟩

lemma pairOfItem_eq_ok_iff {item : Value} {p : String × String} :
    pairOfItem item = .ok p ↔ ItemHolds item (.ofPair p) := by
  constructor
  · intro h
    unfold pairOfItem at h
    split at h
    · rename_i pairs
      split at h
      · rename_i table htable
        obtain ⟨hnames, hdefines⟩ := pairOfValues_eq_ok_iff.mp h
        cases hindexes : Value.lookup? pairs "indexes" with
        | some indexes =>
          rw [hindexes] at hdefines
          exact .object htable hindexes hnames hdefines
        | none =>
          rw [hindexes] at hdefines
          exact absurd rfl hdefines.ne_text_empty
      · exact nomatch h
    · exact nomatch h
  · rintro ⟨htable, hindexes, hnames, hdefines⟩
    rw [pairOfItem, htable, hindexes]
    exact pairOfValues_eq_ok_iff.mpr ⟨hnames, hdefines⟩

lemma pairsOfDocument_eq_ok_iff {v : Value} {pairs : List (String × String)} :
    pairsOfDocument v = .ok pairs ↔ Holds v (pairs.map .ofPair) := by
  constructor
  · intro h
    unfold pairsOfDocument at h
    split at h
    · exact Except.ok.inj h ▸ .null
    · refine .mapping (List.forall₂_map_right_iff.mpr ((mapM_eq_ok_iff.mp h).imp ?_))
      exact fun p q => pairOfValues_eq_ok_iff.mp
    · exact .list (List.forall₂_map_right_iff.mpr ((mapM_eq_ok_iff.mp h).imp fun item q =>
        pairOfItem_eq_ok_iff.mp))
    · exact nomatch h
  · intro h
    generalize hentries : pairs.map Entry.ofPair = entries at h
    cases h with
    | null =>
      rw [List.map_eq_nil_iff.mp hentries]
      rfl
    | mapping h =>
      subst hentries
      exact mapM_eq_ok_iff.mpr ((List.forall₂_map_right_iff.mp h).imp fun p q =>
        pairOfValues_eq_ok_iff.mpr)
    | list h =>
      subst hentries
      exact mapM_eq_ok_iff.mpr ((List.forall₂_map_right_iff.mp h).imp fun item q =>
        pairOfItem_eq_ok_iff.mpr)

/-- Every entry that is held needs no further stripping. -/
lemma Holds.isNormal {v : Value} {entries : List Entry} (h : Holds v entries) :
    IsNormal ⟨entries⟩ := by
  intro e he
  have hnormal : ∀ {table indexes : Value}, Names table e.table → Defines indexes e.definition →
      e.IsNormal := fun hnames hdefines =>
    ⟨hnames.normal.1, hnames.normal.2, hdefines.normal.1, hdefines.normal.2⟩
  cases h with
  | null => exact nomatch he
  | mapping h =>
    obtain ⟨p, -, hnames, hdefines⟩ := exists_mem_of_forall₂ h he
    exact hnormal hnames hdefines
  | list h =>
    obtain ⟨item, -, htable, hindexes, hnames, hdefines⟩ := exists_mem_of_forall₂ h he
    exact hnormal hnames hdefines

/-- **The second check finds nothing**: what is read from a document makes a registry. -/
lemma ofPairs_of_pairsOfDocument {v : Value} {pairs : List (String × String)}
    (h : pairsOfDocument v = .ok pairs) : ofPairs pairs = .ok ⟨pairs.map .ofPair⟩ := by
  have hnormal := (pairsOfDocument_eq_ok_iff.mp h).isNormal
  rw [ofPairs, Except.map_eq_ok_iff]
  refine ⟨_, mapM_eq_ok_iff.mpr (List.forall₂_map_right_iff.mpr (List.forall₂_same.mpr ?_)), rfl⟩
  exact fun p hp => (hnormal _ (List.mem_map_of_mem hp)).checked_eq

/-- **Accepted documents**: a registry is read from a value that holds its entries. -/
lemma ofDocument_eq_ok_iff {v : Value} {r : Registry} :
    ofDocument v = .ok r ↔ Holds v r.entries := by
  simp only [ofDocument, Except.bind_eq_ok_iff, Except.mapError_eq_ok_iff]
  constructor
  · rintro ⟨pairs, hpairs, hr⟩
    rw [ofPairs_of_pairsOfDocument hpairs] at hr
    exact Except.ok.inj hr ▸ pairsOfDocument_eq_ok_iff.mp hpairs
  · intro h
    have hentries : (r.entries.map fun e => (e.table, e.definition)).map Entry.ofPair =
        r.entries := by
      rw [List.map_map]
      exact List.map_id _
    have hpairs := pairsOfDocument_eq_ok_iff.mpr (hentries.symm ▸ h)
    exact ⟨_, hpairs, by rw [ofPairs_of_pairsOfDocument hpairs, hentries]⟩

/-- A value is laid out as a registry: each key names a table and each value of a mapping lists
definitions, or each item of a list is an object that holds an entry. -/
def IsLayout : Value → Prop
  | .null => True
  | .mapping pairs => ∀ p ∈ pairs, (∃ t, Names p.1 t) ∧ ∃ d, Defines p.2 d
  | .list items => ∀ item ∈ items, ∃ e, ItemHolds item e
  | _ => False

lemma exists_holds_iff {v : Value} : (∃ entries, Holds v entries) ↔ IsLayout v := by
  constructor
  · rintro ⟨entries, h⟩
    cases h with
    | null => trivial
    | mapping h =>
      intro p hp
      obtain ⟨e, hnames, hdefines⟩ := exists_forall₂_iff.mp ⟨entries, h⟩ p hp
      exact ⟨⟨e.table, hnames⟩, e.definition, hdefines⟩
    | list h => exact exists_forall₂_iff.mp ⟨entries, h⟩
  · intro h
    unfold IsLayout at h
    split at h
    · exact ⟨[], .null⟩
    · obtain ⟨entries, hentries⟩ := exists_forall₂_iff.mpr fun p hp => by
        obtain ⟨⟨t, ht⟩, d, hd⟩ := h p hp
        exact (⟨⟨t, d⟩, ht, hd⟩ : ∃ e : Entry, Names p.1 e.table ∧ Defines p.2 e.definition)
      exact ⟨entries, .mapping hentries⟩
    · obtain ⟨entries, hentries⟩ := exists_forall₂_iff.mpr h
      exact ⟨entries, .list hentries⟩
    · exact h.elim

/-! ## Names that cannot be written -/

/-- The first key or item of a value that is refused has a table that cannot be written. -/
inductive StopsAtLongName : Value → Prop
  | mapping {before after : List (Value × Value)} {key definition : Value} {fault : DigitFault}
      (hbefore : ∀ p ∈ before, (∃ t, Names p.1 t) ∧ ∃ d, Defines p.2 d)
      (hkey : key.written = .error fault) :
      StopsAtLongName (.mapping (before ++ (key, definition) :: after))
  | list {before after : List Value} {pairs : List (Value × Value)} {table : Value}
      {fault : DigitFault} (hbefore : ∀ item ∈ before, ∃ e, ItemHolds item e)
      (htable : Value.lookup? pairs "table" = some table) (hlong : table.written = .error fault) :
      StopsAtLongName (.list (before ++ .mapping pairs :: after))

lemma definitionOfValue_ne_digits (t : String) (v : Value) (fault : DigitFault) :
    definitionOfValue t v ≠ .error (.digits fault) := by
  unfold definitionOfValue
  split
  · exact nofun
  · split <;> exact nofun

lemma pairOfValues_eq_digits_iff {table definition : Value} {fault : DigitFault} :
    pairOfValues table definition = .error (.digits fault) ↔ table.written = .error fault := by
  simp only [pairOfValues, Except.bind_eq_error_iff, tableOfValue_eq_digits_iff,
    definitionOfValue_ne_digits, pure, Except.pure, reduceCtorEq, and_false, exists_false, or_false]

lemma pairOfItem_eq_digits_iff {item : Value} {fault : DigitFault} :
    pairOfItem item = .error (.digits fault) ↔ ∃ pairs table, item = .mapping pairs ∧
      Value.lookup? pairs "table" = some table ∧ table.written = .error fault := by
  constructor
  · intro h
    unfold pairOfItem at h
    split at h
    · split at h
      · exact ⟨_, _, rfl, ‹_›, pairOfValues_eq_digits_iff.mp h⟩
      · exact nomatch h
    · exact nomatch h
  · rintro ⟨pairs, table, rfl, htable, hlong⟩
    rw [pairOfItem, htable]
    exact pairOfValues_eq_digits_iff.mpr hlong

lemma exists_pairOfValues_iff {table definition : Value} :
    (∃ p, pairOfValues table definition = .ok p) ↔
      (∃ t, Names table t) ∧ ∃ d, Defines definition d := by
  simp only [pairOfValues_eq_ok_iff]
  exact ⟨fun ⟨p, ht, hd⟩ => ⟨⟨p.1, ht⟩, p.2, hd⟩, fun ⟨⟨t, ht⟩, d, hd⟩ => ⟨(t, d), ht, hd⟩⟩

lemma exists_pairOfItem_iff {item : Value} :
    (∃ p, pairOfItem item = .ok p) ↔ ∃ e, ItemHolds item e := by
  simp only [pairOfItem_eq_ok_iff]
  exact ⟨fun ⟨p, h⟩ => ⟨.ofPair p, h⟩, fun ⟨e, h⟩ => ⟨(e.table, e.definition), h⟩⟩

lemma exists_pairsOfDocument_digits_iff {v : Value} :
    (∃ fault, pairsOfDocument v = .error (.digits fault)) ↔ StopsAtLongName v := by
  constructor
  · rintro ⟨fault, h⟩
    unfold pairsOfDocument at h
    split at h
    · exact nomatch h
    · obtain ⟨before, ⟨key, definition⟩, after, rfl, hbefore, hkey⟩ := mapM_eq_error_iff.mp h
      exact .mapping (fun p hp => exists_pairOfValues_iff.mp (hbefore p hp))
        (pairOfValues_eq_digits_iff.mp hkey)
    · obtain ⟨before, item, after, rfl, hbefore, hitem⟩ := mapM_eq_error_iff.mp h
      obtain ⟨pairs, table, rfl, htable, hlong⟩ := pairOfItem_eq_digits_iff.mp hitem
      exact .list (fun item hitem => exists_pairOfItem_iff.mp (hbefore item hitem)) htable hlong
    · exact nomatch h
  · intro h
    cases h with
    | mapping hbefore hkey =>
      exact ⟨_, mapM_eq_error_iff.mpr ⟨_, _, _, rfl,
        fun p hp => exists_pairOfValues_iff.mpr (hbefore p hp),
        pairOfValues_eq_digits_iff.mpr hkey⟩⟩
    | list hbefore htable hlong =>
      exact ⟨_, mapM_eq_error_iff.mpr ⟨_, _, _, rfl,
        fun item hitem => exists_pairOfItem_iff.mpr (hbefore item hitem),
        pairOfItem_eq_digits_iff.mpr ⟨_, _, rfl, htable, hlong⟩⟩⟩

/-- A document is refused by the first check or not at all. -/
lemma ofDocument_eq_error_iff {v : Value} {fault : DocumentFault} :
    ofDocument v = .error fault ↔ pairsOfDocument v = .error fault := by
  rw [ofDocument, Except.bind_eq_error_iff]
  refine or_iff_left ?_
  rintro ⟨pairs, hpairs, h⟩
  rw [ofPairs_of_pairsOfDocument hpairs] at h
  exact nomatch h

/-! ## Files -/

section

variable {files : Files} {path : Path} {read : DocumentReader}

/-- A file is loaded by reading its document; every fault on the way carries the path. -/
lemma outcome_load (files : Files) (path : Path) (read : DocumentReader) :
    (load files path read).outcome =
      ((readDocument files path read).mapError (LoadFault.mk path)) >>= fun v =>
        (ofDocument v).mapError fun fault => ⟨path, .document fault⟩ := by
  rw [load, Logged.outcome_bind]
  change ((readDocument files path read).mapError _ >>= _) = _
  congr 1
  funext v
  rw [Logged.outcome_bind]
  cases v <;> rfl

lemma outcome_load_eq_ok_iff {r : Registry} :
    (load files path read).outcome = .ok r ↔
      ∃ v, readDocument files path read = .ok v ∧ ofDocument v = .ok r := by
  simp only [outcome_load, Except.bind_eq_ok_iff, Except.mapError_eq_ok_iff]

/-- What can keep a file from being loaded: its document cannot be read, or holds no registry. -/
lemma outcome_load_eq_error_iff {fault : LoadFault} :
    (load files path read).outcome = .error fault ↔ fault.source = path ∧
      (readDocument files path read = .error fault.cause ∨
        ∃ v fault', readDocument files path read = .ok v ∧ ofDocument v = .error fault' ∧
          fault.cause = .document fault') := by
  simp only [outcome_load, Except.bind_eq_error_iff, Except.mapError_eq_error_iff,
    Except.mapError_eq_ok_iff]
  obtain ⟨source, cause⟩ := fault
  simp only [LoadFault.mk.injEq]
  constructor
  · rintro (⟨_, h, rfl, rfl⟩ | ⟨v, hv, fault', h, rfl, rfl⟩)
    · exact ⟨rfl, .inl h⟩
    · exact ⟨rfl, .inr ⟨v, fault', hv, h, rfl⟩⟩
  · rintro ⟨rfl, h | ⟨v, fault', hv, h, rfl⟩⟩
    · exact .inl ⟨_, h, rfl, rfl⟩
    · exact .inr ⟨v, hv, fault', h, rfl, rfl⟩

/-- The reading of a document itself never fails at a name. -/
lemma readDocument_ne_document (fault : DocumentFault) :
    readDocument files path read ≠ .error (.document fault) := by
  rw [readDocument, ne_eq, Except.bind_eq_error_iff]
  rintro (h | ⟨cs, -, h⟩)
  · obtain ⟨_, -, h⟩ := Except.mapError_eq_error_iff.mp h
    exact nomatch h
  · split at h <;> exact nomatch h

lemma LoadFault.problem?_eq_none_iff {fault : LoadFault} :
    fault.problem? = none ↔ ∃ fault', fault.cause = .document (.digits fault') := by
  unfold problem?
  split
  · rename_i fault' h
    exact iff_of_true rfl ⟨fault', h⟩
  · rename_i h
    exact iff_of_false nofun fun ⟨fault', h'⟩ => h fault' h'

lemma LoadFault.problem?_of_ne_none {fault : LoadFault} (h : fault.problem? ≠ none) :
    fault.problem? = some (.registry fault.message (some fault.source.text)) := by
  unfold problem? at h ⊢
  split at h
  · exact absurd rfl h
  · rfl

/-- A failed loading is no problem exactly when it stopped at a name that cannot be written. -/
lemma problem?_eq_none_iff_stopsAtLongName {fault : LoadFault}
    (h : (load files path read).outcome = .error fault) :
    fault.problem? = none ↔
      ∃ v, readDocument files path read = .ok v ∧ StopsAtLongName v := by
  rw [LoadFault.problem?_eq_none_iff]
  obtain ⟨-, hread | ⟨v, fault', hv, hdoc, hcause⟩⟩ := outcome_load_eq_error_iff.mp h
  · constructor
    · rintro ⟨fault', hcause⟩
      exact absurd (hcause ▸ hread) (readDocument_ne_document _)
    · rintro ⟨v, hv, -⟩
      rw [hread] at hv
      exact nomatch hv
  · rw [ofDocument_eq_error_iff] at hdoc
    simp only [hcause, LoadCause.document.injEq, hv, Except.ok.injEq, exists_eq_left',
      ← exists_pairsOfDocument_digits_iff, hdoc, Except.error.injEq]

/-- Nothing is loaded where a document stops at a name that cannot be written, and it is no problem. -/
lemma exists_load_eq_error_of_stopsAtLongName {v : Value}
    (hv : readDocument files path read = .ok v) (h : StopsAtLongName v) :
    ∃ fault, (load files path read).outcome = .error fault ∧ fault.problem? = none := by
  obtain ⟨fault, hrefused⟩ := exists_pairsOfDocument_digits_iff.mpr h
  rw [← ofDocument_eq_error_iff] at hrefused
  have hload : (load files path read).outcome = .error ⟨path, .document (.digits fault)⟩ :=
    outcome_load_eq_error_iff.mpr ⟨rfl, .inr ⟨v, _, hv, hrefused, rfl⟩⟩
  exact ⟨_, hload, (problem?_eq_none_iff_stopsAtLongName hload).mpr ⟨v, hv, h⟩⟩

end

/-- **Registries are read from two layouts.**  A document is accepted when it is laid out as a
registry, and then the registry holds exactly its entries; what is read from it passes the second
check.  A file is loaded, in whatever way its text is read, when that can be done and gives such a
document.  Otherwise the caller is told of a problem with the registry whose source is the path,
unless the document stops at a name that cannot be written. -/
theorem load_layouts (v : Value) (files : Files) (path : Path) (read : DocumentReader) :
    (∀ r, ofDocument v = .ok r ↔ Holds v r.entries) ∧ ((∃ r, ofDocument v = .ok r) ↔ IsLayout v) ∧
    (∀ pairs, pairsOfDocument v = .ok pairs → ∃ r, ofPairs pairs = .ok r) ∧
    (∀ r, (load files path read).outcome = .ok r ↔
      ∃ content, readDocument files path read = .ok content ∧ ofDocument content = .ok r) ∧
    ∀ fault, (load files path read).outcome = .error fault →
      let stops := ∃ content, readDocument files path read = .ok content ∧ StopsAtLongName content
      fault.source = path ∧ (stops → fault.problem? = none) ∧
        (¬stops → fault.problem? = some (.registry fault.message (some path.text))) := by
  refine ⟨fun r => ofDocument_eq_ok_iff, ?_, fun pairs h => ?_, fun r => outcome_load_eq_ok_iff,
    fun fault h => ?_⟩
  · simp only [ofDocument_eq_ok_iff, ← exists_holds_iff]
    constructor
    · exact fun ⟨r, h⟩ => ⟨r.entries, h⟩
    · exact fun ⟨entries, h⟩ => ⟨⟨entries⟩, h⟩
  · exact ⟨_, ofPairs_of_pairsOfDocument h⟩
  · have hstops := problem?_eq_none_iff_stopsAtLongName h
    have hsource := (outcome_load_eq_error_iff.mp h).1
    exact ⟨hsource, hstops.mpr, fun hnot => hsource ▸ LoadFault.problem?_of_ne_none
      fun hnone => hnot (hstops.mp hnone)⟩

example :
    ofDocument (.mapping [(.bool true, .list [.text " IX(A)", .text "\t", .text "IX(B) "])]) =
      .ok ⟨[⟨"True", "IX(A)\nIX(B)"⟩]⟩ := by decide +kernel

/-- A table named by an integer with a digit too many. -/
def longTable : Value :=
  .int ((10 ^ digitLimit : Nat) : Int)

lemma written_longTable : longTable.written = .error .tooMany :=
  if_neg not_isShort_pow

/-- A file whose document has such a table, and definitions for it: it is not loaded, and there is no
problem with the registry to tell of. -/
theorem load_long_name :
    let document : Value :=
      .list [.mapping [(.text "table", longTable), (.text "indexes", .text "ix")]]
    let files : Files := fun path => if path.text == "r.yaml" then .file [] else .missing
    longTable ≠ .null ∧ ¬IsLayout document ∧
      ∃ fault, (load files (.ofText "r.yaml") fun _ _ => some document).outcome = .error fault ∧
        fault.problem? = none := by
  intro document files
  have hstops : StopsAtLongName document :=
    @StopsAtLongName.list [] [] _ _ _ nofun rfl written_longTable
  have hread : readDocument files (.ofText "r.yaml") (fun _ _ => some document) = .ok document :=
    rfl
  refine ⟨nofun, fun hlayout => ?_, exists_load_eq_error_of_stopsAtLongName hread hstops⟩
  obtain ⟨entries, hholds⟩ := exists_holds_iff.mpr hlayout
  obtain ⟨fault, hrefused⟩ := exists_pairsOfDocument_digits_iff.mpr hstops
  rw [← ofDocument_eq_error_iff, ofDocument_eq_ok_iff (r := ⟨entries⟩).mpr hholds] at hrefused
  cases hrefused

end SqlAdvice.Registry
