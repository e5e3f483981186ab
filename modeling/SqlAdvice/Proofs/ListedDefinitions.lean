import SqlAdvice.Proofs.RegistryDocument
import SqlAdvice.Proofs.TextFiles

/-!
# Definitions one by one

The definitions of a table may be given one by one or as one text.  One by one they are stripped,
the blank ones go, and the others are joined with line ends between them; the name of a column is
then searched for in the whole.  It is found there exactly when one of the single definitions has it
(`covers_load_listed`), for names as columns have them (`IsColumn`): a name without line ends does
not go across one, so joining makes no new match (`infix_joinPieces_iff`), and a name without blanks
at its ends does not touch the blanks that are stripped (`infix_trim_iff`).

Documents are described by their rows here, a table with its definitions each (`LaysOut`).  Which of
the two layouts a document has does not matter: the same rows are read from both
(`pairsOfDocument_of_laysOut`).
-/

namespace SqlAdvice.Text

variable {x a b cs : List Char} {sep : Char}

/-! ## Finding a text in another -/

/-- A text without separators is found on one side of a separator or on the other. -/
lemma infix_append_cons_iff (hsep : sep ∉ x) :
    x <:+: a ++ sep :: b ↔ x <:+: a ∨ x <:+: b := by
  have hfront : ∀ {v : List Char}, v ≠ [] → v ⊆ x → ¬ v <+: sep :: b := by
    intro v hne hsub hprefix
    obtain ⟨rest, hrest⟩ := hprefix
    obtain ⟨c, v, rfl⟩ := List.exists_cons_of_ne_nil hne
    obtain rfl : c = sep := (List.cons.inj hrest).1
    exact hsep (hsub List.mem_cons_self)
  constructor
  · intro h
    rcases List.infix_append_iff_ne_nil.mp h with ha | hb | ⟨u, v, -, hv, rfl, -, hprefix⟩
    · exact .inl ha
    · rcases List.infix_cons_iff.mp hb with hprefix | hrest
      · by_cases hne : x = []
        · exact .inl (hne ▸ List.nil_infix)
        · exact absurd hprefix (hfront hne (List.Subset.refl x))
      · exact .inr hrest
    · exact absurd hprefix (hfront hv (List.subset_append_right u v))
  · rintro (ha | hb)
    · exact List.infix_append_of_infix_left ha
    · exact List.infix_append_of_infix_right (List.infix_cons hb)

/-- **Joining makes no match**: what is found in joined texts is found in one of them. -/
lemma infix_joinPieces_iff (hsep : sep ∉ x) (hne : x ≠ []) {ws : List (List Char)} :
    x <:+: joinPieces sep ws ↔ ∃ w ∈ ws, x <:+: w := by
  induction ws with
  | nil => simpa [joinPieces] using hne
  | cons w ws ih =>
    cases ws with
    | nil => simp
    | cons v ws =>
      rw [joinPieces_cons_cons, infix_append_cons_iff hsep, ih]
      exact (List.exists_mem_cons_iff _ _ _).symm

lemma infix_dropWhile {p : Char → Bool} (hne : x ≠ []) (hhead : ∀ c ∈ x.head?, p c = false)
    (h : x <:+: cs) : x <:+: cs.dropWhile p := by
  induction cs with
  | nil => exact h
  | cons c cs ih =>
    by_cases hc : p c = true
    · rw [List.dropWhile_cons_of_pos hc]
      refine ih ((List.infix_cons_iff.mp h).resolve_left ?_)
      rintro ⟨rest, hrest⟩
      have hx : x.head? = some c := by
        rw [← List.head?_append_of_ne_nil x hne, hrest]
        rfl
      rw [hhead c hx] at hc
      exact Bool.false_ne_true hc
    · rwa [List.dropWhile_cons_of_neg hc]

lemma infix_dropTailWhile {p : Char → Bool} (hne : x ≠ []) (hlast : ∀ c ∈ x.getLast?, p c = false)
    (h : x <:+: cs) : x <:+: dropTailWhile p cs := by
  rw [dropTailWhile, ← List.reverse_infix, List.reverse_reverse]
  apply infix_dropWhile
  · simpa using hne
  · rwa [List.head?_reverse]
  · exact List.reverse_infix.mpr h

/-- **Trimming loses no match** of a text that does not begin or end with a blank. -/
lemma infix_trim_iff (hne : x ≠ []) (hends : NoBlankEnds x) : x <:+: trim cs ↔ x <:+: cs := by
  constructor
  · intro h
    exact h.trans (isInfix_trim cs)
  · intro h
    exact infix_dropTailWhile hne hends.last (infix_dropWhile hne hends.head h)

lemma all_joinPieces {p : Char → Bool} (hsep : p sep = true) (ws : List (List Char)) :
    (joinPieces sep ws).all p = ws.all (·.all p) := by
  induction ws with
  | nil => rfl
  | cons w ws ih =>
    cases ws with
    | nil => simp
    | cons v ws =>
      rw [joinPieces_cons_cons, List.all_append, List.all_cons, hsep, Bool.true_and, ih]
      rfl

end SqlAdvice.Text

namespace SqlAdvice.Registry

open SqlAdvice.Text

/-! ## Columns in definitions -/

/-- A text as a column is named: it is not empty, it stands on one line, and it has no blanks at its
ends. -/
structure IsColumn (c : String) : Prop where
  ne : c ≠ ""
  one_line : '\n' ∉ c.toList
  ends : NoBlankEnds c.toList

namespace IsColumn

variable {c : String} (hc : IsColumn c)

include hc

lemma toList_ne : c.toList ≠ [] :=
  String.toList_eq_nil_iff.not.mpr hc.ne

lemma infix_stripped_iff {s : String} :
    c.toList <:+: (stripped s).toList ↔ c.toList <:+: s.toList := by
  rw [stripped, String.toList_ofList, infix_trim_iff hc.toList_ne hc.ends]

lemma infix_lines_iff {texts : List String} :
    c.toList <:+: ("\n".intercalate texts).toList ↔ ∃ s ∈ texts, c.toList <:+: s.toList := by
  rw [toList_intercalate_newline, infix_joinPieces_iff hc.one_line hc.toList_ne]
  simp only [List.mem_map, exists_exists_and_eq_and]

/-- A text that has the name of a column is not blank. -/
lemma not_blank {s : String} (h : c.toList <:+: s.toList) : isBlankString s = false := by
  rw [← Bool.not_eq_true, ← stripped_eq_empty_iff]
  intro hempty
  have hstripped := hc.infix_stripped_iff.mpr h
  rw [hempty] at hstripped
  exact hc.toList_ne (List.infix_nil.mp hstripped)

/-- Definitions that are stripped and joined have the name where one of them has it. -/
lemma infix_joinDefinitions_iff {items : List String} :
    c.toList <:+: (joinDefinitions items).toList ↔ ∃ s ∈ items, c.toList <:+: s.toList := by
  rw [joinDefinitions_eq, hc.infix_lines_iff]
  simp only [List.mem_map, exists_exists_and_eq_and, hc.infix_stripped_iff, List.mem_filter,
    Bool.not_eq_true']
  constructor
  · rintro ⟨s, ⟨hs, -⟩, h⟩
    exact ⟨s, hs, h⟩
  · rintro ⟨s, hs, h⟩
    exact ⟨s, ⟨hs, hc.not_blank h⟩, h⟩

end IsColumn

/-! ## Rows -/

/-- A table of a document: the value that names it, and its definitions. -/
structure Row where
  name : Value
  definitions : List String

namespace Row

/-- The definitions one by one. -/
def listed (row : Row) : Value :=
  .list (row.definitions.map .text)

/-- The definitions as one text, with a line for each. -/
def joined (row : Row) : Value :=
  .text ("\n".intercalate row.definitions)

/-- The name of the table, stripped, is a given one in some letter case. -/
def IsFor (row : Row) (t : String) : Prop :=
  ∃ name, row.name.written = .ok name ∧ lowered (stripped name) = lowered t

/-- A column is part of one of the single definitions. -/
def Mentions (row : Row) (c : String) : Prop :=
  ∃ d ∈ row.definitions, c.toList <:+: d.toList

/-- Something is defined. -/
def IsDefined (row : Row) : Prop :=
  ∃ d ∈ row.definitions, isBlankString d = false

end Row

lemma Defines.iff_of_text? {v : Value} {s d : String} (h : definitionText? v = some s) :
    Defines v d ↔ s ≠ "" ∧ d = s := by
  rw [← definitionOfValue_eq_ok_iff (t := ""), definitionOfValue_of_text? h]
  by_cases hs : s = ""
  · simp [hs]
  · simp [hs, eq_comm]

lemma definitionText?_listed (row : Row) :
    definitionText? row.listed = some (joinDefinitions row.definitions) := by
  rw [Row.listed, definitionText?, mapM_textOfValue?.mpr rfl]
  rfl

lemma isBlankString_lines (texts : List String) :
    isBlankString ("\n".intercalate texts) = texts.all isBlankString := by
  rw [isBlankString, toList_intercalate_newline, all_joinPieces (by decide), List.all_map]
  rfl

/-- The two ways of writing the definitions of a row are accepted alike, and a column is found in
both where one of the definitions has it. -/
lemma defines_row_iff {write : Row → Value} (hwrite : write = Row.listed ∨ write = Row.joined)
    (row : Row) :
    ((∃ d, Defines (write row) d) ↔ row.IsDefined) ∧
      ∀ c d, IsColumn c → Defines (write row) d → (c.toList <:+: d.toList ↔ row.Mentions c) := by
  rcases hwrite with rfl | rfl
  · have htext := definitionText?_listed row
    simp only [Defines.iff_of_text? htext]
    refine ⟨⟨fun ⟨_, hne, _⟩ => ?_, fun h => ⟨_, (joinDefinitions_normal h).1, rfl⟩⟩, ?_⟩
    · by_contra hnone
      refine hne (joinDefinitions_of_blank fun s hs => ?_)
      rw [← Bool.not_eq_false]
      exact fun hblank => hnone ⟨s, hs, hblank⟩
    · rintro c _ hc ⟨-, rfl⟩
      exact hc.infix_joinDefinitions_iff
  · have htext : definitionText? row.joined = some (stripped ("\n".intercalate row.definitions)) :=
      rfl
    simp only [Defines.iff_of_text? htext]
    constructor
    · simp [stripped_eq_empty_iff, isBlankString_lines, Row.IsDefined]
    · rintro c _ hc ⟨-, rfl⟩
      exact hc.infix_stripped_iff.trans hc.infix_lines_iff

/-! ## Layouts -/

/-- An item of a list is an object for a row.  Whatever other keys it has do not matter. -/
def IsObject (write : Row → Value) (item : Value) (row : Row) : Prop :=
  ∃ pairs, item = .mapping pairs ∧ Value.lookup? pairs "table" = some row.name ∧
    Value.lookup? pairs "indexes" = some (write row)

/-- A document has rows, in a mapping or in a list of objects, with their definitions written in
some way. -/
inductive LaysOut (write : Row → Value) : Value → List Row → Prop
  | mapping (rows : List Row) :
      LaysOut write (.mapping (rows.map fun row => (row.name, write row))) rows
  | objects {items : List Value} {rows : List Row}
      (h : List.Forall₂ (IsObject write) items rows) : LaysOut write (.list items) rows

variable {write : Row → Value} {v v' : Value} {rows : List Row} {r : Registry}

/-- **The layout does not matter**: the rows are read one after another. -/
lemma pairsOfDocument_of_laysOut (h : LaysOut write v rows) :
    pairsOfDocument v = rows.mapM fun row => pairOfValues row.name (write row) := by
  cases h with
  | mapping =>
    rw [pairsOfDocument, List.mapM_map]
    rfl
  | objects h =>
    rw [pairsOfDocument]
    induction h with
    | nil => rfl
    | cons hitem _ ih =>
      obtain ⟨pairs, rfl, htable, hindexes⟩ := hitem
      have hpair : ∀ row : Row, Value.lookup? pairs "table" = some row.name →
          Value.lookup? pairs "indexes" = some (write row) →
          pairOfItem (.mapping pairs) = pairOfValues row.name (write row) := by
        intro row htable hindexes
        rw [pairOfItem, htable, hindexes]
        rfl
      rw [List.mapM_cons, List.mapM_cons, ih, hpair _ htable hindexes]

lemma ofDocument_eq_of_laysOut (h : LaysOut write v rows) (h' : LaysOut write v' rows) :
    ofDocument v = ofDocument v' := by
  rw [ofDocument, ofDocument, pairsOfDocument_of_laysOut h, pairsOfDocument_of_laysOut h']

/-- The registry of a document has one entry for each row. -/
lemma ofDocument_eq_ok_iff_of_laysOut (h : LaysOut write v rows) :
    ofDocument v = .ok r ↔
      List.Forall₂ (fun row e => Names row.name e.table ∧ Defines (write row) e.definition) rows
        r.entries := by
  have hentries :
      (r.entries.map fun e => (e.table, e.definition)).map Entry.ofPair = r.entries := by
    rw [List.map_map]
    exact List.map_id _
  rw [ofDocument_eq_ok_iff, ← hentries, ← pairsOfDocument_eq_ok_iff, pairsOfDocument_of_laysOut h,
    mapM_eq_ok_iff, hentries, List.forall₂_map_right_iff]
  simp only [pairOfValues_eq_ok_iff]

/-- **Coverage**: a column is covered for a table where a single definition of that table has it. -/
lemma covers_of_laysOut (hwrite : write = Row.listed ∨ write = Row.joined)
    (h : LaysOut write v rows) (hr : ofDocument v = .ok r) {t c : String} (hc : IsColumn c) :
    r.covers c [t] = true ↔ ∃ row ∈ rows, row.IsFor t ∧ row.Mentions c := by
  rw [covers_eq_true_iff, Covered]
  refine (exists_mem_iff_of_forall₂ ((ofDocument_eq_ok_iff_of_laysOut h).mp hr) ?_).symm
  rintro row e ⟨hnames, hdefines⟩
  obtain ⟨name, hwritten, htable⟩ : ∃ name, row.name.written = .ok name ∧
      e.table = stripped name := by
    generalize e.table = table at hnames
    cases hnames with
    | written _ hwritten _ => exact ⟨_, hwritten, rfl⟩
  have hfound := (defines_row_iff hwrite row).2 c e.definition hc hdefines
  simp only [Row.IsFor, hwritten, Except.ok.injEq, exists_eq_left', ← htable, ← hfound,
    List.mem_singleton, exists_eq_left]

/-- What is accepted with definitions that are listed is accepted with the same as one text. -/
lemma exists_ofDocument_joined (h : LaysOut Row.listed v rows) (hr : ofDocument v = .ok r)
    (h' : LaysOut Row.joined v' rows) : ∃ r', ofDocument v' = .ok r' := by
  have hrows := (ofDocument_eq_ok_iff_of_laysOut h).mp hr
  have hjoined : ∀ row ∈ rows, ∃ e : Entry,
      Names row.name e.table ∧ Defines row.joined e.definition := by
    intro row hrow
    obtain ⟨e, -, hnames, hdefines⟩ := exists_mem_of_forall₂ hrows.flip hrow
    have hdefined := (defines_row_iff (.inl rfl) row).1.mp ⟨_, hdefines⟩
    obtain ⟨d, hd⟩ := (defines_row_iff (.inr rfl) row).1.mpr hdefined
    exact ⟨⟨e.table, d⟩, hnames, hd⟩
  obtain ⟨entries, hentries⟩ := exists_forall₂_iff.mpr hjoined
  exact ⟨⟨entries⟩, (ofDocument_eq_ok_iff_of_laysOut h').mpr hentries⟩

/-! ## Files -/

lemma readDocument_eq_ok_iff {files : Files} {path : Path} :
    readDocument files path = .ok v ↔
      ∃ cs, files.readText path = .ok cs ∧ (formatOf path).read? cs = some v :=
  document_eq_ok_iff

/-- The document of a JSON file in ASCII is what was written to it. -/
lemma readDocument_of_written {files : Files} {path : Path} {j : Json}
    (hfile : files path = .file ((Json.writeAt 0 j).map fun c => .ofNat c.toNat))
    (hjson : formatOf path = .json ∧ Json.isPortable j = true ∧ j.isShort = true ∧
      (Json.writeAt 0 j).all (fun c => c.toNat < 0x80 && c != '\r') = true) :
    readDocument files path = .ok j.toValue := by
  obtain ⟨hformat, hj, hshort, hascii⟩ := hjson
  rw [readDocument_eq_ok_iff, hformat]
  exact ⟨_, Files.readText_of_ascii hfile hascii, DocumentFormat.read?_writeAt hj hshort⟩

/-- **Definitions one by one.**  Where a file that lists its definitions is loaded, a column is
covered for a table exactly when a single definition has it as a part, of those that are listed
under the name of the table in some letter case.  A file with the same rows in either layout gives
the same registry.  A file with the same rows whose definitions are written as one text each is
loaded too, and covers the same columns. -/
theorem covers_load_listed {files : Files} {path : Path}
    (hread : readDocument files path = .ok v) (hrows : LaysOut Row.listed v rows)
    (hload : (load files path).outcome = .ok r) :
    (∀ t c, IsColumn c →
      (r.covers c [t] = true ↔ ∃ row ∈ rows, row.IsFor t ∧ row.Mentions c)) ∧
    (∀ files' path' v', readDocument files' path' = .ok v' → LaysOut Row.listed v' rows →
      (load files' path').outcome = .ok r) ∧
    (∀ files' path' v', readDocument files' path' = .ok v' → LaysOut Row.joined v' rows →
      ∃ r', (load files' path').outcome = .ok r' ∧
        ∀ t c, IsColumn c → r'.covers c [t] = r.covers c [t]) := by
  have hr : ofDocument v = .ok r := by
    obtain ⟨v', hread', hr⟩ := outcome_load_eq_ok_iff.mp hload
    rw [hread] at hread'
    obtain rfl := Except.ok.inj hread'
    exact hr
  refine ⟨fun t c hc => covers_of_laysOut (.inl rfl) hrows hr hc, ?_, ?_⟩
  · intro files' path' v' hread' hrows'
    rw [outcome_load_eq_ok_iff]
    exact ⟨v', hread', ofDocument_eq_of_laysOut hrows hrows' ▸ hr⟩
  · intro files' path' v' hread' hrows'
    obtain ⟨r', hr'⟩ := exists_ofDocument_joined hrows hr hrows'
    refine ⟨r', outcome_load_eq_ok_iff.mpr ⟨v', hread', hr'⟩, fun t c hc => ?_⟩
    rw [Bool.eq_iff_iff, covers_of_laysOut (.inl rfl) hrows hr hc,
      covers_of_laysOut (.inr rfl) hrows' hr' hc]

/-- Two tables whose names differ in letter case and in a blank, with their definitions. -/
def orderRows : List (String × List String) :=
  [("Orders", ["IX(ID) ", "", "IX(Total)"]), (" orders", ["IX(Day)"])]

/-- The two tables in a mapping, as objects, and in a mapping with a text for each. -/
def orderDocuments : List (String × Json) := [
  ("mapping.json", .object (orderRows.map fun row => (row.1, Json.texts row.2))),
  ("objects.json", .list (orderRows.map fun row =>
    .object [("table", .text row.1), ("indexes", Json.texts row.2)])),
  ("texts.json", .object (orderRows.map fun row => (row.1, .text ("\n".intercalate row.2))))]

/-- A file for each of these documents. -/
def orderFiles (path : Path) : Place :=
  match orderDocuments.lookup path.text with
  | some j => .file ((Json.writeAt 0 j).map fun c => .ofNat c.toNat)
  | none => .missing

theorem covers_load_listed_orders :
    let r : Registry := ⟨[⟨"Orders", "IX(ID)\nIX(Total)"⟩, ⟨"orders", "IX(Day)"⟩]⟩
    (load orderFiles (.ofText "mapping.json")).outcome = .ok r ∧
      r.covers "Total" ["ORDERS"] = true ∧
      (load orderFiles (.ofText "objects.json")).outcome = .ok r ∧
      ∃ r', (load orderFiles (.ofText "texts.json")).outcome = .ok r' ∧
        r'.covers "Total" ["ORDERS"] = true := by
  intro r
  have hkeys : [Value.text "Orders", .text " orders"].Pairwise
      (fun k k' => k.sameKey k' = false) := by
    decide +kernel
  have hnames : [Value.text "table", .text "indexes"].Pairwise
      (fun k k' => k.sameKey k' = false) := by
    decide +kernel
  let rows : List Row := orderRows.map fun row => ⟨.text row.1, row.2⟩
  have hmapping : readDocument orderFiles (.ofText "mapping.json") =
      .ok (.mapping (rows.map fun row => (row.name, row.listed))) := by
    rw [readDocument_of_written rfl (by decide +kernel)]
    exact congrArg Except.ok (Value.ofPairs_of_hasDistinctKeys hkeys)
  have htexts : readDocument orderFiles (.ofText "texts.json") =
      .ok (.mapping (rows.map fun row => (row.name, row.joined))) := by
    rw [readDocument_of_written rfl (by decide +kernel)]
    exact congrArg Except.ok (Value.ofPairs_of_hasDistinctKeys hkeys)
  have hobjects : LaysOut Row.listed (Json.toValue (.list (orderRows.map fun row =>
      .object [("table", .text row.1), ("indexes", Json.texts row.2)]))) rows :=
    .objects (.cons ⟨_, Value.ofPairs_of_hasDistinctKeys hnames, rfl, rfl⟩
      (.cons ⟨_, Value.ofPairs_of_hasDistinctKeys hnames, rfl, rfl⟩ .nil))
  have hload : (load orderFiles (.ofText "mapping.json")).outcome = .ok r := by
    refine outcome_load_eq_ok_iff.mpr ⟨_, hmapping, ?_⟩
    decide +kernel
  have htotal : IsColumn "Total" := by
    refine ⟨by decide, by decide +kernel, ⟨?_, ?_⟩⟩
    · rintro _ ⟨⟩
      decide +kernel
    · rintro _ ⟨⟩
      decide +kernel
  obtain ⟨hcovers, hsame, hjoined⟩ := covers_load_listed hmapping (.mapping rows) hload
  have hcovered : r.covers "Total" ["ORDERS"] = true := by
    refine (hcovers "ORDERS" "Total" htotal).mpr ⟨⟨.text "Orders", ["IX(ID) ", "", "IX(Total)"]⟩,
      List.mem_cons_self, ?_, "IX(Total)", ?_, ?_⟩
    · exact ⟨"Orders", rfl, by decide +kernel⟩
    · exact List.mem_of_getLast? rfl
    · decide +kernel
  obtain ⟨r', hr', hagree⟩ := hjoined orderFiles (.ofText "texts.json") _ htexts (.mapping rows)
  refine ⟨hload, hcovered, ?_, r', hr', ?_⟩
  · exact hsame orderFiles _ _ (readDocument_of_written rfl (by decide +kernel)) hobjects
  · rw [hagree "ORDERS" "Total" htotal, hcovered]

end SqlAdvice.Registry
