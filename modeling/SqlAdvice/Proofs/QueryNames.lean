import SqlAdvice.Sql.Column
import SqlAdvice.Sql.Tables
import SqlAdvice.Proofs.QueryText

/-!
# Names read off the text of a query

A name is read up to the place where no name can go on, which in the text of a query is its end, or
a space with a word behind it (`Stops`).  There the recognisers of names give back exactly what was
written, for tables (`qualified?_table`) as for columns (`qualified?_column`).

The columns of a predicate, of a condition and of a list to sort by are names inside those texts:
`joinColumns_predicate`, `filterColumn?_condition` and `sortColumns_listed` say that they are found.
-/

namespace SqlAdvice.Sql

open SqlAdvice.Text

/-- The text ends, or a space and a word follow. -/
def Stops (rest : List Char) : Prop :=
  rest = [] ∨ ∃ c cs, rest = ' ' :: c :: cs ∧ isWord c = true

lemma Stops.head {rest : List Char} (h : Stops rest) : ∀ c ∈ rest.head?, isNameRest c = false := by
  obtain rfl | ⟨d, cs, rfl, -⟩ := h
  · simp
  · exact forall_mem_head?_cons.mpr (by decide)

/-! ## Identifiers -/

/-- An identifier may also begin where case is ignored. -/
lemma isFoldedNameStart_of_isNameStart {c : Char} (h : isNameStart c = true) :
    isFoldedNameStart c = true := by
  have hcode : c.toNat ∈ List.range' 65 26 ++ List.range' 97 26 ++ [95] := by
    rw [isNameStart, Bool.or_eq_true] at h
    obtain h | h := h
    · rw [isAlpha_iff] at h
      simp only [List.mem_append, List.mem_range'_1]
      omega
    · rw [eq_of_beq h]
      decide
  have hcodes : ∀ n ∈ List.range' 65 26 ++ List.range' 97 26 ++ [95],
      isFoldedNameStart (Char.ofNat n) = true := by decide
  have hstart := hcodes _ hcode
  rwa [Char.ofNat_toNat] at hstart

section Reading

variable {start : Char → Bool} {rest : List Char}

lemma Identifier.isBlank_first (i : Identifier) : isBlank i.first = false :=
  isBlank_of_isWord (i.isWord _ List.mem_cons_self)

lemma Identifier.isNameRest (i : Identifier) : ∀ c ∈ i.text, Sql.isNameRest c = true :=
  fun c hc => by rw [Sql.isNameRest, i.isWord c hc, Bool.true_or]

lemma identifier?_text (hstart : ∀ c, isNameStart c = true → start c = true) (i : Identifier)
    (hrest : ∀ c ∈ rest.head?, isNameRest c = false) :
    identifier? start (i.text ++ rest) = some (i.text, rest) := by
  have hmore : ∀ c ∈ i.more, isNameRest c = true := fun c hc =>
    i.isNameRest c (List.mem_cons_of_mem _ hc)
  exact identifier?_eq_some_iff.mpr
    ⟨rfl, ⟨i.first, i.more, rfl, hstart _ i.isNameStart_first, hmore⟩, hrest⟩

lemma component?_text (hstart : ∀ c, isNameStart c = true → start c = true) (i : Identifier)
    (hrest : ∀ c ∈ rest.head?, isNameRest c = false) :
    component? start (i.text ++ rest) = some (i.text, rest) := by
  have hfirst := i.isNameStart_first
  rw [← identifier?_text hstart i hrest, Identifier.text, List.cons_append]
  unfold component?
  split
  · rename_i heq
    rw [(List.cons_eq_cons.mp heq).1] at hfirst
    exact absurd hfirst (by decide)
  · rename_i heq
    rw [(List.cons_eq_cons.mp heq).1] at hfirst
    exact absurd hfirst (by decide)
  · rename_i heq
    rw [(List.cons_eq_cons.mp heq).1] at hfirst
    exact absurd hfirst (by decide)
  · rfl

lemma enclosed?_text (opening : Char) {closing : Char} (hclosing : isWord closing = false)
    (i : Identifier) :
    enclosed? opening closing (i.text ++ [closing] ++ rest) =
      some (opening :: i.text ++ [closing], rest) := by
  have hinside : ∀ c ∈ i.text, (c != closing) = true := by
    intro c hc
    rw [bne_iff_ne]
    rintro rfl
    exact Bool.false_ne_true (hclosing.symm.trans (i.isWord c hc))
  have hhead : ∀ c ∈ (closing :: rest).head?, (c != closing) = false := by simp
  rw [List.append_assoc, List.singleton_append, enclosed?, dropWhile_append_of_head hinside hhead,
    takeWhile_append_of_head hinside hhead]

lemma component?_table (hstart : ∀ c, isNameStart c = true → start c = true) (t : Table)
    (hrest : Stops rest) : component? start (t.text ++ rest) = some (t.text, rest) := by
  rw [Table.text]
  cases t.decoration with
  | plain => exact component?_text hstart t.name hrest.head
  | brackets => exact enclosed?_text '[' (by decide) t.name
  | doubleQuotes => exact enclosed?_text '"' (by decide) t.name
  | backticks => exact enclosed?_text '\x60' (by decide) t.name

/-! ## Qualified names -/

lemma dotted?_of_stops (hrest : Stops rest) : dotted? start rest = none := by
  obtain rfl | ⟨c, cs, rfl, hc⟩ := hrest
  · rfl
  · have hskip : skipBlanks (' ' :: c :: cs) = c :: cs := by
      rw [skipBlanks, List.dropWhile_cons, if_pos (by decide)]
      exact dropWhile_of_head (forall_mem_head?_cons.mpr (isBlank_of_isWord hc))
    rw [dotted?, hskip]
    split
    · rename_i heq
      rw [(List.cons_eq_cons.mp heq).1] at hc
      exact absurd hc (by decide)
    · rfl

lemma dottedTail_of_stops (hrest : Stops rest) : dottedTail start rest = ([], rest) := by
  rw [dottedTail]
  split
  · rfl
  · rename_i heq
    rw [dotted?_of_stops hrest] at heq
    exact absurd heq (by simp)

/-- The name of a table is read as it is written. -/
lemma qualified?_table (hstart : ∀ c, isNameStart c = true → start c = true) (t : Table)
    (hrest : Stops rest) : qualified? start (t.text ++ rest) = some (t.text, rest) := by
  rw [qualified?, component?_table hstart t hrest, Option.bind_eq_bind, Option.bind_some]
  simp [dottedTail_of_stops hrest]

/-- The name of a column is read together with the name that qualifies it. -/
lemma qualified?_column (hstart : ∀ c, isNameStart c = true → start c = true) (c : Column)
    (hrest : Stops rest) : qualified? start (c.text ++ rest) = some (c.text, rest) := by
  have hdotted :
      dotted? start ('.' :: (c.name.text ++ rest)) = some ('.' :: c.name.text, rest) := by
    have hfirst : ∀ d ∈ (c.name.text ++ rest).head?, isBlank d = false :=
      forall_mem_head?_cons.mpr c.name.isBlank_first
    have hname : skipBlanks (c.name.text ++ rest) = c.name.text ++ rest := dropWhile_of_head hfirst
    have hblanks : (c.name.text ++ rest).takeWhile isBlank = [] :=
      takeWhile_append_of_head (w := []) (by simp) hfirst
    have hdot : skipBlanks ('.' :: (c.name.text ++ rest)) = '.' :: (c.name.text ++ rest) := rfl
    rw [dotted?, hdot]
    simp only [hname, component?_text hstart c.name hrest.head, hblanks]
    rfl
  have htail : dottedTail start ('.' :: (c.name.text ++ rest)) = ('.' :: c.name.text, rest) := by
    rw [dottedTail]
    split
    · rename_i heq
      rw [hdotted] at heq
      exact absurd heq (by simp)
    · rename_i name more heq
      rw [hdotted, Option.some.injEq, Prod.mk.injEq] at heq
      obtain ⟨rfl, rfl⟩ := heq
      rw [dottedTail_of_stops hrest]
      simp
  have hdot : ∀ d ∈ ('.' :: (c.name.text ++ rest)).head?, isNameRest d = false :=
    forall_mem_head?_cons.mpr (by decide)
  rw [Column.text, List.append_assoc, List.cons_append, qualified?,
    component?_text hstart c.owner hdot]
  simp [htail]

end Reading

/-! ## Reported names -/

lemma Identifier.not_mem {m : Char} (hm : Text.isWord m = false) (i : Identifier) : m ∉ i.text :=
  fun hmem => Bool.false_ne_true (hm.symm.trans (i.isWord m hmem))

lemma Identifier.noBlankEnds (i : Identifier) : NoBlankEnds i.text :=
  ⟨fun c hc => isBlank_of_isWord (i.isWord c (List.mem_of_mem_head? hc)),
    fun c hc => isBlank_of_isWord (i.isWord c (List.mem_of_getLast? hc))⟩

lemma isDecoration_of_isPlain {c : Char} (h : isPlain c = true) : isDecoration c = false := by
  have hne := ne_of_isPlain h
  simp [isDecoration, hne '[' (by simp), hne ']' (by simp), hne '"' (by simp),
    hne '\x60' (by simp)]

lemma filter_isDecoration {cs : List Char} (h : ∀ c ∈ cs, isPlain c = true) :
    cs.filter (fun c => !isDecoration c) = cs :=
  List.filter_eq_self.mpr fun c hc => by rw [isDecoration_of_isPlain (h c hc)]; rfl

lemma pieces_dot_identifier (i : Identifier) : pieces (· == '.') i.text = [i.text] :=
  pieces_of_none fun c hc => beq_eq_false_iff_ne.mpr fun h =>
    i.not_mem (m := '.') (by decide) (h ▸ hc)

/-- A table is reported without its decoration. -/
lemma undecorate_table (t : Table) : undecorate t.text = t.name.text := by
  have hfilter : t.text.filter (fun c => !isDecoration c) = t.name.text := by
    have hname := filter_isDecoration t.name.isPlain
    rw [Table.text]
    cases t.decoration with
    | plain => exact hname
    | brackets => simpa [Decoration.around, isDecoration] using hname
    | doubleQuotes => simpa [Decoration.around, isDecoration] using hname
    | backticks => simpa [Decoration.around, isDecoration] using hname
  rw [undecorate, hfilter, pieces_dot_identifier, List.map_singleton,
    trim_of_noBlankEnds t.name.noBlankEnds, joinPieces_singleton]

lemma undecorate_column (c : Column) : undecorate c.text = c.text := by
  rw [undecorate, filter_isDecoration c.isPlain, Column.text, pieces_append_cons (by decide),
    pieces_dot_identifier, pieces_dot_identifier, List.singleton_append, List.map_cons,
    List.map_singleton, trim_of_noBlankEnds c.owner.noBlankEnds,
    trim_of_noBlankEnds c.name.noBlankEnds, joinPieces_cons_cons, joinPieces_singleton]

/-! ## Columns of a list to sort by -/

lemma SortItem.stops (i : SortItem) :
    Stops (i.direction.elim [] fun d => ' ' :: d.text) := by
  rcases i.direction with _ | _ | _
  · exact .inl rfl
  · exact .inr ⟨'A', _, rfl, by decide⟩
  · exact .inr ⟨'D', _, rfl, by decide⟩

/-- The column of an item is found behind a space as well. -/
lemma itemColumn?_text (i : SortItem) {lead : List Char} (hlead : ∀ c ∈ lead, isBlank c = true) :
    itemColumn? (lead ++ i.text) = some i.column.name.text := by
  have hskip : skipBlanks (lead ++ i.text) = i.text :=
    dropWhile_append_of_head hlead i.tidy.noBlankEnds.head
  have hlast : afterLast '.' i.column.text = i.column.name.text :=
    afterLast_append_cons (i.column.name.not_mem (by decide)) _
  have hne : i.column.name.text.isEmpty = false := rfl
  rw [itemColumn?, hskip, SortItem.text, qualified?_column (fun _ h => h) i.column i.stops]
  simp [undecorate_column, hlast, hne]

lemma SortItem.comma_not_mem (i : SortItem) : ∀ c ∈ i.text, (c == ',') = false := by
  have hname : ∀ j : Identifier, ∀ c ∈ j.text, (c == ',') = false := fun j c hc =>
    beq_eq_false_iff_ne.mpr fun h => j.not_mem (m := ',') (by decide) (h ▸ hc)
  have hdirection : ∀ c ∈ i.direction.elim [] fun d => ' ' :: d.text, (c == ',') = false :=
    forall_mem_of_any (by rcases i.direction with _ | _ | _ <;> decide)
  rw [SortItem.text, Column.text, List.forall_mem_append, List.forall_mem_append,
    List.forall_mem_cons]
  exact ⟨⟨hname _, by decide, hname _⟩, hdirection⟩

/-- **The columns to sort by** are found, one for each item. -/
lemma sortColumns_listed (items : List SortItem) :
    sortColumns (listed (items.map SortItem.text)) = items.map (·.column.name.text) := by
  have hlead : ∀ lead : List Char, (∀ c ∈ lead, isBlank c = true ∧ (c == ',') = false) →
      sortColumns (lead ++ listed (items.map SortItem.text)) = items.map (·.column.name.text) := by
    induction items with
    | nil =>
      intro lead hlead
      have hskip : skipBlanks lead = [] := by
        rw [← List.append_nil lead]
        exact dropWhile_append_of_head (fun c hc => (hlead c hc).1) (by simp)
      have hnone : itemColumn? lead = none := by rw [itemColumn?, hskip]; rfl
      have hlisted : listed (([] : List SortItem).map SortItem.text) = [] := rfl
      rw [hlisted, List.append_nil, sortColumns, pieces_of_none fun c hc => (hlead c hc).2]
      simp [hnone]
    | cons i items ih =>
      intro lead hlead
      have hpiece : pieces (· == ',') (lead ++ i.text) = [lead ++ i.text] :=
        pieces_of_none (List.forall_mem_append.mpr ⟨fun c hc => (hlead c hc).2, i.comma_not_mem⟩)
      have hcolumn := itemColumn?_text i fun c hc => (hlead c hc).1
      cases items with
      | nil =>
        have hlisted : listed ([i].map SortItem.text) = i.text := by
          simp [listed, List.intercalate]
        rw [hlisted, sortColumns, hpiece]
        simp [hcolumn]
      | cons j items =>
        have hrest := ih [' '] (List.forall_mem_singleton.mpr (by decide))
        rw [sortColumns] at hrest
        rw [List.map_cons, List.map_cons, listed_cons_cons, ← List.append_assoc, sortColumns,
          pieces_append_cons (by decide), hpiece, List.filterMap_append]
        change _ ++ (pieces (· == ',') ([' '] ++ listed ((j :: items).map SortItem.text))).filterMap
          itemColumn? = _
        rw [hrest]
        simp [hcolumn]
  exact hlead [] (by simp)

/-! ## Columns of a predicate -/

/-- The column on one side of an equality is found between the spaces there. -/
lemma sideColumn?_column {lead trail : List Char} (htrail : trail = [] ∨ trail = [' '])
    (c : Column) : sideColumn? (lead ++ c.text ++ trail) = some c.name.text := by
  have hafter : afterLast '.' (lead ++ c.text ++ trail) = c.name.text ++ trail := by
    have hnone : '.' ∉ c.name.text ++ trail := by
      rw [List.mem_append, not_or]
      refine ⟨c.name.not_mem (by decide), ?_⟩
      obtain rfl | rfl := htrail <;> decide
    have hsplit : lead ++ c.text ++ trail =
        (lead ++ c.owner.text) ++ '.' :: (c.name.text ++ trail) := by simp [Column.text]
    rw [hsplit, afterLast_append_cons hnone]
  have hskip : skipBlanks (c.name.text ++ trail) = c.name.text ++ trail :=
    dropWhile_of_head (forall_mem_head?_cons.mpr c.name.isBlank_first)
  have hfirst : ∀ d ∈ ['[', '"', '\x60'], c.name.first ≠ d := by
    intro d hd hsame
    have hword := isWord_of_isNameStart c.name.isNameStart_first
    have hnone : ∀ d ∈ ['[', '"', '\x60'], isWord d = false := forall_mem_of_any (by decide)
    rw [hsame, hnone d hd] at hword
    exact Bool.false_ne_true hword
  have hrest : ∀ d ∈ trail.head?, isNameRest d = false := by
    obtain rfl | rfl := htrail
    · simp
    · exact forall_mem_head?_cons.mpr (by decide)
  have hname : identifier? isNameStart (c.name.text ++ trail) = some (c.name.text, trail) :=
    identifier?_text (fun _ h => h) c.name hrest
  rw [Identifier.text, List.cons_append] at hname hskip
  rw [sideColumn?, hafter, Identifier.text, List.cons_append, hskip]
  simp [hfirst, hname]

/-- **The columns of a predicate** are found on its two sides. -/
lemma joinColumns_predicate (j : Join) :
    joinColumns j.predicate = [j.left.name.text, j.right.name.text] := by
  have hname : ∀ i : Identifier, ∀ d ∈ i.text, (d == '=') = false := fun i d hd =>
    beq_eq_false_iff_ne.mpr fun h => i.not_mem (m := '=') (by decide) (h ▸ hd)
  have hcolumn : ∀ c : Column, ∀ d ∈ c.text, (d == '=') = false := by
    intro c
    rw [Column.text, List.forall_mem_append, List.forall_mem_cons]
    exact ⟨hname c.owner, by decide, hname c.name⟩
  have hleft : pieces (· == '=') (j.left.text ++ [' ']) = [j.left.text ++ [' ']] :=
    pieces_of_none (List.forall_mem_append.mpr
      ⟨hcolumn _, List.forall_mem_singleton.mpr (by decide)⟩)
  have hright : pieces (· == '=') (' ' :: j.right.text) = [' ' :: j.right.text] :=
    pieces_of_none (List.forall_mem_cons.mpr ⟨by decide, hcolumn _⟩)
  have hsplit : j.predicate = (j.left.text ++ [' ']) ++ '=' :: (' ' :: j.right.text) := by
    simp [Join.predicate]
  have hleftColumn : sideColumn? ([] ++ j.left.text ++ [' ']) = some j.left.name.text :=
    sideColumn?_column (.inr rfl) j.left
  have hrightColumn : sideColumn? ([' '] ++ j.right.text ++ []) = some j.right.name.text :=
    sideColumn?_column (.inl rfl) j.right
  rw [List.nil_append] at hleftColumn
  rw [List.append_nil, List.singleton_append] at hrightColumn
  rw [joinColumns, hsplit, pieces_append_cons (by decide), hleft, hright]
  simp [hleftColumn, hrightColumn]

/-! ## The column of a condition -/

/-- No comparison follows where neither a blank nor a sign nor a word that compares stands, as long
as no blank comes right behind the first word. -/
lemma comparisonFollows_eq_false {last c : Char} {cs : List Char} (hblank : isBlank c = false)
    (hsigns : c ∉ ['!', '=', '<', '>'])
    (hwords : ∀ k ∈ comparisonWords, wordPhrase? [k] (some last) (c :: cs) = none)
    (hnext : ∀ d ∈ ((c :: cs).dropWhile isWord).head?, isBlank d = false) :
    comparisonFollows last (c :: cs) = false := by
  have hskip : skipBlanks (c :: cs) = c :: cs :=
    dropWhile_of_head (forall_mem_head?_cons.mpr hblank)
  have hlastBlank : lastBlank last (c :: cs) = last := by
    rw [lastBlank, List.takeWhile_cons, hblank, if_neg Bool.false_ne_true]
    rfl
  have hstands : standsAt (comparisonWords.map ([·])) (some last) (c :: cs) = false := by
    rw [standsAt, List.any_map, List.any_eq_false]
    intro k hk
    simp [hwords k hk]
  have hcompares : comparesAt (some last) (c :: cs) = false := by
    simp only [List.mem_cons, List.not_mem_nil, or_false, not_or] at hsigns
    rw [comparesAt.eq_def]
    split
    · rename_i heq
      exact absurd (List.cons_eq_cons.mp heq).1 hsigns.1
    · simp [hsigns, hstands]
  have hnot : (Keyword.NOT.read? (c :: cs)).bind skipSomeBlanks? = none := by
    by_contra hne
    obtain ⟨after, hafter⟩ := Option.ne_none_iff_exists'.mp hne
    obtain ⟨mid, hread, hblanks⟩ := Option.bind_eq_some_iff.mp hafter
    have hstands : wordPhrase? [.NOT] none (c :: cs) = some mid :=
      wordPhrase?_of_blanks rfl hread hblanks
    rw [← eq_dropWhile_of_wordPhrase? hstands] at hnext
    cases mid with
    | nil => simp [skipSomeBlanks?] at hblanks
    | cons d mid =>
      rw [skipSomeBlanks?, hnext d rfl, if_neg Bool.false_ne_true] at hblanks
      exact Option.some_ne_none after hblanks.symm
  rw [comparisonFollows, hskip, hnot, hlastBlank]
  exact hcompares

/-- What ends a name without an operator: a dot, or the second part of a decoration. -/
def nameEnds : List Char :=
  ['.', ']', '"', '\x60']

section NameEnds

variable {m : Char} {w cs : List Char}

lemma not_nameRest_of_mem_nameEnds (hm : m ∈ nameEnds) :
    isNameRest m = false ∧ isWord m = false ∧ isBlank m = false ∧ isFoldedNameStart m = false ∧
      m ∉ ['!', '=', '<', '>'] := by
  obtain rfl | rfl | rfl | rfl : m = '.' ∨ m = ']' ∨ m = '"' ∨ m = '\x60' := by
    simpa [nameEnds] using hm
  all_goals decide

/-- No name holds a sign. -/
lemma not_sign_of_isNameRest {c : Char} (hc : isNameRest c = true) : c ∉ ['!', '=', '<', '>'] := by
  have hnone : ∀ d ∈ ['!', '=', '<', '>'], isNameRest d = false := forall_mem_of_any (by decide)
  exact fun hmem => Bool.false_ne_true ((hnone c hmem).symm.trans hc)

/-- No blank stands right behind the first word of a name that is ended. -/
lemma isBlank_of_mem_head?_dropWhile (hm : m ∈ nameEnds) (hw : ∀ c ∈ w, isNameRest c = true) :
    ∀ d ∈ ((w ++ m :: cs).dropWhile isWord).head?, isBlank d = false := by
  obtain ⟨-, hword, hblank, -⟩ := not_nameRest_of_mem_nameEnds hm
  induction w with
  | nil =>
    rw [List.nil_append, List.dropWhile_cons, hword, if_neg Bool.false_ne_true]
    exact forall_mem_head?_cons.mpr hblank
  | cons c w ih =>
    obtain ⟨hc, hrest⟩ := List.forall_mem_cons.mp hw
    rw [List.cons_append, List.dropWhile_cons]
    split
    · exact ih hrest
    · exact forall_mem_head?_cons.mpr (isBlank_of_isNameRest hc)

/-- A name that is ended is not compared, nor is any front of it, if no word that compares is a
part of it. -/
lemma comparedRun?_ended {last : Char} (hm : m ∈ nameEnds) (hw : ∀ c ∈ w, isNameRest c = true)
    (hsilent : Silent comparisonWords (m :: cs) (some last) w) :
    comparedRun? last (w ++ m :: cs) = none := by
  have hnext : ∀ d ∈ ((w ++ m :: cs).dropWhile isWord).head?, isBlank d = false :=
    isBlank_of_mem_head?_dropWhile hm hw
  induction w generalizing last with
  | nil =>
    obtain ⟨hrest, hword, hblank, -, hsigns⟩ := not_nameRest_of_mem_nameEnds hm
    have hwords : ∀ k ∈ comparisonWords, wordPhrase? [k] (some last) (m :: cs) = none :=
      (silent_mark hword).1
    have hnot : comparisonFollows last (m :: cs) = false :=
      comparisonFollows_eq_false hblank hsigns hwords hnext
    rw [List.nil_append, comparedRun?, hrest, if_neg Bool.false_ne_true, hnot]
    rfl
  | cons c w ih =>
    obtain ⟨hc, hrest⟩ := List.forall_mem_cons.mp hw
    obtain ⟨hwords, hmore⟩ := hsilent
    have hnot : comparisonFollows last (c :: (w ++ m :: cs)) = false :=
      comparisonFollows_eq_false (isBlank_of_isNameRest hc) (not_sign_of_isNameRest hc) hwords hnext
    rw [List.cons_append, comparedRun?,
      ih hrest hmore (isBlank_of_mem_head?_dropWhile hm hrest), ite_self, hnot]
    rfl

/-- Such a name is passed over, from wherever in it. -/
lemma filterColumnFrom?_ended {prev : Option Char} (hm : m ∈ nameEnds)
    (hw : ∀ c ∈ w, isNameRest c = true) (hsilent : Silent comparisonWords (m :: cs) prev w) :
    filterColumnFrom? prev (w ++ m :: cs) = filterColumnFrom? (some m) cs := by
  induction w generalizing prev with
  | nil =>
    obtain ⟨-, -, -, hstart, -⟩ := not_nameRest_of_mem_nameEnds hm
    rw [List.nil_append, filterColumnFrom?, hstart, Bool.and_false, if_neg Bool.false_ne_true]
  | cons c w ih =>
    obtain ⟨-, hrest⟩ := List.forall_mem_cons.mp hw
    rw [List.cons_append, filterColumnFrom?, comparedRun?_ended hm hrest hsilent.2, ite_self]
    exact ih hrest hsilent.2

end NameEnds

/-- A comparison behind a space is found. -/
lemma comparisonFollows_comparison (last : Char) (c : Comparison) (cs : List Char) :
    comparisonFollows last (' ' :: (c.text ++ ' ' :: cs)) = true := by
  cases c <;> rfl

/-- The whole name in front of a comparison is the longest run that it follows. -/
lemma comparedRun?_comparison {last : Char} {w cs : List Char} (hw : ∀ c ∈ w, isNameRest c = true)
    (c : Comparison) : comparedRun? last (w ++ ' ' :: (c.text ++ ' ' :: cs)) = some w := by
  induction w generalizing last with
  | nil =>
    rw [List.nil_append, comparedRun?, comparisonFollows_comparison]
    rfl
  | cons d w ih =>
    obtain ⟨hd, hrest⟩ := List.forall_mem_cons.mp hw
    rw [List.cons_append, comparedRun?, if_pos hd, ih hrest]

/-- A name in front of a comparison is found, where a word may begin. -/
lemma filterColumnFrom?_comparison {prev : Option Char} (hprev : opensWord prev = true)
    {first : Char} (hfirst : isNameStart first = true) {w cs : List Char}
    (hw : ∀ c ∈ w, isNameRest c = true) (c : Comparison) :
    filterColumnFrom? prev (first :: w ++ ' ' :: (c.text ++ ' ' :: cs)) = some (first :: w) := by
  rw [List.cons_append, filterColumnFrom?, hprev, isFoldedNameStart_of_isNameStart hfirst,
    Bool.and_self, if_pos rfl, comparedRun?_comparison hw c]

/-- **The column of a condition** is found in front of the comparison. -/
lemma filterColumn?_condition (c : Condition) : filterColumn? c.text = some c.column.name.text := by
  have hmore : ∀ d ∈ c.column.name.more, isNameRest d = true := fun d hd =>
    c.column.name.isNameRest d (List.mem_cons_of_mem _ hd)
  have hsilent : ∀ rest, Silent comparisonWords ('.' :: rest) none c.column.owner.text := fun _ =>
    silent_of_lacks (c.column.owner.lacks.mono (by decide)) rfl
  have htext : c.text = c.column.owner.text ++ '.' ::
      (c.column.name.text ++ ' ' :: (c.comparison.text ++ ' ' :: c.number)) := by
    simp [Condition.text, Column.text]
  rw [filterColumn?, htext, filterColumnFrom?_ended (by decide) c.column.owner.isNameRest (hsilent _),
    Identifier.text]
  exact filterColumnFrom?_comparison (by decide) c.column.name.isNameStart_first hmore c.comparison

end SqlAdvice.Sql
