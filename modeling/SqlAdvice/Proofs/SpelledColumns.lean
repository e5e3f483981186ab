import SqlAdvice.Proofs.QueryNames
import SqlAdvice.Proofs.VariantColumns

/-!
# Columns and how they are spelled

A column may have any number of qualifiers in front of it, and each of its names may be plain or
decorated (`SpelledColumn`).  Two of the three extractors of columns see through all of that: the
sides of an equality are cut at the last dot and may begin with a decoration
(`sideColumn?_lastName`), and the name to sort by is read as a whole and undecorated
(`itemColumn?_spelled`).

The column of a condition is looked for as an identifier with nothing but blanks between it and the
comparison.  Qualifiers are passed over however they are spelled (`filterColumnFrom?_qualifiers`),
but the second part of a decoration stands between a decorated name and the comparison, and then no
column is found (`columns_of_spelled`, `filterColumn?_misses_spelled`).

Names may hold dollar signs, and words may begin behind them.  So a qualifier such as `q$IN` holds
an operator, and the identifier in front of that is taken for the column.
-/

namespace SqlAdvice.Sql

open SqlAdvice.Text

/-! ## Names -/

/-- An identifier of ASCII characters. -/
structure Name where
  first : Char
  more : List Char
  isNameStart_first : isNameStart first = true
  ascii_more : ∀ c ∈ more, c.isAlphanum = true ∨ c = '_' ∨ c = '$'

namespace Name

def text (n : Name) : List Char :=
  n.first :: n.more

/-- In no letter case a keyword. -/
def IsNoKeyword (n : Name) : Prop :=
  ∀ k ∈ Keyword.all, n.text.map Char.toUpper ≠ k.letters

lemma isNameRest_more (n : Name) : ∀ c ∈ n.more, isNameRest c = true := by
  intro c hc
  obtain h | rfl | rfl := n.ascii_more c hc
  · rw [isNameRest, isWord_of_isAlphanum h, Bool.true_or]
  · decide
  · decide

lemma isNameRest (n : Name) : ∀ c ∈ n.text, isNameRest c = true := by
  have hfirst : Sql.isNameRest n.first = true := by
    rw [Sql.isNameRest, isWord_of_isNameStart n.isNameStart_first, Bool.true_or]
  exact List.forall_mem_cons.mpr ⟨hfirst, n.isNameRest_more⟩

lemma not_mem {m : Char} (hm : Sql.isNameRest m = false) (n : Name) : m ∉ n.text :=
  not_mem_of_apply n.isNameRest hm

lemma noBlankEnds (n : Name) : NoBlankEnds n.text :=
  ⟨fun c hc => isBlank_of_isNameRest (n.isNameRest c (List.mem_of_mem_head? hc)),
    fun c hc => isBlank_of_isNameRest (n.isNameRest c (List.mem_of_getLast? hc))⟩

/-- The marks of a decoration do not begin a name. -/
lemma first_ne (n : Name) : ∀ d ∈ ['[', '"', '\x60'], n.first ≠ d := by
  have hnone : ∀ d ∈ ['[', '"', '\x60'], isNameStart d = false := forall_mem_of_any (by decide)
  exact fun d hd => ne_of_apply n.isNameStart_first (hnone d hd)

lemma identifier?_append (n : Name) {rest : List Char}
    (hrest : ∀ c ∈ rest.head?, Sql.isNameRest c = false) :
    identifier? isNameStart (n.text ++ rest) = some (n.text, rest) :=
  identifier?_eq_some_iff.mpr
    ⟨rfl, ⟨n.first, n.more, rfl, n.isNameStart_first, n.isNameRest_more⟩, hrest⟩

end Name

/-! ## Spelled names -/

/-- The first part of a decoration. -/
def Decoration.opening : Decoration → List Char
  | .plain => []
  | .brackets => ['[']
  | .doubleQuotes => ['"']
  | .backticks => ['\x60']

/-- The second part of a decoration. -/
def Decoration.closing : Decoration → List Char
  | .plain => []
  | .brackets => [']']
  | .doubleQuotes => ['"']
  | .backticks => ['\x60']

lemma Decoration.around_eq (d : Decoration) (cs : List Char) :
    d.around cs = d.opening ++ cs ++ d.closing := by
  cases d <;> simp [around, opening, closing]

/-- The parts of decorations. -/
def marks : List Char :=
  ['[', ']', '"', '\x60']

lemma isDecoration_iff {c : Char} : isDecoration c = true ↔ c ∈ marks := by
  simp [isDecoration, marks, or_assoc]

/-- No identifier holds a mark. -/
lemma not_mem_marks_of_isNameRest {c : Char} (h : isNameRest c = true) : c ∉ marks := by
  have hmarks : ∀ m ∈ marks, isNameRest m = false := forall_mem_of_any (by decide)
  intro hc
  rw [hmarks c hc] at h
  exact Bool.false_ne_true h

lemma isDecoration_of_isNameRest {c : Char} (h : isNameRest c = true) : isDecoration c = false :=
  Bool.eq_false_iff.mpr (mt isDecoration_iff.mp (not_mem_marks_of_isNameRest h))

lemma Decoration.opening_subset (d : Decoration) : d.opening ⊆ marks := by
  cases d <;> decide

lemma Decoration.closing_subset (d : Decoration) : d.closing ⊆ marks := by
  cases d <;> decide

/-- A name, plain or decorated. -/
structure SpelledName where
  name : Name
  decoration : Decoration

namespace SpelledName

variable {rest : List Char}

def text (s : SpelledName) : List Char :=
  s.decoration.around s.name.text

lemma text_eq (s : SpelledName) :
    s.text = s.decoration.opening ++ s.name.text ++ s.decoration.closing :=
  s.decoration.around_eq s.name.text

lemma text_ne_nil (s : SpelledName) : s.text ≠ [] := by
  simp [text_eq, Name.text]

/-- What spelled names are made of. -/
lemma forall_mem_text {p : Char → Prop} (hname : ∀ c, isNameRest c = true → p c)
    (hmarks : ∀ m ∈ marks, p m) (s : SpelledName) : ∀ c ∈ s.text, p c := by
  rw [text_eq, List.forall_mem_append, List.forall_mem_append]
  exact ⟨⟨fun c hc => hmarks c (s.decoration.opening_subset hc),
    fun c hc => hname c (s.name.isNameRest c hc)⟩,
    fun c hc => hmarks c (s.decoration.closing_subset hc)⟩

lemma dot_not_mem (s : SpelledName) : '.' ∉ s.text := by
  have hne : ∀ c ∈ s.text, c ≠ '.' :=
    s.forall_mem_text (fun c hc => ne_of_apply hc (by decide))
      fun _ hm => ne_of_mem_of_not_mem hm (by decide)
  exact fun hmem => hne _ hmem rfl

/-- Without its decoration only the name is left. -/
lemma filter_isDecoration (s : SpelledName) :
    s.text.filter (fun c => !isDecoration c) = s.name.text := by
  have hname : s.name.text.filter (fun c => !isDecoration c) = s.name.text := by
    refine List.filter_eq_self.mpr fun c hc => ?_
    rw [isDecoration_of_isNameRest (s.name.isNameRest c hc)]
    rfl
  have hopening : s.decoration.opening.filter (fun c => !isDecoration c) = [] := by
    cases s.decoration <;> decide
  have hclosing : s.decoration.closing.filter (fun c => !isDecoration c) = [] := by
    cases s.decoration <;> decide
  rw [text_eq, List.filter_append, List.filter_append, hopening, hname, hclosing, List.nil_append,
    List.append_nil]

/-- A spelled name is read as it is written. -/
lemma component?_append (s : SpelledName) (hrest : ∀ c ∈ rest.head?, isNameRest c = false) :
    component? isNameStart (s.text ++ rest) = some (s.text, rest) := by
  have henclosed : ∀ opening closing : Char, isNameRest closing = false →
      enclosed? opening closing (s.name.text ++ [closing] ++ rest) =
        some (opening :: s.name.text ++ [closing], rest) := fun opening closing hclosing => by
    rw [List.append_assoc]
    exact enclosed?_append_cons (s.name.not_mem hclosing) rest
  rw [text]
  cases s.decoration with
  | plain =>
    have hread := s.name.identifier?_append hrest
    rw [Name.text, List.cons_append] at hread
    rw [Decoration.around, Name.text, List.cons_append, component?_of_plain
      (s.name.first_ne _ (by decide)) (s.name.first_ne _ (by decide))
      (s.name.first_ne _ (by decide)), hread]
  | brackets => exact henclosed '[' ']' (by decide)
  | doubleQuotes => exact henclosed '"' '"' (by decide)
  | backticks => exact henclosed '\x60' '\x60' (by decide)

/-- Behind its first mark a spelled name begins with the name. -/
lemma identifier?_undecorated (s : SpelledName) (hrest : ∀ c ∈ rest.head?, isNameRest c = false) :
    (identifier? isNameStart (undecorated (s.text ++ rest))).map (·.1) = some s.name.text := by
  obtain ⟨tail, htail, hend⟩ : ∃ tail, undecorated (s.text ++ rest) = s.name.text ++ tail ∧
      ∀ c ∈ tail.head?, isNameRest c = false := by
    rw [text]
    cases s.decoration with
    | plain =>
      refine ⟨rest, ?_, hrest⟩
      rw [Decoration.around, Name.text, List.cons_append, undecorated]
      simp [s.name.first_ne]
    | brackets => exact ⟨']' :: rest, by simp [Decoration.around, undecorated], by simp; decide⟩
    | doubleQuotes => exact ⟨'"' :: rest, by simp [Decoration.around, undecorated], by simp; decide⟩
    | backticks =>
      exact ⟨'\x60' :: rest, by simp [Decoration.around, undecorated], by simp; decide⟩
  rw [htail, s.name.identifier?_append hend, Option.map_some]

end SpelledName

/-! ## Spelled columns -/

/-- Names with dots between neighbours. -/
def dotted (ns : List SpelledName) : List Char :=
  joinPieces '.' (ns.map SpelledName.text)

lemma dotted_singleton (n : SpelledName) : dotted [n] = n.text :=
  joinPieces_singleton '.' n.text

lemma dotted_cons_cons (n m : SpelledName) (ns : List SpelledName) :
    dotted (n :: m :: ns) = n.text ++ '.' :: dotted (m :: ns) :=
  joinPieces_cons_cons '.' n.text m.text (ns.map SpelledName.text)

lemma dotted_cons {ns : List SpelledName} (hne : ns ≠ []) (n : SpelledName) :
    dotted (n :: ns) = n.text ++ '.' :: dotted ns := by
  obtain ⟨m, ns, rfl⟩ := List.exists_cons_of_ne_nil hne
  exact dotted_cons_cons n m ns

lemma dotted_concat {ns : List SpelledName} (hne : ns ≠ []) (n : SpelledName) :
    dotted (ns ++ [n]) = dotted ns ++ '.' :: n.text := by
  rw [dotted, List.map_append, List.map_singleton, joinPieces_concat '.' (by simpa using hne)]
  rfl

lemma forall_mem_dotted {p : Char → Prop} (hname : ∀ c, isNameRest c = true → p c)
    (hmarks : ∀ m ∈ marks, p m) (hdot : p '.') (ns : List SpelledName) : ∀ c ∈ dotted ns, p c := by
  induction ns with
  | nil => exact List.forall_mem_nil _
  | cons n ns ih =>
    have hn := n.forall_mem_text hname hmarks
    cases ns with
    | nil => rwa [dotted_singleton]
    | cons m ns =>
      rw [dotted_cons_cons]
      exact List.forall_mem_append.mpr ⟨hn, List.forall_mem_cons.mpr ⟨hdot, ih⟩⟩

lemma isBlank_of_mem_head?_dotted (n : SpelledName) (ns : List SpelledName) (rest : List Char) :
    ∀ c ∈ (dotted (n :: ns) ++ rest).head?, isBlank c = false := by
  have hall : ∀ c ∈ dotted (n :: ns), isBlank c = false :=
    forall_mem_dotted (fun _ => isBlank_of_isNameRest) (forall_mem_of_any (by decide))
      (by decide) _
  have hne : dotted (n :: ns) ≠ [] := by
    cases ns with
    | nil => rw [dotted_singleton]; exact n.text_ne_nil
    | cons m ns => rw [dotted_cons_cons]; exact List.append_ne_nil_of_left_ne_nil n.text_ne_nil _
  intro c hc
  rw [List.head?_append_of_ne_nil _ hne] at hc
  exact hall c (List.mem_of_mem_head? hc)

/-- A column, perhaps with qualifiers. -/
structure SpelledColumn where
  qualifiers : List SpelledName
  last : SpelledName

namespace SpelledColumn

/-- The names of a column, in order. -/
def names (c : SpelledColumn) : List SpelledName :=
  c.qualifiers ++ [c.last]

def text (c : SpelledColumn) : List Char :=
  dotted c.names

/-- The name of the column alone. -/
def name (c : SpelledColumn) : List Char :=
  c.last.name.text

lemma text_of_qualified {c : SpelledColumn} (h : c.qualifiers ≠ []) :
    c.text = dotted c.qualifiers ++ '.' :: c.last.text :=
  dotted_concat h c.last

/-- The column itself stands behind a dot, unless nothing qualifies it. -/
lemma text_cases (c : SpelledColumn) :
    c.text = c.last.text ∨ ∃ front, c.text = front ++ '.' :: c.last.text := by
  by_cases h : c.qualifiers = []
  · rw [text, names, h]
    exact .inl (dotted_singleton c.last)
  · exact .inr ⟨_, text_of_qualified h⟩

/-- What is neither part of a name nor a mark nor a dot is not in a column. -/
lemma not_mem_text {m : Char} (hname : isNameRest m = false) (hmark : m ∉ marks) (hdot : m ≠ '.')
    (c : SpelledColumn) : m ∉ c.text := by
  have hne : ∀ d ∈ c.text, d ≠ m :=
    forall_mem_dotted (fun _ hd => ne_of_apply hd hname) (fun _ hd => ne_of_mem_of_not_mem hd hmark)
      hdot.symm c.names
  exact fun hmem => hne m hmem rfl

end SpelledColumn

/-! ## Columns of an equality -/

section Sides

variable {lead trail : List Char}

/-- The last name on a side is its column, whatever stands before the last dot. -/
lemma sideColumn?_lastName {side : List Char} (s : SpelledName)
    (hside : afterLast '.' side = lead ++ s.text ++ trail) (hlead : ∀ c ∈ lead, isBlank c = true)
    (htrail : ∀ c ∈ trail.head?, isNameRest c = false) :
    sideColumn? side = some s.name.text := by
  have hskip : skipBlanks (lead ++ (s.text ++ trail)) = s.text ++ trail := by
    refine dropWhile_append_of_head hlead fun c hc => ?_
    have hall : ∀ c ∈ s.text, isBlank c = false :=
      s.forall_mem_text (fun _ => isBlank_of_isNameRest)
        (forall_mem_of_any (by decide))
    rw [List.head?_append_of_ne_nil _ s.text_ne_nil] at hc
    exact hall c (List.mem_of_mem_head? hc)
  rw [sideColumn?_eq, hside, List.append_assoc, hskip]
  exact s.identifier?_undecorated htrail

/-- A column behind blanks is found, however it is spelled. -/
lemma sideColumn?_spelled (c : SpelledColumn) (hlead : ∀ d ∈ lead, isBlank d = true)
    (htrail : ∀ d ∈ trail.head?, isNameRest d = false) (hdot : '.' ∉ trail) :
    sideColumn? (lead ++ c.text ++ trail) = some c.name := by
  have hlast : '.' ∉ c.last.text ++ trail := by
    rw [List.mem_append, not_or]
    exact ⟨c.last.dot_not_mem, hdot⟩
  obtain htext | ⟨front, htext⟩ := c.text_cases
  · have hnone : '.' ∉ lead ++ c.last.text ++ trail := by
      rw [List.append_assoc, List.mem_append, not_or]
      exact ⟨not_mem_of_apply hlead (by decide), hlast⟩
    rw [htext]
    exact sideColumn?_lastName c.last (afterLast_of_not_mem hnone) hlead htrail
  · have hside : lead ++ c.text ++ trail = (lead ++ front) ++ '.' :: (c.last.text ++ trail) := by
      simp [htext]
    rw [hside]
    have hafter := afterLast_append_cons hlast (lead ++ front)
    exact sideColumn?_lastName c.last hafter (List.forall_mem_nil _) htrail

/-- The columns on the two sides of an equality. -/
lemma joinColumns_spelled (x y : SpelledColumn) :
    joinColumns (x.text ++ " = ".toList ++ y.text) = [x.name, y.name] := by
  have hnone := SpelledColumn.not_mem_text (m := '=') (by decide) (by decide) (by decide)
  have hleft : pieces (· == '=') (x.text ++ [' ']) = [x.text ++ [' ']] :=
    pieces_eq_singleton (List.not_mem_append (hnone x) (by decide))
  have hright : pieces (· == '=') (' ' :: y.text) = [' ' :: y.text] :=
    pieces_eq_singleton (List.not_mem_cons_of_ne_of_not_mem (by decide) (hnone y))
  have hx : sideColumn? ([] ++ x.text ++ [' ']) = some x.name :=
    sideColumn?_spelled x (List.forall_mem_nil _) (forall_mem_head?_cons.mpr (by decide))
      (by decide)
  have hy : sideColumn? ([' '] ++ y.text ++ []) = some y.name :=
    sideColumn?_spelled y (List.forall_mem_singleton.mpr (by decide)) (by simp) (by simp)
  rw [List.nil_append] at hx
  rw [List.append_nil, List.singleton_append] at hy
  have hsplit : x.text ++ " = ".toList ++ y.text =
      (x.text ++ [' ']) ++ '=' :: (' ' :: y.text) := by simp
  rw [joinColumns, hsplit, pieces_append_cons (by decide), hleft, hright]
  simp [hx, hy]

end Sides

/-! ## Columns to sort by -/

section Items

variable {rest : List Char}

/-- The whole name of a column is read as it is written. -/
lemma qualified?_dotted (hrest : Stops rest) (n : SpelledName) (ns : List SpelledName) :
    qualified? isNameStart (dotted (n :: ns) ++ rest) = some (dotted (n :: ns), rest) := by
  induction ns generalizing n with
  | nil =>
    rw [dotted_singleton, qualified?_eq_map, n.component?_append hrest.head, Option.map_some,
      dottedTail_of_stops hrest, List.append_nil]
  | cons m ns ih =>
    have hdot : ∀ d ∈ ('.' :: (dotted (m :: ns) ++ rest)).head?, isNameRest d = false :=
      forall_mem_head?_cons.mpr (by decide)
    have htail : dottedTail isNameStart ('.' :: (dotted (m :: ns) ++ rest)) =
        ('.' :: dotted (m :: ns), rest) :=
      dottedTail_of_dot (List.forall_mem_nil _) (List.forall_mem_nil _)
        (isBlank_of_mem_head?_dotted m ns rest) (ih m)
    rw [dotted_cons_cons, List.append_assoc, List.cons_append, qualified?_eq_map,
      n.component?_append hdot, Option.map_some, htail]

/-- The reported form of a column ends with its name. -/
lemma afterLast_undecorate (c : SpelledColumn) : afterLast '.' (undecorate c.text) = c.name := by
  have hdot : '.' ∉ c.name := c.last.name.not_mem (by decide)
  have htrim : trim c.name = c.name := trim_of_noBlankEnds c.last.name.noBlankEnds
  have hname : (pieces (· == '.') c.last.name.text).map trim = [c.name] := by
    rw [← SpelledColumn.name, pieces_eq_singleton hdot, List.map_singleton, htrim]
  obtain htext | ⟨front, htext⟩ := c.text_cases
  · rw [undecorate, htext, c.last.filter_isDecoration, hname]
    exact afterLast_joinPieces hdot []
  · have hkeep : (!isDecoration '.') = true := by decide
    rw [undecorate, htext, List.filter_append, List.filter_cons, if_pos hkeep,
      c.last.filter_isDecoration, pieces_append_cons (by decide), List.map_append, hname]
    exact afterLast_joinPieces hdot _

/-- The column of an item, behind blanks and in front of what is no part of it. -/
lemma itemColumn?_spelled (c : SpelledColumn) {lead : List Char}
    (hlead : ∀ d ∈ lead, isBlank d = true) (hrest : Stops rest) :
    itemColumn? (lead ++ c.text ++ rest) = some c.name := by
  obtain ⟨n, ns, hnames⟩ := List.exists_cons_of_ne_nil (l := c.names)
    (by simp [SpelledColumn.names])
  have htext : c.text = dotted (n :: ns) := by rw [SpelledColumn.text, hnames]
  have hskip : skipBlanks (lead ++ (c.text ++ rest)) = c.text ++ rest := by
    rw [htext]
    exact dropWhile_append_of_head hlead (isBlank_of_mem_head?_dotted n ns rest)
  have hread : qualified? isNameStart (c.text ++ rest) = some (c.text, rest) := by
    rw [htext]
    exact qualified?_dotted hrest n ns
  have hne : c.name.isEmpty = false := rfl
  rw [itemColumn?, List.append_assoc, hskip, hread]
  simp [afterLast_undecorate, hne]

/-- The columns of two items, the first one with a direction. -/
lemma sortColumns_spelled (x y : SpelledColumn) :
    sortColumns (x.text ++ " DESC, ".toList ++ y.text) = [x.name, y.name] := by
  have hnone := SpelledColumn.not_mem_text (m := ',') (by decide) (by decide) (by decide)
  have hfirst : pieces (· == ',') (x.text ++ " DESC".toList) = [x.text ++ " DESC".toList] :=
    pieces_eq_singleton (List.not_mem_append (hnone x) (by decide))
  have hsecond : pieces (· == ',') (' ' :: y.text) = [' ' :: y.text] :=
    pieces_eq_singleton (List.not_mem_cons_of_ne_of_not_mem (by decide) (hnone y))
  have hx : itemColumn? ([] ++ x.text ++ " DESC".toList) = some x.name :=
    itemColumn?_spelled x (List.forall_mem_nil _) (.inr ⟨'D', _, rfl, by decide⟩)
  have hy : itemColumn? ([' '] ++ y.text ++ []) = some y.name :=
    itemColumn?_spelled y (List.forall_mem_singleton.mpr (by decide)) (.inl rfl)
  rw [List.nil_append] at hx
  rw [List.append_nil, List.singleton_append] at hy
  have hsplit : x.text ++ " DESC, ".toList ++ y.text =
      (x.text ++ " DESC".toList) ++ ',' :: (' ' :: y.text) := by simp
  rw [sortColumns, hsplit, pieces_append_cons (by decide), hfirst, hsecond]
  simp only [List.singleton_append, List.filterMap_cons, List.filterMap_nil, hx, hy]

end Items

/-! ## The column of a condition -/

section Conditions

variable {prev : Option Char} {cs : List Char}

/-- What begins no identifier is passed over. -/
lemma filterColumnFrom?_mark {m : Char} (hm : isFoldedNameStart m = false) :
    filterColumnFrom? prev (m :: cs) = filterColumnFrom? (some m) cs := by
  rw [filterColumnFrom?, hm, Bool.and_false, if_neg Bool.false_ne_true]

lemma filterColumnFrom?_eq_none (h : ∀ c ∈ cs, isFoldedNameStart c = false) :
    filterColumnFrom? prev cs = none := by
  induction cs generalizing prev with
  | nil => rfl
  | cons c cs ih =>
    obtain ⟨hc, hcs⟩ := List.forall_mem_cons.mp h
    rw [filterColumnFrom?_mark hc, ih hcs]

/-- A name is passed over where a decoration or a dot ends it. -/
lemma filterColumnFrom?_spelled {m : Char} (hm : isFoldedNameStart m = false) (s : SpelledName)
    (hs : Lacks comparisonWords s.name.text) (hend : m ∈ nameEnds ∨ s.decoration ≠ .plain) :
    filterColumnFrom? prev (s.text ++ m :: cs) = filterColumnFrom? (some m) cs := by
  have hname : ∀ {e : Char} {prev : Option Char} {cs : List Char}, e ∈ nameEnds →
      filterColumnFrom? prev (s.name.text ++ e :: cs) = filterColumnFrom? (some e) cs := fun he =>
    filterColumnFrom?_ended he s.name.isNameRest (silent_of_lacks hs
      (by simp [closesWord, (not_nameRest_of_mem_nameEnds he).2.1]))
  have hmarks : ∀ opening closing, isFoldedNameStart opening = false → closing ∈ nameEnds →
      filterColumnFrom? prev (opening :: s.name.text ++ [closing] ++ m :: cs) =
        filterColumnFrom? (some m) cs := fun opening closing hopening hclosing => by
    rw [List.append_assoc, List.cons_append, filterColumnFrom?_mark hopening,
      List.singleton_append, hname hclosing, filterColumnFrom?_mark hm]
  rw [SpelledName.text]
  cases hdecoration : s.decoration with
  | plain => exact hname (hend.resolve_right (not_not_intro hdecoration))
  | brackets => exact hmarks '[' ']' (by decide) (by decide)
  | doubleQuotes => exact hmarks '"' '"' (by decide) (by decide)
  | backticks => exact hmarks '\x60' '\x60' (by decide) (by decide)

/-- Qualifiers are passed over however they are spelled. -/
lemma filterColumnFrom?_qualifiers {qs : List SpelledName}
    (hqs : ∀ q ∈ qs, Lacks comparisonWords q.name.text) (hprev : opensWord prev = true)
    (n : SpelledName) (cs : List Char) :
    ∃ prev', opensWord prev' = true ∧
      filterColumnFrom? prev (dotted (qs ++ [n]) ++ cs) = filterColumnFrom? prev' (n.text ++ cs) := by
  induction qs generalizing prev with
  | nil => exact ⟨prev, hprev, by rw [List.nil_append, dotted_singleton]⟩
  | cons q qs ih =>
    obtain ⟨hq, hqs⟩ := List.forall_mem_cons.mp hqs
    have hdot : opensWord (some '.') = true := by decide
    obtain ⟨prev', hprev', hmore⟩ := ih hqs hdot
    refine ⟨prev', hprev', ?_⟩
    rw [List.cons_append, dotted_cons (by simp), List.append_assoc, List.cons_append,
      filterColumnFrom?_spelled (by decide) q hq (.inl (by decide)), hmore]

/-- The column in front of a comparison is found if it is plain. -/
lemma filterColumn?_spelled (x : SpelledColumn)
    (hx : ∀ n ∈ x.names, Lacks comparisonWords n.name.text) (op : Comparison) :
    filterColumn? (x.text ++ ' ' :: (op.text ++ " 5".toList)) =
      if x.last.decoration = .plain then some x.name else none := by
  obtain ⟨hqs, hlast⟩ := List.forall_mem_append.mp hx
  have hfront : opensWord none = true := rfl
  obtain ⟨prev, hprev, hfound⟩ := filterColumnFrom?_qualifiers hqs hfront x.last
    (' ' :: (op.text ++ " 5".toList))
  rw [filterColumn?, SpelledColumn.text, SpelledColumn.names, hfound]
  split
  · rename_i hplain
    have htext : x.last.text = x.name := by rw [SpelledName.text, hplain]; rfl
    rw [htext]
    exact filterColumnFrom?_comparison hprev x.last.name.isNameStart_first
      x.last.name.isNameRest_more op
  · rename_i hdecorated
    have hrest : ∀ c ∈ op.text ++ " 5".toList, isFoldedNameStart c = false :=
      forall_mem_of_any (by cases op <;> decide)
    have hspace : isFoldedNameStart ' ' = false := by decide
    rw [filterColumnFrom?_spelled hspace x.last (hlast x.last (List.mem_singleton_self _))
      (.inr hdecorated), filterColumnFrom?_eq_none hrest]

end Conditions

/-- **Spelled columns.**  The columns of an equality and the columns to sort by are found, however
many qualifiers they have and however all names are spelled.  The column of a condition is found
exactly if its own name is plain, however its qualifiers are spelled, and no column is found
otherwise.  That is so if no name is an operator, nor is a word that a dollar sign parts from the
rest of a name. -/
theorem columns_of_spelled (x y : SpelledColumn) :
    joinColumns (x.text ++ " = ".toList ++ y.text) = [x.name, y.name] ∧
      sortColumns (x.text ++ " DESC, ".toList ++ y.text) = [x.name, y.name] ∧
      ((∀ n ∈ x.names, Lacks comparisonWords n.name.text) → ∀ op : Comparison,
        filterColumn? (x.text ++ ' ' :: (op.text ++ " 5".toList)) =
          if x.last.decoration = .plain then some x.name else none) :=
  ⟨joinColumns_spelled x y, sortColumns_spelled x y, filterColumn?_spelled x⟩

/-- A name of one letter. -/
def Name.letter (c : Char) (hc : isNameStart c = true) : Name :=
  ⟨c, [], hc, List.forall_mem_nil _⟩

/-- Two qualifiers with decorations in front of a plain name, and a decorated name. -/
theorem columns_of_spelled_mixed :
    ∃ x y : SpelledColumn, x.text = "[q].\"r\".c".toList ∧ y.text = "t.\x60d\x60".toList ∧
      joinColumns "[q].\"r\".c = t.\x60d\x60".toList = [['c'], ['d']] ∧
      sortColumns "[q].\"r\".c DESC, t.\x60d\x60".toList = [['c'], ['d']] ∧
      (∀ n ∈ x.names, Lacks comparisonWords n.name.text) ∧
      filterColumn? "[q].\"r\".c <> 5".toList = some ['c'] := by
  let spell (c : Char) (hc : isNameStart c = true) (d : Decoration) : SpelledName :=
    ⟨.letter c hc, d⟩
  let x : SpelledColumn := ⟨[spell 'q' (by decide) .brackets, spell 'r' (by decide) .doubleQuotes],
    spell 'c' (by decide) .plain⟩
  let y : SpelledColumn := ⟨[spell 't' (by decide) .plain], spell 'd' (by decide) .backticks⟩
  obtain ⟨hjoin, hsort, hfilter⟩ := columns_of_spelled x y
  have hlacks : ∀ n ∈ x.names, Lacks comparisonWords n.name.text := by
    unfold Lacks
    decide
  exact ⟨x, y, by decide, by decide, hjoin, hsort, hlacks, hfilter hlacks .notEqual⟩

/-- **Columns of conditions are missed.**  A decoration keeps the column from being found, and of a
qualifier that holds an operator behind a dollar sign the front is found instead. -/
theorem filterColumn?_misses_spelled :
    (∃ x : SpelledColumn, (∀ n ∈ x.names, n.name.IsNoKeyword) ∧ x.name = ['c'] ∧
      x.text ++ " = 5".toList = "[c] = 5".toList ∧ filterColumn? "[c] = 5".toList = none) ∧
    ∃ x : SpelledColumn, (∀ n ∈ x.names, n.name.IsNoKeyword) ∧ x.name = ['c'] ∧
      x.text ++ " = 5".toList = "q$IN.c = 5".toList ∧
      filterColumn? "q$IN.c = 5".toList = some "q$".toList := by
  let c : Name := .letter 'c' (by decide)
  let q : Name := ⟨'q', ['$', 'I', 'N'], by decide, by simp [Char.isAlphanum]⟩
  unfold Name.IsNoKeyword
  exact ⟨⟨⟨[], ⟨c, .brackets⟩⟩, by decide, rfl, by decide, by decide⟩,
    ⟨⟨[⟨q, .plain⟩], ⟨c, .plain⟩⟩, by decide, rfl, by decide, by decide⟩⟩

end SqlAdvice.Sql
