import Mathlib.Data.List.Chain
import Mathlib.Data.List.Pairwise
import SqlAdvice.Proofs.Features
import SqlAdvice.Proofs.KeywordPlaces
import SqlAdvice.Proofs.NameGrammar
import SqlAdvice.Proofs.SpelledColumns

/-!
# Reported names are clean

Between the marks of a decoration there may be any text, so what is left of a name without its
decoration may begin with a blank, consist of blanks, or have dots in any places.  It is cut at its
dots and the parts are trimmed (`reportedParts`).  Each of them is then free of marks, dots and
outer blanks (`IsPart`), and this is all that reported names need: a table is what such parts are
when they are joined by dots (`isCleanName_joinPieces`), and a column to sort by is the last of
them.  The other columns are identifiers, which hold no blanks in the first place.

Which name is reported first is said without the search for it: the longest qualified name that
follows the first word `FROM` of a statement and blanks (`NamedFrom`).  Nothing of it is lost but
marks and blanks (`filter_undecorate`).
-/

namespace SqlAdvice.Text

variable {sep : Char} {ws : List (List Char)}

/-! ## Blanks next to separators -/

/-- Where texts are joined that have no blanks at their ends, no blank stands next to a separator. -/
lemma isChain_joinPieces (hsep : isBlank sep = false) (h : ∀ w ∈ ws, sep ∉ w ∧ NoBlankEnds w) :
    (joinPieces sep ws).IsChain fun c d =>
      (c = sep → isBlank d = false) ∧ (d = sep → isBlank c = false) := by
  induction ws with
  | nil => exact .nil
  | cons w ws ih =>
    obtain ⟨⟨hw, hends⟩, hws⟩ := List.forall_mem_cons.mp h
    have hinside : w.IsChain fun c d =>
        (c = sep → isBlank d = false) ∧ (d = sep → isBlank c = false) := by
      refine (List.pairwise_of_forall_mem_list fun c hc d hd => ?_).isChain
      exact ⟨fun h => absurd (h ▸ hc) hw, fun h => absurd (h ▸ hd) hw⟩
    cases ws with
    | nil => rwa [joinPieces_singleton]
    | cons v ws =>
      have hbehind := noBlankEnds_joinPieces hsep fun u hu => (hws u hu).2
      rw [joinPieces_cons_cons]
      -- the new separator stands between the end of the first text and the front of the others
      refine List.isChain_append.mpr ⟨hinside, List.isChain_cons.mpr ⟨fun d hd => ?_, ih hws⟩,
        fun c hc d hd => ?_⟩
      · exact ⟨fun _ => hbehind.head d hd, fun _ => hsep⟩
      · obtain rfl : sep = d := by simpa using hd
        exact ⟨fun h => absurd (h ▸ List.mem_of_getLast? hc) hw, fun _ => hends.last c hc⟩

end SqlAdvice.Text

namespace SqlAdvice.Sql

open SqlAdvice.Text

variable {cs name w text : List Char} {ws : List (List Char)}

/-! ## Clean names -/

/-- A name without decoration, and without blanks at its ends and next to its dots. -/
structure IsCleanName (name : List Char) : Prop where
  ne_nil : name ≠ []
  unmarked : ∀ m ∈ marks, m ∉ name
  ends : NoBlankEnds name
  before_dot : ∀ c, [c, '.'] <:+: name → isBlank c = false
  behind_dot : ∀ c, ['.', c] <:+: name → isBlank c = false

/-- What may stand between the dots of a clean name. -/
structure IsPart (w : List Char) : Prop where
  unmarked : ∀ m ∈ marks, m ∉ w
  dotless : '.' ∉ w
  ends : NoBlankEnds w

/-- A clean name without dots. -/
structure IsCleanColumn (name : List Char) : Prop extends IsPart name where
  ne_nil : name ≠ []

/-- Parts are joined to a clean name, unless there is nothing in them. -/
lemma isCleanName_joinPieces (h : ∀ w ∈ ws, IsPart w) (hne : joinPieces '.' ws ≠ []) :
    IsCleanName (joinPieces '.' ws) := by
  have hchain : (joinPieces '.' ws).IsChain _ :=
    isChain_joinPieces (by decide) fun w hw => ⟨(h w hw).dotless, (h w hw).ends⟩
  refine ⟨hne, fun m hm hmem => ?_, noBlankEnds_joinPieces (by decide) fun w hw => (h w hw).ends,
    fun c hc => ?_, fun c hc => ?_⟩
  · obtain rfl | ⟨w, hw, hmem⟩ := eq_or_mem_of_mem_joinPieces hmem
    · exact absurd hm (by decide)
    · exact (h w hw).unmarked m hm hmem
  · have hpair := List.IsChain.infix hchain hc
    exact (List.isChain_cons_cons.mp hpair).1.2 rfl
  · have hpair := List.IsChain.infix hchain hc
    exact (List.isChain_cons_cons.mp hpair).1.1 rfl

/-- Identifiers are clean. -/
lemma isCleanColumn_of_isNameRest (hne : name ≠ []) (h : ∀ c ∈ name, isNameRest c = true) :
    IsCleanColumn name where
  ne_nil := hne
  unmarked m hm hmem := not_mem_marks_of_isNameRest (h m hmem) hm
  dotless := not_mem_of_apply h (by decide)
  ends := ⟨fun c hc => isBlank_of_isNameRest (h c (List.mem_of_mem_head? hc)),
    fun c hc => isBlank_of_isNameRest (h c (List.mem_of_getLast? hc))⟩

/-! ## Undecorated names -/

/-- What is reported of a name between its dots. -/
def reportedParts (cs : List Char) : List (List Char) :=
  (pieces (· == '.') (cs.filter fun c => !isDecoration c)).map trim

lemma undecorate_eq (cs : List Char) : undecorate cs = joinPieces '.' (reportedParts cs) :=
  rfl

lemma reportedParts_ne_nil (cs : List Char) : reportedParts cs ≠ [] := by
  simpa [reportedParts] using pieces_ne_nil _ _

lemma isPart_of_mem_reportedParts (h : w ∈ reportedParts cs) : IsPart w := by
  obtain ⟨v, hv, rfl⟩ := List.mem_map.mp h
  have hinside : trim v ⊆ v := (isInfix_trim v).subset
  refine ⟨fun m hm hmem => ?_, fun hdot => not_mem_of_mem_pieces hv (hinside hdot),
    noBlankEnds_trim v⟩
  have hpiece : v <:+: joinPieces '.' (pieces (· == '.') _) := infix_joinPieces hv
  rw [joinPieces_pieces] at hpiece
  have hkept := (List.mem_filter.mp (hpiece.subset (hinside hmem))).2
  simp [isDecoration_iff.mpr hm] at hkept

/-- Nothing but marks and blanks is taken away. -/
lemma filter_undecorate (cs : List Char) :
    (undecorate cs).filter (fun c => !isBlank c) =
      (cs.filter fun c => !isDecoration c).filter fun c => !isBlank c := by
  have htrim : List.filter (fun c => !isBlank c) ∘ trim = List.filter fun c => !isBlank c :=
    funext filter_trim
  rw [undecorate_eq, reportedParts, filter_joinPieces (by decide), List.map_map, htrim,
    ← filter_joinPieces (by decide), joinPieces_pieces]

/-- A name is reported unless it consists of marks and blanks. -/
lemma undecorate_ne_nil (h : ∃ c ∈ cs, c ∉ marks ∧ isBlank c = false) : undecorate cs ≠ [] := by
  obtain ⟨c, hc, hmark, hblank⟩ := h
  have hdecoration : isDecoration c = false := Bool.eq_false_iff.mpr (mt isDecoration_iff.mp hmark)
  have hkept : c ∈ (undecorate cs).filter fun c => !isBlank c := by
    rw [filter_undecorate, List.mem_filter, List.mem_filter]
    simp [hc, hdecoration, hblank]
  exact List.ne_nil_of_mem (List.mem_of_mem_filter hkept)

lemma isCleanName_undecorate (hne : undecorate cs ≠ []) : IsCleanName (undecorate cs) :=
  isCleanName_joinPieces (fun _ => isPart_of_mem_reportedParts) hne

/-- The part behind the last dot. -/
lemma isPart_afterLast_undecorate (cs : List Char) : IsPart (afterLast '.' (undecorate cs)) := by
  obtain ⟨ws, w, hws⟩ := (List.eq_nil_or_concat' (reportedParts cs)).resolve_left
    (reportedParts_ne_nil cs)
  have hmem : w ∈ reportedParts cs := by simp [hws]
  have hw : IsPart w := isPart_of_mem_reportedParts hmem
  rw [undecorate_eq, hws, afterLast_joinPieces hw.dotless]
  exact hw

/-! ## Tables -/

lemma isCleanName_of_mem_tables (h : name ∈ tables text) : IsCleanName name := by
  rw [tables, List.mem_eraseDups] at h
  obtain ⟨hfound, hne⟩ := List.mem_filter.mp h
  obtain ⟨written, -, rfl⟩ := List.mem_map.mp hfound
  exact isCleanName_undecorate (by simpa using hne)

/-- The first word `FROM` of a statement, followed by a name: by blanks, and by the longest qualified
name behind them. -/
structure NamedFrom (text : List Char) where
  before : List Char
  word : List Char
  gap : List Char
  name : List Char
  rest : List Char
  text_eq : text = before ++ (word ++ (gap ++ (name ++ rest)))
  lacks : Lacks [.FROM] before
  opens : ∀ c ∈ before.getLast?, isWord c = false
  spells : word.map foldCase = Keyword.FROM.letters
  separated : gap ≠ []
  blank : ∀ c ∈ gap, isBlank c = true
  qualified : IsQualified isFoldedNameStart name
  longest : ∀ v, IsQualified isFoldedNameStart v → v <+: name ++ rest → v <+: name

/-- The name is found. -/
lemma NamedFrom.fromName? (p : NamedFrom text) : fromName? none text = some p.name := by
  have hopens : opensWord (lastChar none p.before) = true := opensWord_lastChar_iff.mpr p.opens
  have hskip : skipBlanks (p.name ++ p.rest) = p.name ++ p.rest :=
    dropWhile_of_head (p.qualified.isBlank_head (fun _ => isNameRest_of_isFoldedNameStart) p.rest)
  have hread : qualified? isFoldedNameStart (p.name ++ p.rest) = some (p.name, p.rest) :=
    (qualified?_eq_some_iff fun _ => isNameRest_of_isFoldedNameStart).mpr
      ⟨rfl, p.qualified, p.longest⟩
  have hfound : nameAfter? .FROM (lastChar none p.before)
      (p.word ++ (p.gap ++ (p.name ++ p.rest))) = some (p.name, p.rest) := by
    rw [nameAfter?, if_pos hopens, read?_append p.spells, Option.bind_eq_bind, Option.bind_some,
      skipSomeBlanks?_of_blank p.blank p.separated, hskip, Option.bind_some, hread]
  have hne : p.word ++ (p.gap ++ (p.name ++ p.rest)) ≠ [] := by
    simpa using fun _ hgap => absurd hgap p.separated
  calc Sql.fromName? none text
      = Sql.fromName? none (p.before ++ (p.word ++ (p.gap ++ (p.name ++ p.rest)))) :=
        congrArg _ p.text_eq
    _ = Sql.fromName? (lastChar none p.before) (p.word ++ (p.gap ++ (p.name ++ p.rest))) :=
        fromName?_append (silent_of_lacks_of_last p.lacks p.opens)
    _ = some p.name := fromName?_of_nameAfter? hne hfound

/-- It is the first table, unless there is nothing in it. -/
lemma NamedFrom.head?_tables (p : NamedFrom text)
    (hname : ∃ c ∈ p.name, c ∉ marks ∧ isBlank c = false) :
    (tables text).head? = some (undecorate p.name) := by
  have hkept : (!(undecorate p.name).isEmpty) = true := by simpa using undecorate_ne_nil hname
  rw [tables, p.fromName?, Option.toList_some, List.singleton_append, List.map_cons,
    List.filter_cons, if_pos hkept, List.eraseDups_cons, List.head?_cons]

/-! ## Columns -/

lemma isCleanColumn_of_mem_joinColumns (h : name ∈ joinColumns text) : IsCleanColumn name := by
  obtain ⟨side, -, hside⟩ := List.mem_filterMap.mp h
  rw [sideColumn?_eq, Option.map_eq_some_iff] at hside
  obtain ⟨⟨found, rest⟩, hread, rfl⟩ := hside
  obtain ⟨-, ⟨c, more, rfl, hc, hmore⟩, -⟩ := identifier?_eq_some_iff.mp hread
  exact isCleanColumn_of_isNameRest (List.cons_ne_nil _ _)
    (List.forall_mem_cons.mpr ⟨isNameRest_of_isNameStart hc, hmore⟩)

lemma isNameRest_of_comparedRun? {last : Char} (h : comparedRun? last cs = some name) :
    ∀ c ∈ name, isNameRest c = true := by
  induction cs generalizing last name with
  | nil => cases h
  | cons c cs ih =>
    rw [comparedRun?] at h
    split at h
    · rename_i more hmore
      obtain ⟨hc, hrun⟩ := Option.ite_none_right_eq_some.mp hmore
      obtain rfl := Option.some.inj h
      exact List.forall_mem_cons.mpr ⟨hc, ih hrun⟩
    · obtain ⟨-, hnil⟩ := Option.ite_none_right_eq_some.mp h
      obtain rfl := Option.some.inj hnil
      exact List.forall_mem_nil _

lemma isCleanColumn_of_filterColumnFrom? {prev : Option Char}
    (h : filterColumnFrom? prev cs = some name) : IsCleanColumn name := by
  induction cs generalizing prev with
  | nil => cases h
  | cons c cs ih =>
    rw [filterColumnFrom?] at h
    split at h
    · rename_i more hmore
      obtain ⟨hstart, hrun⟩ := Option.ite_none_right_eq_some.mp hmore
      obtain ⟨-, hc⟩ := (Bool.and_eq_true _ _).mp hstart
      obtain rfl := Option.some.inj h
      exact isCleanColumn_of_isNameRest (List.cons_ne_nil _ _) (List.forall_mem_cons.mpr
        ⟨isNameRest_of_isFoldedNameStart hc, isNameRest_of_comparedRun? hrun⟩)
    · exact ih h

lemma isCleanColumn_of_mem_sortColumns (h : name ∈ sortColumns text) : IsCleanColumn name := by
  obtain ⟨item, -, hitem⟩ := List.mem_filterMap.mp h
  rw [itemColumn?] at hitem
  split at hitem
  · cases hitem
  · rename_i written rest hread
    obtain ⟨hne, hname⟩ := Option.ite_none_left_eq_some.mp hitem
    obtain rfl := Option.some.inj hname
    exact ⟨isPart_afterLast_undecorate written, by simpa using hne⟩

/-- **Clean names.**  The tables of a statement are clean names, each of them is reported once, and
the first one is what `FROM` names, if there is something in that name.  The columns of a text are
clean names without dots. -/
theorem reportedNames_clean (sql text : List Char) :
    (∀ name ∈ tables sql, IsCleanName name) ∧
      (tables sql).Nodup ∧
      (∀ p : NamedFrom sql, (∃ c ∈ p.name, c ∉ marks ∧ isBlank c = false) →
        (tables sql).head? = some (undecorate p.name)) ∧
      (∀ name ∈ joinColumns text, IsCleanColumn name) ∧
      (∀ name ∈ filterColumn? text, IsCleanColumn name) ∧
      ∀ name ∈ sortColumns text, IsCleanColumn name :=
  ⟨fun _ => isCleanName_of_mem_tables, nodup_tables sql, fun p => p.head?_tables,
    fun _ => isCleanColumn_of_mem_joinColumns, fun _ => isCleanColumn_of_filterColumnFrom?,
    fun _ => isCleanColumn_of_mem_sortColumns⟩

/-- A name with blanks around its dot and in its decorations, which is joined again in another
spelling, and a name of blanks. -/
theorem reportedNames_clean_orders :
    let sql := "SELECT a from [ dbo ] .\t\"the orders\" o JOIN [ ] JOIN dbo.[the orders]".toList
    let text := "[the orders] . k = t.l".toList
    let name := "[ dbo ] .\t\"the orders\"".toList
    (∃ p : NamedFrom sql, p.name = name) ∧
      ('d' ∈ name ∧ 'd' ∉ marks ∧ isBlank 'd' = false) ∧
      tables sql = ["dbo.the orders".toList] ∧ IsCleanName "dbo.the orders".toList ∧
      (tables sql).head? = some (undecorate name) ∧
      joinColumns text = ["k".toList, "l".toList] ∧ IsCleanColumn "l".toList ∧
      filterColumn? text = some "k".toList ∧ IsCleanColumn "k".toList ∧
      sortColumns text = ["k".toList] := by
  intro sql text name
  have hread : qualified? isFoldedNameStart (name ++ " o JOIN [ ] JOIN dbo.[the orders]".toList) =
      some (name, " o JOIN [ ] JOIN dbo.[the orders]".toList) := by decide +kernel
  obtain ⟨-, hqualified, hlongest⟩ :=
    (qualified?_eq_some_iff fun _ => isNameRest_of_isFoldedNameStart).mp hread
  let p : NamedFrom sql :=
    { before := "SELECT a ".toList
      word := "from".toList
      gap := [' ']
      name := name
      rest := " o JOIN [ ] JOIN dbo.[the orders]".toList
      text_eq := by decide +kernel
      lacks := by
        rw [Lacks]
        decide +kernel
      opens := opensWord_lastChar_iff.mp (by decide)
      spells := by decide +kernel
      separated := by decide
      blank := List.forall_mem_singleton.mpr (by decide)
      qualified := hqualified
      longest := hlongest }
  have hd : 'd' ∈ name ∧ 'd' ∉ marks ∧ isBlank 'd' = false := by decide +kernel
  have htables : tables sql = ["dbo.the orders".toList] := by decide +kernel
  have hjoin : joinColumns text = ["k".toList, "l".toList] := by decide +kernel
  have hfilter : filterColumn? text = some "k".toList := by decide +kernel
  obtain ⟨hclean, -, hhead, hjoined, hcompared, -⟩ := reportedNames_clean sql text
  exact ⟨⟨p, rfl⟩, hd, htables, hclean _ (by simp [htables]), hhead p ⟨'d', hd⟩, hjoin,
    hjoined _ (by simp [hjoin]), hfilter, hcompared _ hfilter, by decide +kernel⟩

end SqlAdvice.Sql
