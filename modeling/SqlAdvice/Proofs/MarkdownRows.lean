import SqlAdvice.Draw.Source
import SqlAdvice.Proofs.ClauseTexts
import SqlAdvice.Proofs.DrawnCosts
import SqlAdvice.Proofs.Fallible
import SqlAdvice.Proofs.Features
import SqlAdvice.Proofs.JsonReading
import SqlAdvice.Proofs.JsonWriting
import SqlAdvice.Proofs.Stages
import SqlAdvice.Proofs.WrittenReports

/-!
# Rows of the plan in Markdown

The plan is reported as a table with a row for each operation.  `rowLines` finds the lines of these
rows in a report, and `ReadsAs` reads one of them: a bar ends a cell, and a backslash takes from the
character behind it what it means.  The rows of a report are faithful (`FaithfulRows`) if there is
one for each operation, in order, and each reads as the number, the kind, the cost and the
description of its operation.

Of the characters that mean something in a row only the bar is escaped.  A backslash in a
description stands for the character behind it when the row is read, and a line end breaks the row;
where a description holds neither, its row is faithful (`faithfulRows_iff`).  The texts of clauses
hold no line ends, as they are cleaned, but names of tables are reported as they are written
(`faithfulRows_of_outcome`).
-/

namespace SqlAdvice.Report.Markdown

open SqlAdvice.Text SqlAdvice.Number

/-! ## Reading the table -/

/-- The line between the head of the table and its rows. -/
def separator : List Char :=
  "|---|-----------|------|-------------|".toList

/-- The lines behind the separator, up to the next empty line. -/
def rowLines (report : List Char) : List (List Char) :=
  (((pieces (· == '\n') report).dropWhile (· != separator)).drop 1).takeWhile (· != [])

/-- The texts that bars part, with `cell` in front.  A backslash takes from the character behind it
what it means. -/
def cellsFrom (cell : List Char) : List Char → List (List Char)
  | [] => [cell]
  | '|' :: cs => cell :: cellsFrom [] cs
  | '\\' :: c :: cs => cellsFrom (cell ++ [c]) cs
  | c :: cs => cellsFrom (cell ++ [c]) cs

/-- A line is a row of some texts: there are bars at its ends and between the texts, and a blank
beside each bar. -/
def ReadsAs (line : List Char) (texts : List (List Char)) : Prop :=
  cellsFrom [] line = [] :: texts.map (fun w => ' ' :: w ++ [' ']) ++ [[]]

/-- What the row of an operation is to say. -/
def operationTexts (op : Operation) : List (List Char) :=
  [natDigits op.id, op.kind.name.toList, natDigits op.cost, op.description.toList]

/-- A report has one row for each operation of an analysis, in order, and the row says what it is to
say. -/
def FaithfulRows (report : String) (a : Analysis) : Prop :=
  List.Forall₂ ReadsAs (rowLines report.toList) (a.plan.operations.map operationTexts)

/-! ## Cells -/

section Cells

variable {cell cs d w : List Char} {c : Char}

lemma cellsFrom_plain (hbar : c ≠ '|') (hslash : c ≠ '\\') :
    cellsFrom cell (c :: cs) = cellsFrom (cell ++ [c]) cs := by
  rw [cellsFrom.eq_4]
  · exact hbar
  · exact fun _ _ h => absurd h hslash

/-- What is in the cells is in the line. -/
lemma mem_of_mem_cellsFrom (hw : w ∈ cellsFrom cell cs) (hc : c ∈ w) : c ∈ cell ∨ c ∈ cs := by
  fun_induction cellsFrom cell cs with
  | case1 cell => exact .inl (List.mem_singleton.mp hw ▸ hc)
  | case2 cell cs ih =>
    obtain rfl | hw := List.mem_cons.mp hw
    · exact .inl hc
    · exact .inr (List.mem_cons_of_mem _ ((ih hw).resolve_left List.not_mem_nil))
  | case3 cell d cs ih => grind
  | case4 cell d cs _ _ ih => grind

/-- A text with a backslash in front of every bar. -/
def escaped (d : List Char) : List Char :=
  d.flatMap fun c => if c == '|' then ['\\', '|'] else [c]

lemma escaped_cons_bar (d : List Char) : escaped ('|' :: d) = '\\' :: '|' :: escaped d :=
  rfl

lemma escaped_cons (hbar : c ≠ '|') (d : List Char) : escaped (c :: d) = c :: escaped d := by
  simp [escaped, hbar]

lemma escaped_of_not_mem (h : '|' ∉ d) : escaped d = d := by
  have hplain : ∀ c ∈ d, (if c == '|' then ['\\', '|'] else [c]) = [c] := by
    intro c hc
    rw [if_neg]
    simpa using ne_of_mem_of_not_mem hc h
  exact (List.flatMap_congr hplain).trans (List.flatMap_singleton' d)

/-- Escaping adds backslashes only. -/
lemma mem_of_mem_escaped (h : c ∈ escaped d) : c = '\\' ∨ c ∈ d := by
  obtain ⟨e, he, hc⟩ := List.mem_flatMap.mp h
  split at hc
  · rename_i hbar
    obtain rfl | rfl : c = '\\' ∨ c = '|' := by simpa using hc
    · exact .inl rfl
    · exact .inr (eq_of_beq hbar ▸ he)
  · exact .inr (List.mem_singleton.mp hc ▸ he)

/-- Without backslashes an escaped text is read as it was. -/
lemma cellsFrom_escaped (hd : '\\' ∉ d) (cell cs : List Char) :
    cellsFrom cell (escaped d ++ cs) = cellsFrom (cell ++ d) cs := by
  induction d generalizing cell with
  | nil => simp [escaped]
  | cons c d ih =>
    obtain ⟨hc, hrest⟩ := List.ne_and_not_mem_of_not_mem_cons hd
    by_cases hbar : c = '|'
    · subst hbar
      rw [escaped_cons_bar, List.cons_append, List.cons_append, cellsFrom, ih hrest]
      simp
    · rw [escaped_cons hbar, List.cons_append, cellsFrom_plain hbar hc.symm, ih hrest]
      simp

/-- A text that needs no escapes is read up to the bar behind it. -/
lemma cellsFrom_text (hbar : '|' ∉ w) (hslash : '\\' ∉ w) (cs : List Char) :
    cellsFrom [' '] (w ++ (" | ".toList ++ cs)) = (' ' :: w ++ [' ']) :: cellsFrom [' '] cs := by
  have hread := cellsFrom_escaped hslash [' '] (" | ".toList ++ cs)
  rw [escaped_of_not_mem hbar] at hread
  rw [hread]
  simp [cellsFrom]

/-- How many characters of a line are read into cells. -/
def readLength : List Char → Nat
  | [] => 0
  | '|' :: cs => readLength cs
  | '\\' :: _ :: cs => readLength cs + 1
  | _ :: cs => readLength cs + 1

lemma length_cellsFrom (cell cs : List Char) :
    (cellsFrom cell cs).flatten.length = cell.length + readLength cs := by
  fun_induction cellsFrom cell cs with
  | case1 cell => simp [readLength]
  | case2 cell cs ih =>
    rw [List.flatten_cons, List.length_append, ih, readLength, List.length_nil, Nat.zero_add]
  | case3 cell c cs ih =>
    rw [ih, readLength, List.length_append, List.length_singleton, Nat.add_assoc, Nat.add_comm 1]
  | case4 cell c cs hbar hslash ih =>
    rw [ih, readLength.eq_4 c cs hbar hslash, List.length_append, List.length_singleton,
      Nat.add_assoc, Nat.add_comm 1]

/-- One character is read for one that is not a backslash, be it escaped or not. -/
lemma readLength_escaped_cons (hslash : c ≠ '\\') (d cs : List Char) :
    readLength (escaped (c :: d) ++ cs) = readLength (escaped d ++ cs) + 1 := by
  by_cases hbar : c = '|'
  · subst hbar
    rw [escaped_cons_bar, List.cons_append, List.cons_append, readLength]
  · rw [escaped_cons hbar, List.cons_append, readLength.eq_4]
    · exact hbar
    · exact fun _ _ h => absurd h hslash

/-- One character is read for a backslash and the character behind it.  Behind the backslash a bar
is escaped no more, and ends the cell. -/
lemma readLength_escaped_slash (c : Char) (d cs : List Char) :
    readLength (escaped ('\\' :: c :: d) ++ cs) = readLength (escaped d ++ cs) + 1 := by
  have hslash : '\\' ≠ '|' := by decide
  by_cases hbar : c = '|'
  · subst hbar
    rw [escaped_cons hslash, escaped_cons_bar, List.cons_append, List.cons_append, List.cons_append,
      readLength, readLength]
  · rw [escaped_cons hslash, escaped_cons hbar, List.cons_append, List.cons_append, readLength]

/-- Fewer characters are read than were escaped if there was a backslash. -/
lemma readLength_escaped (d : List Char) :
    readLength (escaped d ++ " |".toList) + (if '\\' ∈ d then 1 else 0) ≤ d.length + 1 := by
  induction d using List.twoStepInduction with
  | nil => decide
  | singleton c =>
    by_cases hslash : c = '\\'
    · subst hslash
      decide
    · have hrest : readLength (escaped [] ++ " |".toList) = 1 := by decide
      rw [readLength_escaped_cons hslash, hrest]
      simp [Ne.symm hslash]
  | cons_cons c e d ih ih' =>
    by_cases hslash : c = '\\'
    · subst hslash
      rw [readLength_escaped_slash, if_pos List.mem_cons_self, List.length_cons, List.length_cons]
      omega
    · have hmem : '\\' ∈ c :: e :: d ↔ '\\' ∈ e :: d := by simp [Ne.symm hslash]
      have hrest := ih' e
      rw [readLength_escaped_cons hslash, if_congr hmem rfl rfl, List.length_cons]
      omega

end Cells

/-! ## The row of an operation -/

section Row

variable {op : Operation}

lemma toList_escapeBars (s : String) : (escapeBars s).toList = escaped s.toList := by
  rw [escapeBars, String.toList_ofList]
  rfl

lemma toList_rowText (op : Operation) :
    (rowText op).toList = "| ".toList ++ (natDigits op.id ++ (" | ".toList ++
      (op.kind.name.toList ++ (" | ".toList ++ (natDigits op.cost ++ (" | ".toList ++
        (escaped op.description.toList ++ " |".toList))))))) := by
  simp [rowText, Number.decimalNat, toList_escapeBars]

/-- A number is written in digits. -/
lemma not_mem_natDigits {c : Char} (hc : Json.isDigit c = false) (n : Nat) : c ∉ natDigits n :=
  not_mem_of_apply (Json.natText_natDigits n).isDigit hc

/-- The cells in front of the description, which is then left to be read. -/
lemma cellsFrom_rowText (op : Operation) :
    cellsFrom [] (rowText op).toList =
      [] :: (' ' :: natDigits op.id ++ [' ']) :: (' ' :: op.kind.name.toList ++ [' ']) ::
        (' ' :: natDigits op.cost ++ [' ']) ::
          cellsFrom [' '] (escaped op.description.toList ++ " |".toList) := by
  have hkind : '|' ∉ op.kind.name.toList ∧ '\\' ∉ op.kind.name.toList := by
    cases op.kind <;> decide
  have hfront : ∀ cs, cellsFrom [] ("| ".toList ++ cs) = [] :: cellsFrom [' '] cs := fun cs => by
    simp [cellsFrom]
  rw [toList_rowText, hfront,
    cellsFrom_text (not_mem_natDigits (by decide) _) (not_mem_natDigits (by decide) _),
    cellsFrom_text hkind.1 hkind.2,
    cellsFrom_text (not_mem_natDigits (by decide) _) (not_mem_natDigits (by decide) _)]

/-- **One row.**  It is read as it should be exactly if the description holds no backslash. -/
lemma readsAs_rowText_iff :
    ReadsAs (rowText op).toList (operationTexts op) ↔ '\\' ∉ op.description.toList := by
  have hreads : ReadsAs (rowText op).toList (operationTexts op) ↔
      cellsFrom [' '] (escaped op.description.toList ++ " |".toList) =
        [' ' :: op.description.toList ++ [' '], []] := by
    rw [ReadsAs, cellsFrom_rowText]
    simp [operationTexts]
  rw [hreads]
  constructor
  · intro hcells hslash
    have hlength := length_cellsFrom [' '] (escaped op.description.toList ++ " |".toList)
    have hfull : [' ' :: op.description.toList ++ [' '], []].flatten.length =
        op.description.toList.length + 2 := by simp
    have hread := readLength_escaped op.description.toList
    rw [hcells, hfull, List.length_singleton] at hlength
    rw [if_pos hslash] at hread
    omega
  · intro hslash
    rw [cellsFrom_escaped hslash]
    simp [cellsFrom]

end Row

/-! ## The lines of a report -/

/-- The lines in front of the rows, the last of them being the separator. -/
lemma exists_front (p : Plan) :
    ∃ front : List (List Char), (planText p).map String.toList =
        front ++ separator :: (p.operations.map fun op => (rowText op).toList) ∧
      ∀ line ∈ front, line ≠ separator ∧ '\n' ∉ line := by
  have htitle : ∀ line ∈ ["## Query Execution Plan".toList, [],
      "| # | Operation | Cost | Description |".toList], line ≠ separator ∧ '\n' ∉ line := by decide
  have htotal : "**Total cost:** ".toList ++ natDigits p.totalCost ≠ separator ∧
      '\n' ∉ "**Total cost:** ".toList ++ natDigits p.totalCost :=
    ⟨fun h => absurd (List.cons.inj (h : '*' :: _ = '|' :: _)).1 (by decide),
      List.not_mem_append (by decide) (not_mem_natDigits (by decide) _)⟩
  refine ⟨["## Query Execution Plan".toList, [], "**Total cost:** ".toList ++ natDigits p.totalCost,
    [], "| # | Operation | Cost | Description |".toList], ?_, ?_⟩
  · rw [planText, List.map_append, List.map_map]
    simp only [List.map_cons, List.map_nil, String.toList_append, decimalNat, String.toList_ofList]
    rfl
  · simp only [List.forall_mem_cons] at htitle ⊢
    exact ⟨htitle.1, htitle.2.1, htotal, htitle.2.1, htitle.2.2⟩

/-- An empty line is behind the rows. -/
lemma exists_behind (a : Analysis) :
    ∃ more, warningLines a.plan ++ recommendationLines a.recommendations ++
      statisticsText a.statistics = "" :: more := by
  rw [warningLines, recommendationLines]
  split
  · exact ⟨_, rfl⟩
  · exact ⟨_, rfl⟩

/-- What comes behind the separator. -/
lemma rowLines_reportText (a : Analysis) :
    ∃ more, rowLines (reportText a).toList =
      ((a.plan.operations.flatMap fun op => pieces (· == '\n') (rowText op).toList) ++
        [] :: more).takeWhile (· != []) := by
  obtain ⟨front, hplan, hfront⟩ := exists_front a.plan
  obtain ⟨more, hbehind⟩ := exists_behind a
  have htext : (reportText a).toList = joinPieces '\n' (front ++ separator ::
      ((a.plan.operations.map fun op => (rowText op).toList) ++
        [] :: more.map String.toList)) := by
    have hlines : planText a.plan ++ warningLines a.plan ++ recommendationLines a.recommendations ++
        statisticsText a.statistics = planText a.plan ++ "" :: more := by
      rw [← hbehind, List.append_assoc, List.append_assoc, List.append_assoc]
    rw [reportText, joinLines, String.toList_intercalate, hlines, List.map_append, hplan,
      List.append_assoc, List.cons_append]
    rfl
  have hkeep : front.flatMap (pieces (· == '\n')) = front :=
    (List.flatMap_congr fun line hline => pieces_eq_singleton (hfront line hline).2).trans
      (List.flatMap_singleton' front)
  have hpieces : pieces (· == '\n') (reportText a).toList = front ++ separator ::
      ((a.plan.operations.flatMap fun op => pieces (· == '\n') (rowText op).toList) ++
        [] :: (more.map String.toList).flatMap (pieces (· == '\n'))) := by
    rw [htext, pieces_joinPieces (by simp), List.flatMap_append, hkeep, List.flatMap_cons,
      pieces_eq_singleton (w := separator) (by decide), List.flatMap_append, List.flatMap_map,
      List.flatMap_cons]
    rfl
  refine ⟨(more.map String.toList).flatMap (pieces (· == '\n')), ?_⟩
  have hskip : ∀ line ∈ front, (line != separator) = true := fun line hline =>
    bne_iff_ne.mpr (hfront line hline).1
  rw [rowLines, hpieces, List.dropWhile_append_of_pos hskip, List.dropWhile_cons, bne_self_eq_false,
    if_neg Bool.false_ne_true, List.drop_succ_cons, List.drop_zero]

lemma newline_not_mem_rowText {op : Operation} (h : '\n' ∉ op.description.toList) :
    '\n' ∉ (rowText op).toList := by
  have hescaped : '\n' ∉ escaped op.description.toList := fun hmem =>
    (mem_of_mem_escaped hmem).elim (by decide) h
  have hkind : '\n' ∉ op.kind.name.toList := by cases op.kind <;> decide
  have hdigits : ∀ n, '\n' ∉ natDigits n := not_mem_natDigits (by decide)
  simp [toList_rowText, hescaped, hkind, hdigits]

/-- The rows are the lines behind the separator, unless a description has more than one line. -/
lemma rowLines_of_lines {a : Analysis}
    (h : ∀ op ∈ a.plan.operations, '\n' ∉ op.description.toList) :
    rowLines (reportText a).toList = a.plan.operations.map fun op => (rowText op).toList := by
  obtain ⟨more, hrows⟩ := rowLines_reportText a
  have hpieces : (a.plan.operations.flatMap fun op => pieces (· == '\n') (rowText op).toList) =
      a.plan.operations.map fun op => (rowText op).toList := by
    rw [List.map_eq_flatMap]
    exact List.flatMap_congr fun op hop =>
      pieces_eq_singleton (newline_not_mem_rowText (h op hop))
  have hfilled : ∀ line ∈ a.plan.operations.map fun op => (rowText op).toList,
      (line != []) = true := by
    rw [List.forall_mem_map]
    intro op _
    simp [toList_rowText]
  rw [hrows, hpieces, List.takeWhile_append_of_pos hfilled]
  simp

lemma not_mem_of_mem_rowLines {report line : List Char} (h : line ∈ rowLines report) :
    '\n' ∉ line := by
  have hmem : line ∈ pieces (· == '\n') report :=
    (List.dropWhile_sublist _).subset (List.mem_of_mem_drop ((List.takeWhile_prefix _).subset h))
  exact not_mem_of_mem_pieces hmem

/-! ## Faithful rows -/

/-- A text that a row can say: it holds no backslash and no line end. -/
def FitsRow (s : String) : Prop :=
  '\\' ∉ s.toList ∧ '\n' ∉ s.toList

instance (s : String) : Decidable (FitsRow s) :=
  inferInstanceAs (Decidable (_ ∧ _))

/-- What a row says is in its line. -/
lemma mem_of_readsAs {line w : List Char} {texts : List (List Char)} {c : Char}
    (h : ReadsAs line texts) (hw : w ∈ texts) (hc : c ∈ w) : c ∈ line := by
  have hcell : ' ' :: w ++ [' '] ∈ cellsFrom [] line := by
    rw [h]
    simp [hw]
  exact (mem_of_mem_cellsFrom hcell (by simp [hc])).resolve_left List.not_mem_nil

lemma faithfulRows_iff {a : Analysis} :
    FaithfulRows (reportText a) a ↔ ∀ op ∈ a.plan.operations, FitsRow op.description := by
  have hlines : FaithfulRows (reportText a) a →
      ∀ op ∈ a.plan.operations, '\n' ∉ op.description.toList := by
    intro h op hop hnewline
    obtain ⟨line, hline, hreads⟩ := exists_mem_of_forall₂ h (List.mem_map_of_mem hop)
    exact not_mem_of_mem_rowLines hline (mem_of_readsAs hreads (by simp [operationTexts]) hnewline)
  have hreads : (∀ op ∈ a.plan.operations, '\n' ∉ op.description.toList) →
      (FaithfulRows (reportText a) a ↔
        ∀ op ∈ a.plan.operations, '\\' ∉ op.description.toList) := by
    intro h
    rw [FaithfulRows, rowLines_of_lines h, List.forall₂_map_left_iff, List.forall₂_map_right_iff,
      List.forall₂_same]
    exact forall₂_congr fun op _ => readsAs_rowText_iff
  constructor
  · intro h op hop
    exact ⟨(hreads (hlines h)).mp h op hop, hlines h op hop⟩
  · intro h
    exact (hreads fun op hop => (h op hop).2).mpr fun op hop => (h op hop).1

/-! ## Descriptions and features -/

lemma fitsRow_append {x y : String} : FitsRow (x ++ y) ↔ FitsRow x ∧ FitsRow y := by
  simp only [FitsRow, String.toList_append, List.mem_append, not_or]
  exact and_and_and_comm

/-- The descriptions of the steps fit rows exactly if the texts of the features do. -/
lemma forall_fitsRow_steps {f : Sql.Features} {r : Registry} :
    (∀ step ∈ Plan.steps f r, FitsRow step.description) ↔
      (∀ t ∈ f.tables, FitsRow t) ∧
        ∀ x ∈ f.joinPredicates ++ f.conditions ++ f.orderBy.toList, FitsRow x := by
  have hscan : ∀ t, FitsRow (Plan.scanStep r t).description ↔ FitsRow t := by
    intro t
    have hindexed : FitsRow "Clustered index scan on " := by decide
    have htable : FitsRow "Table scan on " := by decide
    rw [Plan.scanStep]
    split <;> simp [fitsRow_append, hindexed, htable]
  have hjoin : FitsRow "Hash match join on " := by decide
  have hfilter : FitsRow "Filter rows where " := by decide
  have hsort : FitsRow "Sort by " := by decide
  simp only [Plan.steps, List.forall_mem_append, List.forall_mem_map, hscan, fitsRow_append, hjoin,
    hfilter, hsort, true_and]
  tauto

/-- The text of a clause has one line. -/
lemma newline_not_mem_clauseText {sql x : List Char} (h : x ∈ Sql.clauseTexts sql) :
    '\n' ∉ x := by
  obtain ⟨fragment, -, rfl, hne⟩ := Sql.exists_fragment h
  intro hnewline
  exact absurd ((Sql.tidy_clean hne).eq_space '\n' hnewline (by decide)) (by decide)

/-- **Rows of plans in Markdown.**  The report on an analysis has faithful rows exactly if the tables
have names without backslashes and line ends, and there are no backslashes in the join predicates, the
conditions and the `ORDER BY` text.  There is a report exactly if its numbers can be written. -/
theorem faithfulRows_of_outcome {σ : Type} {z : Analyzer σ} {sql registry : Value} {s s' : σ}
    {a : Analysis} (h : z.outcome sql registry s = (.ok a, s')) :
    (∀ report, render a = .ok report →
      (FaithfulRows report a ↔
        (∀ t ∈ a.features.tables, '\\' ∉ t.toList ∧ '\n' ∉ t.toList) ∧
          ∀ x ∈ a.features.joinPredicates ++ a.features.conditions ++ a.features.orderBy.toList,
            '\\' ∉ x.toList)) ∧
    ((∃ report, render a = .ok report) ↔ a.HasShortNumbers) := by
  refine ⟨fun report hreport => ?_, (isWritten_render a).exists_iff⟩
  obtain ⟨r, hstages⟩ := Analyzer.exists_stages_of_outcome h
  obtain ⟨s₁, hplan, -⟩ := Analyzer.exists_synthesize_of_stages hstages
  obtain ⟨-, hextract⟩ := Analyzer.extract_of_outcome h
  have hclauses : a.features.joinPredicates ++ a.features.conditions ++
      a.features.orderBy.toList = (Sql.clauseTexts a.sql.toList).map String.ofList := by
    rw [Sql.eq_read_of_extract hextract]
    simp [Sql.Features.read, Sql.clauseTexts, Option.toList_map]
  have hlines : ∀ x ∈ a.features.joinPredicates ++ a.features.conditions ++
      a.features.orderBy.toList, '\n' ∉ x.toList := by
    rw [hclauses, List.forall_mem_map]
    intro x hx
    rw [String.toList_ofList]
    exact newline_not_mem_clauseText hx
  have hdescriptions : (∀ op ∈ a.plan.operations, FitsRow op.description) ↔
      ∀ step ∈ Plan.steps a.features r, FitsRow step.description := by
    rw [← List.forall_mem_map (f := Operation.description) (P := FitsRow),
      Plan.descriptions_of_synthesize hplan, List.forall_mem_map]
  rw [((isWritten_render a report).mp hreport).2, faithfulRows_iff, hdescriptions,
    forall_fitsRow_steps]
  exact and_congr_right' (forall₂_congr fun x hx => and_iff_left (hlines x hx))

/-- An outcome of which a report can be computed, and some other part, has that report. -/
lemma exists_report_of_part {σ α : Type} {o : Except AnalysisFault Analysis × σ}
    {g : Analysis → α} {x : α}
    (h : o.1.toOption.map (fun a => (g a, (render a).toOption.isSome)) = some (x, true)) :
    ∃ a report, o = (.ok a, o.2) ∧ render a = .ok report ∧ g a = x := by
  obtain ⟨a, ho, hpart⟩ := Analyzer.exists_analysis_of_part h
  obtain ⟨hx, hsome⟩ := Prod.mk.inj hpart
  cases hreport : render a with
  | ok report => exact ⟨a, report, ho, hreport, hx⟩
  | error fault => simp [hreport, Except.toOption] at hsome

/-- Bars in a condition. -/
theorem faithfulRows_of_outcome_script :
    let z : Analyzer (List Int) := { source := Script.source }
    ∃ a report s, z.outcome (.text "SELECT a FROM t WHERE a || b = 'x'") .null [5, 7, 11, 40, 2000,
        3000, 500, 600, 700, 800] = (.ok a, s) ∧ render a = .ok report ∧ FaithfulRows report a := by
  intro z
  obtain ⟨a, report, ha, hreport, hfeatures⟩ := exists_report_of_part
    (o := z.outcome (.text "SELECT a FROM t WHERE a || b = 'x'") .null [5, 7, 11, 40, 2000, 3000,
      500, 600, 700, 800]) (g := (·.features))
    (x := { kind := .select, tables := ["t"], conditions := ["a || b = 'x'"] }) (by decide +kernel)
  have hfits : (∀ t ∈ a.features.tables, '\\' ∉ t.toList ∧ '\n' ∉ t.toList) ∧
      ∀ x ∈ a.features.joinPredicates ++ a.features.conditions ++ a.features.orderBy.toList,
        '\\' ∉ x.toList := by
    rw [hfeatures]
    decide
  exact ⟨a, report, _, ha, hreport, ((faithfulRows_of_outcome ha).1 report hreport).mpr hfits⟩

/-- **Rows that are not faithful.**  A backslash in a condition is not escaped, and the name of a
table may have two lines. -/
theorem rows_not_faithful :
    let z : Analyzer (List Int) := { source := Script.source }
    let draws : List Int := [5, 7, 11, 40, 2000, 3000, 500, 600, 700, 800]
    (∃ a report s, z.outcome (.text "SELECT a FROM t WHERE b = '\\'") .null draws = (.ok a, s) ∧
      render a = .ok report ∧ ¬FaithfulRows report a) ∧
    ∃ a report s, z.outcome (.text "SELECT a FROM [t\nu]") .null draws = (.ok a, s) ∧
      render a = .ok report ∧ ¬FaithfulRows report a := by
  intro z draws
  let descriptions (a : Analysis) : List String := a.plan.operations.map (·.description)
  have hnot : ∀ {a : Analysis} {report : String} {ds : List String}, render a = .ok report →
      descriptions a = ds → (∃ d ∈ ds, ¬FitsRow d) → ¬FaithfulRows report a := by
    rintro a report ds hreport rfl ⟨d, hd, hfits⟩ hrows
    obtain ⟨op, hop, rfl⟩ := List.mem_map.mp hd
    rw [((isWritten_render a report).mp hreport).2] at hrows
    exact hfits (faithfulRows_iff.mp hrows op hop)
  obtain ⟨a, reportA, ha, hreportA, hcondition⟩ := exists_report_of_part
    (o := z.outcome (.text "SELECT a FROM t WHERE b = '\\'") .null draws)
    (g := descriptions) (x := ["Table scan on t", "Filter rows where b = '\\'"]) (by decide +kernel)
  obtain ⟨b, reportB, hb, hreportB, htable⟩ := exists_report_of_part
    (o := z.outcome (.text "SELECT a FROM [t\nu]") .null draws)
    (g := descriptions) (x := ["Table scan on t\nu"]) (by decide +kernel)
  exact ⟨⟨a, reportA, _, ha, hreportA, hnot hreportA hcondition (by decide)⟩,
    b, reportB, _, hb, hreportB, hnot hreportB htable (by decide)⟩

end SqlAdvice.Report.Markdown
