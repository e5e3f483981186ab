import SqlAdvice.Proofs.Cutting
import SqlAdvice.Proofs.Query
import SqlAdvice.Proofs.WholeWords
import Mathlib.Data.List.Basic
import Mathlib.Tactic.Common

/-!
# What the text of a query is made of

The words of the text of a query are its identifiers, its numbers, the directions of sorting and
the keywords that are written out.  Identifiers are not reserved, so a part of the text holds those
keywords only that it writes out itself: that is what the lemmas about `Lacks` say, part by part.

The other characters of the text are spaces, dots, commas, signs of comparison (`isPlain` with the
word characters) and decoration around the names of tables.

Predicates, conditions and lists to sort by are tidy, so cleaning leaves them as they are and takes
the spaces around them away (`clean_spaced`).
-/

namespace SqlAdvice.Sql

open SqlAdvice.Text

/-! ## Plain characters -/

/-- Holds of word characters, of what stands between words and of the signs of comparison. -/
def isPlain (c : Char) : Bool :=
  isWord c || [' ', '.', ',', '=', '<', '>', '!'].contains c

lemma isPlain_of_isWord {c : Char} (h : isWord c = true) : isPlain c = true := by
  rw [isPlain, h, Bool.true_or]

/-- Characters with a meaning of their own to an extractor are not plain. -/
lemma ne_of_isPlain {c : Char} (h : isPlain c = true) :
    ∀ d ∈ ['\'', '"', '[', ']', '\x60', '(', ')', ';'], c ≠ d := by
  have hnone : ∀ d ∈ ['\'', '"', '[', ']', '\x60', '(', ')', ';'], isPlain d = false :=
    forall_mem_of_any (by decide)
  rintro d hd rfl
  exact Bool.false_ne_true ((hnone c hd).symm.trans h)

lemma isQuote_of_isPlain {c : Char} (h : isPlain c = true) : Literal.isQuote c = false := by
  have hne := ne_of_isPlain h
  simp [Literal.isQuote, hne '\'' (by simp), hne '"' (by simp)]

/-- No literal is opened in a plain text. -/
lemma openAfter_of_isPlain {cs : List Char} (h : ∀ c ∈ cs, isPlain c = true) :
    Literal.openAfter none cs = none := by
  induction cs with
  | nil => rfl
  | cons c cs ih =>
    obtain ⟨hc, hcs⟩ := List.forall_mem_cons.mp h
    rw [Literal.openAfter, List.foldl_cons, Literal.next, isQuote_of_isPlain hc]
    exact ih hcs

/-! ## Identifiers and numbers -/

lemma isWord_of_isDigit {c : Char} (h : c.isDigit = true) : isWord c = true :=
  isWord_of_isAlphanum (by rw [Char.isAlphanum, h, Bool.or_true])

/-- Ignoring case leaves ASCII letters, digits and underscores to their upper case. -/
lemma foldCase_of_ascii {c : Char} (h : c.isAlphanum = true ∨ c = '_') :
    foldCase c = c.toUpper := by
  have hnone : ∀ d ∈ ['İ', 'ı', 'ſ', '\u212A'], (d.isAlphanum || d == '_') = false :=
    forall_mem_of_any (by decide)
  have hne : ∀ d ∈ ['İ', 'ı', 'ſ', '\u212A'], c ≠ d := by
    rintro d hd rfl
    have hascii : (c.isAlphanum || c == '_') = true := by simpa using h
    exact Bool.false_ne_true ((hnone c hd).symm.trans hascii)
  simp [foldCase, hne 'İ' (by simp), hne 'ı' (by simp), hne 'ſ' (by simp), hne '\u212A' (by simp)]

namespace Identifier

lemma ascii (i : Identifier) : ∀ c ∈ i.text, c.isAlphanum = true ∨ c = '_' := by
  refine List.forall_mem_cons.mpr ⟨?_, i.ascii_more⟩
  have hfirst := i.isNameStart_first
  rw [isNameStart, Bool.or_eq_true, beq_iff_eq] at hfirst
  exact hfirst.imp_left fun h => by rw [Char.isAlphanum, h, Bool.true_or]

lemma isWord (i : Identifier) : ∀ c ∈ i.text, Text.isWord c = true := by
  intro c hc
  obtain h | rfl := i.ascii c hc
  · exact isWord_of_isAlphanum h
  · decide

/-- An identifier is no reserved keyword. -/
lemma lacks (i : Identifier) : Lacks reserved i.text := by
  refine (lacks_word i.isWord).mpr fun k hk => ?_
  have hupper : i.text.map foldCase = i.text.map Char.toUpper :=
    List.map_congr_left fun c hc => foldCase_of_ascii (i.ascii c hc)
  rw [hupper]
  exact i.not_reserved k hk

end Identifier

/-- A text that begins with a digit is no keyword. -/
lemma lacks_number {ks : List Keyword} (c : Condition) : Lacks ks c.number := by
  refine (lacks_word fun d hd => isWord_of_isDigit (c.isDigit_number d hd)).mpr fun k _ h => ?_
  obtain ⟨d, more, hnumber⟩ := List.exists_cons_of_ne_nil c.number_ne_nil
  have hdigit : d.isDigit = true := c.isDigit_number d (hnumber ▸ List.mem_cons_self)
  have hletter : (foldCase d).isUpper = true := by
    refine isUpper_of_mem_letters (k := k) ?_
    rw [← h, hnumber]
    exact List.mem_cons_self
  rw [foldCase_of_ascii (.inl (by rw [Char.isAlphanum, hdigit, Bool.or_true]))] at hletter
  have hupper := isAlpha_of_toUpper hletter
  rw [Char.isDigit_iff_toNat] at hdigit
  rw [isAlpha_iff] at hupper
  have hnine : '9'.toNat = 57 := rfl
  omega

/-! ## The keywords of a part -/

lemma closesWord_append {a b : List Char} (ha : closesWord a = true) (hb : closesWord b = true) :
    closesWord (a ++ b) = true := by
  cases a with
  | nil => exact hb
  | cons c a => exact ha

lemma closesWord_flatMap {α : Type} {f : α → List Char} (hf : ∀ x, closesWord (f x) = true)
    (l : List α) : closesWord (l.flatMap f) = true := by
  induction l with
  | nil => rfl
  | cons x l ih => exact closesWord_append (hf x) ih

section Lacks

variable {ks : List Keyword}

@[simp] lemma lacks_append_space {a b : List Char} :
    Lacks ks (a ++ ' ' :: b) ↔ Lacks ks a ∧ Lacks ks b :=
  lacks_append_cons (by decide)

@[simp] lemma lacks_space {b : List Char} : Lacks ks (' ' :: b) ↔ Lacks ks b :=
  lacks_cons (by decide)

/-- A text that lacks keywords is silent about them up to the space behind it. -/
lemma silent_space {cs rest : List Char} {prev : Option Char} (h : Lacks ks cs) :
    Silent ks rest prev (cs ++ [' ']) :=
  silent_append.mpr ⟨silent_of_lacks h rfl, silent_mark (by decide)⟩

/-- Parts that begin with a space keep their words when they are put together. -/
lemma lacks_flatMap {α : Type} {f : α → List Char} (hf : ∀ x, closesWord (f x) = true) {l : List α}
    (h : ∀ x ∈ l, Lacks ks (f x)) : Lacks ks (l.flatMap f) := by
  induction l with
  | nil => exact lacks_nil
  | cons x l ih =>
    obtain ⟨hx, hl⟩ := List.forall_mem_cons.mp h
    rw [List.flatMap_cons]
    exact (lacks_append (closesWord_flatMap hf l)).mpr ⟨hx, ih hl⟩

lemma Column.lacks (c : Column) : Lacks reserved c.text :=
  (lacks_append_cons (by decide)).mpr ⟨c.owner.lacks, c.name.lacks⟩

lemma Table.lacks (t : Table) : Lacks reserved t.text := by
  have hmarks : ∀ {m m' : Char}, Text.isWord m = false → Text.isWord m' = false →
      Lacks reserved (m :: t.name.text ++ [m']) := by
    intro m m' hm hm'
    rw [List.cons_append, lacks_cons hm, lacks_append_cons hm']
    exact ⟨t.name.lacks, lacks_nil⟩
  rw [Table.text]
  cases t.decoration with
  | plain => exact t.name.lacks
  | brackets => exact hmarks (by decide) (by decide)
  | doubleQuotes => exact hmarks (by decide) (by decide)
  | backticks => exact hmarks (by decide) (by decide)

lemma JoinWord.lacks (w : JoinWord) (h : ∀ k ∈ [Keyword.JOIN, .INNER, .LEFT], k ∉ ks) :
    Lacks ks w.text := by
  have hjoin := h .JOIN (by simp)
  have hinner := h .INNER (by simp)
  have hleft := h .LEFT (by simp)
  cases w <;> simp [JoinWord.text, hjoin, hinner, hleft]

lemma Join.lacks_predicate (j : Join) : Lacks reserved j.predicate := by
  rw [Join.predicate, lacks_append_space, lacks_cons (by decide), lacks_space]
  exact ⟨j.left.lacks, j.right.lacks⟩

lemma Join.lacks (j : Join) (hks : ks ⊆ reserved)
    (h : ∀ k ∈ [Keyword.JOIN, .INNER, .LEFT, .ON], k ∉ ks) : Lacks ks j.text := by
  have hword := j.word.lacks fun k hk => h k (List.subset_append_left _ [Keyword.ON] hk)
  have hon : Lacks ks Keyword.ON.letters := lacks_letters.mpr (h .ON (by simp))
  simp only [Join.text, List.cons_append, lacks_append_space, lacks_space]
  exact ⟨⟨⟨hword, j.table.lacks.mono hks⟩, hon⟩, j.lacks_predicate.mono hks⟩

lemma Comparison.lacks (c : Comparison) : Lacks ks c.text := by
  have hmarks : ∀ d ∈ c.text, isWord d = false := forall_mem_of_any (by cases c <;> decide)
  revert hmarks
  induction c.text with
  | nil => exact fun _ => lacks_nil
  | cons d cs ih =>
    intro hmarks
    obtain ⟨hd, hcs⟩ := List.forall_mem_cons.mp hmarks
    exact (lacks_cons hd).mpr (ih hcs)

lemma Condition.lacks (c : Condition) : Lacks reserved c.text := by
  rw [Condition.text, lacks_append_space, lacks_append_space]
  exact ⟨⟨c.column.lacks, c.comparison.lacks⟩, lacks_number c⟩

lemma Filter.lacks_moreText (more : List (Connective × Condition)) (hks : ks ⊆ reserved)
    (h : ∀ k ∈ [Keyword.AND, .OR], k ∉ ks) : Lacks ks (Filter.moreText more) := by
  refine lacks_flatMap (fun _ => rfl) fun p _ => ?_
  have hkeyword : Lacks ks p.1.keyword.letters := by
    cases p.1 with
    | and => exact lacks_letters.mpr (h .AND (by simp))
    | or => exact lacks_letters.mpr (h .OR (by simp))
  simp only [List.cons_append, lacks_append_space, lacks_space]
  exact ⟨hkeyword, p.2.lacks.mono hks⟩

lemma closesWord_moreText (more : List (Connective × Condition)) :
    closesWord (Filter.moreText more) = true :=
  closesWord_flatMap (fun _ => rfl) more

lemma Filter.lacks (w : Filter) (hks : ks ⊆ reserved)
    (h : ∀ k ∈ [Keyword.WHERE, .AND, .OR], k ∉ ks) : Lacks ks w.text := by
  have hmore := Filter.lacks_moreText w.more hks fun k hk => h k (List.mem_cons_of_mem _ hk)
  have hwhere : Lacks ks Keyword.WHERE.letters := lacks_letters.mpr (h .WHERE (by simp))
  rw [Filter.text, lacks_append (closesWord_moreText w.more), List.cons_append, lacks_space,
    lacks_append_space]
  exact ⟨⟨hwhere, w.first.lacks.mono hks⟩, hmore⟩

lemma SortItem.lacks (i : SortItem) : Lacks reserved i.text := by
  rw [SortItem.text]
  cases i.direction with
  | none => simpa using i.column.lacks
  | some d =>
    refine lacks_append_space.mpr ⟨i.column.lacks, ?_⟩
    cases d <;> exact (lacks_word (List.all_eq_true.mp (by decide))).mpr (by decide)

lemma listed_cons_cons (a b : List Char) (items : List (List Char)) :
    listed (a :: b :: items) = a ++ ',' :: ' ' :: listed (b :: items) := by
  simp [listed, List.intercalate]

lemma lacks_listed {items : List (List Char)} (h : ∀ w ∈ items, Lacks ks w) :
    Lacks ks (listed items) := by
  induction items with
  | nil => simp [listed, List.intercalate]
  | cons a items ih =>
    obtain ⟨ha, hitems⟩ := List.forall_mem_cons.mp h
    cases items with
    | nil => simpa [listed, List.intercalate] using ha
    | cons b items =>
      rw [listed_cons_cons, lacks_append_cons (by decide), lacks_space]
      exact ⟨ha, ih hitems⟩

lemma lacks_sortText (items : List SortItem) (hks : ks ⊆ reserved)
    (h : ∀ k ∈ [Keyword.ORDER, .BY], k ∉ ks) : Lacks ks (sortText items) := by
  have horder : Lacks ks Keyword.ORDER.letters := lacks_letters.mpr (h .ORDER (by simp))
  have hby : Lacks ks Keyword.BY.letters := lacks_letters.mpr (h .BY (by simp))
  cases items with
  | nil => exact lacks_nil
  | cons i items =>
    have hitems : Lacks ks (listed ((i :: items).map SortItem.text)) := by
      refine lacks_listed fun w hw => ?_
      obtain ⟨i, -, rfl⟩ := List.mem_map.mp hw
      exact i.lacks.mono hks
    simp only [sortText, List.cons_append, lacks_append_space, lacks_space]
    exact ⟨⟨horder, hby⟩, hitems⟩

lemma Query.lacks_head (q : Query) : Lacks reserved q.head := by
  refine lacks_append_space.mpr ⟨lacks_letters.mpr (by decide), lacks_listed fun w hw => ?_⟩
  obtain ⟨i, -, rfl⟩ := List.mem_map.mp hw
  exact i.lacks

lemma Query.lacks_start (q : Query) (hks : ks ⊆ reserved) (hfrom : .FROM ∉ ks) :
    Lacks ks q.start := by
  rw [Query.start, lacks_append_space, lacks_append_space, lacks_letters]
  exact ⟨⟨q.lacks_head.mono hks, hfrom⟩, q.table.lacks.mono hks⟩

lemma closesWord_joins (joins : List Join) : closesWord (joins.flatMap Join.text) = true :=
  closesWord_flatMap (fun _ => rfl) joins

lemma lacks_joins (joins : List Join) (hks : ks ⊆ reserved)
    (h : ∀ k ∈ [Keyword.JOIN, .INNER, .LEFT, .ON], k ∉ ks) : Lacks ks (joins.flatMap Join.text) :=
  lacks_flatMap (fun _ => rfl) fun j _ => j.lacks hks h

lemma Query.closesWord_filterText (q : Query) : closesWord q.filterText = true := by
  rw [Query.filterText]
  cases q.filter <;> rfl

lemma Query.lacks_filterText (q : Query) (hks : ks ⊆ reserved)
    (h : ∀ k ∈ [Keyword.WHERE, .AND, .OR], k ∉ ks) : Lacks ks q.filterText := by
  rw [Query.filterText]
  cases q.filter with
  | none => exact lacks_nil
  | some w => exact w.lacks hks h

lemma closesWord_sortText (items : List SortItem) : closesWord (sortText items) = true := by
  cases items <;> rfl

/-- The text up to the conditions holds the keywords of the joins and `FROM`. -/
lemma Query.lacks_upToJoins (q : Query) (hks : ks ⊆ reserved)
    (h : ∀ k ∈ [Keyword.FROM, .JOIN, .INNER, .LEFT, .ON], k ∉ ks) :
    Lacks ks (q.start ++ q.joins.flatMap Join.text) := by
  have hstart : Lacks ks q.start := q.lacks_start hks (h .FROM (by simp))
  have hjoins : Lacks ks (q.joins.flatMap Join.text) :=
    lacks_joins q.joins hks fun k hk => h k (List.mem_cons_of_mem _ hk)
  exact (lacks_append (closesWord_joins q.joins)).mpr ⟨hstart, hjoins⟩

/-- The text from the conditions on holds their keywords and those of the text to sort by. -/
lemma Query.lacks_fromFilter (q : Query) (hks : ks ⊆ reserved)
    (h : ∀ k ∈ [Keyword.WHERE, .AND, .OR, .ORDER, .BY], k ∉ ks) :
    Lacks ks (q.filterText ++ sortText q.sort) := by
  have hfilter : Lacks ks q.filterText :=
    q.lacks_filterText hks fun k hk => h k (List.subset_append_left _ [Keyword.ORDER, .BY] hk)
  have hsort : Lacks ks (sortText q.sort) :=
    lacks_sortText q.sort hks fun k hk =>
      h k (List.subset_append_right [Keyword.WHERE, .AND, .OR] _ hk)
  exact (lacks_append (closesWord_sortText q.sort)).mpr ⟨hfilter, hsort⟩

end Lacks

/-! ## The characters of a part -/

lemma Identifier.isPlain (i : Identifier) : ∀ c ∈ i.text, Sql.isPlain c = true :=
  fun c hc => isPlain_of_isWord (i.isWord c hc)

lemma Column.isPlain (c : Column) : ∀ d ∈ c.text, Sql.isPlain d = true := by
  rw [Column.text, List.forall_mem_append, List.forall_mem_cons]
  exact ⟨c.owner.isPlain, by decide, c.name.isPlain⟩

lemma isPlain_letters (k : Keyword) : ∀ c ∈ k.letters, isPlain c = true :=
  fun c hc => isPlain_of_isWord (isWord_of_mem_letters c hc)

lemma Join.isPlain_predicate (j : Join) : ∀ c ∈ j.predicate, Sql.isPlain c = true := by
  rw [Join.predicate, List.forall_mem_append, List.forall_mem_cons, List.forall_mem_cons,
    List.forall_mem_cons]
  exact ⟨j.left.isPlain, by decide, by decide, by decide, j.right.isPlain⟩

lemma Condition.isPlain (c : Condition) : ∀ d ∈ c.text, Sql.isPlain d = true := by
  have hcomparison : ∀ d ∈ c.comparison.text, Sql.isPlain d = true :=
    List.all_eq_true.mp (by cases c.comparison <;> decide)
  simp only [Condition.text, List.forall_mem_append, List.forall_mem_cons]
  exact ⟨⟨c.column.isPlain, by decide, hcomparison⟩, by decide,
    fun d hd => isPlain_of_isWord (isWord_of_isDigit (c.isDigit_number d hd))⟩

lemma Filter.isPlain_moreText (more : List (Connective × Condition)) :
    ∀ c ∈ Filter.moreText more, Sql.isPlain c = true := by
  refine List.forall_mem_flatMap.mpr fun p _ => ?_
  simp only [List.cons_append, List.forall_mem_append, List.forall_mem_cons]
  exact ⟨by decide, isPlain_letters _, by decide, p.2.isPlain⟩

lemma SortItem.isPlain (i : SortItem) : ∀ c ∈ i.text, Sql.isPlain c = true := by
  have hdirection : ∀ c ∈ i.direction.elim [] fun d => ' ' :: d.text, Sql.isPlain c = true :=
    List.all_eq_true.mp (by rcases i.direction with _ | _ | _ <;> decide)
  exact List.forall_mem_append.mpr ⟨i.column.isPlain, hdirection⟩

lemma isPlain_listed {items : List (List Char)} (h : ∀ w ∈ items, ∀ c ∈ w, isPlain c = true) :
    ∀ c ∈ listed items, isPlain c = true := by
  induction items with
  | nil => simp [listed, List.intercalate]
  | cons a items ih =>
    obtain ⟨ha, hitems⟩ := List.forall_mem_cons.mp h
    cases items with
    | nil => simpa [listed, List.intercalate] using ha
    | cons b items =>
      rw [listed_cons_cons, List.forall_mem_append, List.forall_mem_cons, List.forall_mem_cons]
      exact ⟨ha, by decide, by decide, ih hitems⟩

lemma isPlain_listed_sort (items : List SortItem) :
    ∀ c ∈ listed (items.map SortItem.text), isPlain c = true := by
  refine isPlain_listed fun w hw => ?_
  obtain ⟨i, -, rfl⟩ := List.mem_map.mp hw
  exact i.isPlain

lemma Query.isPlain_head (q : Query) : ∀ c ∈ q.head, Sql.isPlain c = true := by
  refine List.forall_mem_append.mpr ⟨isPlain_letters _, List.forall_mem_cons.mpr
    ⟨by decide, isPlain_listed fun w hw => ?_⟩⟩
  obtain ⟨i, -, rfl⟩ := List.mem_map.mp hw
  exact i.isPlain

/-- The name of a table is plain but for its decoration. -/
lemma Table.isPlain_or_isDecoration (t : Table) :
    ∀ c ∈ t.text, Sql.isPlain c = true ∨ isDecoration c = true := by
  have hname : ∀ c ∈ t.name.text, Sql.isPlain c = true ∨ isDecoration c = true :=
    fun c hc => .inl (t.name.isPlain c hc)
  rw [Table.text]
  cases t.decoration <;> simp only [Decoration.around, List.cons_append, List.forall_mem_append,
    List.forall_mem_cons]
  case plain => exact hname
  all_goals exact ⟨.inr (by decide), hname, .inr (by decide), by simp⟩

lemma JoinWord.isPlain (w : JoinWord) : ∀ c ∈ w.text, Sql.isPlain c = true :=
  List.all_eq_true.mp (by cases w <;> decide)

/-- **The characters of a query** are plain or decorate a name. -/
lemma Query.isPlain_or_isDecoration (q : Query) :
    ∀ c ∈ q.text, isPlain c = true ∨ isDecoration c = true := by
  have hplain : ∀ {cs : List Char}, (∀ c ∈ cs, isPlain c = true) →
      ∀ c ∈ cs, isPlain c = true ∨ isDecoration c = true := fun h c hc => .inl (h c hc)
  have hspace : isPlain ' ' = true ∨ isDecoration ' ' = true := by decide
  have hsort : ∀ c ∈ sortText q.sort, isPlain c = true ∨ isDecoration c = true := by
    cases q.sort with
    | nil => simp [sortText]
    | cons i items =>
      simp only [sortText, List.cons_append, List.forall_mem_append, List.forall_mem_cons]
      exact ⟨hspace, ⟨hplain (isPlain_letters _), hspace, hplain (isPlain_letters _)⟩, hspace,
        hplain (isPlain_listed_sort _)⟩
  have hfilter : ∀ c ∈ q.filterText, isPlain c = true ∨ isDecoration c = true := by
    rw [Query.filterText]
    cases q.filter with
    | none => simp
    | some w =>
      simp only [Option.elim, Filter.text, List.cons_append, List.forall_mem_append,
        List.forall_mem_cons]
      exact ⟨hspace, ⟨hplain (isPlain_letters _), hspace, hplain w.first.isPlain⟩,
        hplain (Filter.isPlain_moreText w.more)⟩
  have hjoins : ∀ c ∈ q.joins.flatMap Join.text, isPlain c = true ∨ isDecoration c = true := by
    refine List.forall_mem_flatMap.mpr fun j _ => ?_
    simp only [Join.text, List.cons_append, List.forall_mem_append, List.forall_mem_cons]
    exact ⟨hspace, ⟨⟨hplain j.word.isPlain, hspace, j.table.isPlain_or_isDecoration⟩, hspace,
      hplain (isPlain_letters _)⟩, hspace, hplain j.isPlain_predicate⟩
  simp only [Query.text, Query.start, List.forall_mem_append, List.forall_mem_cons]
  exact ⟨⟨⟨⟨⟨hplain q.isPlain_head, hspace, hplain (isPlain_letters _)⟩, hspace,
    q.table.isPlain_or_isDecoration⟩, hjoins⟩, hfilter⟩, hsort⟩

/-- No other character is in the text of a query. -/
lemma Query.not_mem_text (q : Query) {m : Char} (hplain : isPlain m = false)
    (hdecoration : isDecoration m = false) : m ∉ q.text := by
  intro hmem
  obtain h | h := q.isPlain_or_isDecoration m hmem
  · exact Bool.false_ne_true (hplain.symm.trans h)
  · exact Bool.false_ne_true (hdecoration.symm.trans h)

/-! ## Literals -/

/-- The double quotes around a name close the literal that they open. -/
lemma Table.openAfter (t : Table) : Literal.openAfter none t.text = none := by
  have hname := openAfter_of_isPlain t.name.isPlain
  rw [Table.text]
  cases t.decoration with
  | plain => exact hname
  | brackets =>
    rw [Decoration.around, Literal.openAfter_append]
    exact congrArg (Literal.openAfter · [']']) hname
  | backticks =>
    rw [Decoration.around, Literal.openAfter_append]
    exact congrArg (Literal.openAfter · ['\x60']) hname
  | doubleQuotes =>
    have hinside : ∀ cs : List Char, (∀ c ∈ cs, Sql.isPlain c = true) →
        Literal.openAfter (some '"') cs = some '"' := by
      intro cs
      induction cs with
      | nil => exact fun _ => rfl
      | cons c cs ih =>
        intro h
        obtain ⟨hc, hcs⟩ := List.forall_mem_cons.mp h
        have hne : c ≠ '"' := ne_of_isPlain hc '"' (by simp)
        rw [Literal.openAfter, List.foldl_cons, Literal.next, if_neg (by simpa using hne)]
        exact ih hcs
    rw [Decoration.around, Literal.openAfter_append]
    exact congrArg (Literal.openAfter · ['"']) (hinside _ t.name.isPlain)

/-! ## Tidy parts -/

lemma Column.tidy (c : Column) : Tidy c.text := by
  refine .word (List.append_ne_nil_of_left_ne_nil (List.cons_ne_nil _ _) _) ?_
  rw [Column.text, List.forall_mem_append, List.forall_mem_cons]
  exact ⟨fun d hd => isBlank_of_isWord (c.owner.isWord d hd), by decide,
    fun d hd => isBlank_of_isWord (c.name.isWord d hd)⟩

lemma Join.tidy_predicate (j : Join) : Tidy j.predicate := by
  have hsign : Tidy ['='] := .word (by decide) (forall_mem_of_any (by decide))
  exact j.left.tidy.append (hsign.append j.right.tidy)

lemma Condition.tidy (c : Condition) : Tidy c.text := by
  have hcomparison : Tidy c.comparison.text := by
    cases c.comparison <;> exact .word (by decide) (forall_mem_of_any (by decide))
  have hnumber : Tidy c.number := .word c.number_ne_nil fun d hd =>
    isBlank_of_isWord (isWord_of_isDigit (c.isDigit_number d hd))
  exact (c.column.tidy.append hcomparison).append hnumber

lemma SortItem.tidy (i : SortItem) : Tidy i.text := by
  rw [SortItem.text]
  cases i.direction with
  | none => simpa using i.column.tidy
  | some d =>
    have hdirection : Tidy d.text := by
      cases d <;> exact .word (by decide) (forall_mem_of_any (by decide))
    exact i.column.tidy.append hdirection

lemma tidy_listed {items : List (List Char)} (hne : items ≠ []) (h : ∀ w ∈ items, Tidy w) :
    Tidy (listed items) := by
  induction items with
  | nil => exact absurd rfl hne
  | cons a items ih =>
    obtain ⟨ha, hitems⟩ := List.forall_mem_cons.mp h
    cases items with
    | nil => simpa [listed, List.intercalate] using ha
    | cons b items =>
      have hcomma : isBlank ',' = false := by decide
      have hrest := (ha.concat hcomma).append (ih (List.cons_ne_nil b items) hitems)
      rw [List.append_assoc, List.singleton_append] at hrest
      rwa [listed_cons_cons]

lemma isPlain_spaced {cs trail : List Char} (hplain : ∀ c ∈ cs, isPlain c = true)
    (htrail : trail = [] ∨ trail = [' ']) : ∀ c ∈ ' ' :: cs ++ trail, isPlain c = true := by
  refine List.forall_mem_append.mpr ⟨List.forall_mem_cons.mpr ⟨by decide, hplain⟩, ?_⟩
  obtain rfl | rfl := htrail
  · simp
  · exact List.forall_mem_singleton.mpr (by decide)

/-- A tidy part is cleaned of the space in front of it and of one behind it. -/
lemma clean_spaced {cs trail : List Char} (hcs : Tidy cs) (hplain : ∀ c ∈ cs, isPlain c = true)
    (htrail : trail = [] ∨ trail = [' ']) : clean (' ' :: cs ++ trail) = cs := by
  have hlead : words (' ' :: cs) = words cs := words_append_cons (by decide) [] cs
  refine clean_of_words hcs ?_ fun hlast => ?_
  · obtain rfl | rfl := htrail
    · rw [List.append_nil, hlead]
    · rw [words_append_cons (by decide), hlead]
      exact List.append_nil _
  · exact ne_of_isPlain (hplain ';' (List.mem_of_getLast? hlast)) ';' (by simp) rfl

end SqlAdvice.Sql
