import SqlAdvice.Proofs.Distinct
import SqlAdvice.Proofs.Features
import SqlAdvice.Proofs.QueryNames
import SqlAdvice.Proofs.Scanning

/-!
# Reading a query back

`Sql.extract` reads off the text of a query the features of that query (`extract_text`).

Each extractor is followed through the text on its own.  It passes over the parts that lack its
keywords, finds the keyword where a part writes it out, and stops where the next part begins: after
every join and after the conditions the text ends, or a keyword follows that closes a predicate
(`Follows`).  Over the joins and over the conditions the arguments are inductions on the lists, and
what is carried through them is that the rest of the text is of that kind.
-/

namespace SqlAdvice.Sql

open SqlAdvice.Text

/-! ## Where a part ends -/

lemma wordPhrase?_orderBy {prev : Option Char} {rest : List Char} (hprev : opensWord prev = true)
    (hrest : closesWord rest = true) :
    wordPhrase? [.ORDER, .BY] prev
      (Keyword.ORDER.letters ++ ' ' :: (Keyword.BY.letters ++ rest)) = some rest := by
  have hphrase : phrase? [.ORDER, .BY]
      (Keyword.ORDER.letters ++ ' ' :: (Keyword.BY.letters ++ rest)) = some rest := rfl
  rw [wordPhrase?, if_pos hprev, hphrase, Option.filter_some, if_pos hrest]

lemma joinPhrase?_letters (rest : List Char) :
    joinPhrase? (Keyword.JOIN.letters ++ rest) = some rest :=
  joinPhrase?_of_no_modifier rfl

lemma joinPhrase?_text (w : JoinWord) (rest : List Char) :
    joinPhrase? (w.text ++ rest) = some rest := by
  have hmodifier : ∀ {cs : List Char}, joinModifier? cs = some (Keyword.JOIN.letters ++ rest) →
      joinPhrase? cs = some rest := by
    intro cs h
    rw [joinPhrase?_of_modifier h, joinPhrase?_letters]
  cases w with
  | join => exact joinPhrase?_letters rest
  | innerJoin => exact hmodifier rfl
  | leftJoin => exact hmodifier rfl

/-- What may follow a part: nothing, or a space and a word that closes a predicate. -/
inductive Follows : List Char → Prop where
  | nothing : Follows []
  | clause {c : Char} {cs : List Char} (hc : isWord c = true)
      (h : closesPredicate (some ' ') (c :: cs) = true) : Follows (' ' :: c :: cs)

/-- `ORDER BY` stands behind the space that the text to sort by begins with. -/
lemma wordPhrase?_sortText (i : SortItem) (items : List SortItem) :
    wordPhrase? [.ORDER, .BY] (some ' ') ((sortText (i :: items)).drop 1) =
      some (' ' :: listed ((i :: items).map SortItem.text)) := by
  have htext : (sortText (i :: items)).drop 1 = Keyword.ORDER.letters ++ ' ' ::
      (Keyword.BY.letters ++ ' ' :: listed ((i :: items).map SortItem.text)) := rfl
  rw [htext]
  exact wordPhrase?_orderBy (by decide) rfl

lemma follows_sortText (items : List SortItem) : Follows (sortText items) := by
  cases items with
  | nil => exact .nothing
  | cons i items =>
    have hcloses : closesPredicate (some ' ') ((sortText (i :: items)).drop 1) = true :=
      closesPredicate_of_wordPhrase? (by decide) (wordPhrase?_sortText i items)
    exact .clause (by decide) hcloses

lemma follows_filterText (q : Query) : Follows (q.filterText ++ sortText q.sort) := by
  rw [Query.filterText]
  cases q.filter with
  | none => exact follows_sortText q.sort
  | some w =>
    let clause := ' ' :: w.first.text ++ Filter.moreText w.more ++ sortText q.sort
    have hstands :
        wordPhrase? [.WHERE] (some ' ') (Keyword.WHERE.letters ++ clause) = some clause :=
      wordPhrase?_letters (by decide) rfl
    have htext : w.text ++ sortText q.sort = ' ' :: (Keyword.WHERE.letters ++ clause) := by
      simp [Filter.text, clause]
    rw [Option.elim_some, htext]
    exact .clause (by decide) (closesPredicate_of_wordPhrase? (by decide) hstands)

lemma follows_joins (joins : List Join) {rest : List Char} (hrest : Follows rest) :
    Follows (joins.flatMap Join.text ++ rest) := by
  cases joins with
  | nil => exact hrest
  | cons j joins =>
    obtain ⟨c, cs, hword, hc⟩ : ∃ c cs, j.word.text = c :: cs ∧ isWord c = true := by
      cases j.word with
      | join => exact ⟨'J', _, rfl, by decide⟩
      | innerJoin => exact ⟨'I', _, rfl, by decide⟩
      | leftJoin => exact ⟨'L', _, rfl, by decide⟩
    let more := ' ' :: j.table.text ++ ' ' :: Keyword.ON.letters ++ ' ' :: j.predicate ++
      (joins.flatMap Join.text ++ rest)
    have hcloses : closesPredicate (some ' ') (j.word.text ++ more) = true :=
      closesPredicate_of_joinPhrase? (by decide) (joinPhrase?_text j.word more) rfl
    have htext : (j :: joins).flatMap Join.text ++ rest = ' ' :: (j.word.text ++ more) := by
      simp [Join.text, more]
    rw [htext, hword]
    rw [hword] at hcloses
    exact .clause hc hcloses

namespace Follows

variable {rest : List Char}

lemma closesWord (h : Follows rest) : Sql.closesWord rest = true := by
  cases h <;> rfl

lemma stops (h : Follows rest) : Stops rest := by
  cases h with
  | nothing => exact .inl rfl
  | clause hc _ => exact .inr ⟨_, _, rfl, hc⟩

/-- The space at the front goes to the part before. -/
lemma take (h : Follows rest) : rest.take 1 = [] ∨ rest.take 1 = [' '] := by
  cases h with
  | nothing => exact .inl rfl
  | clause _ _ => exact .inr rfl

lemma silent_take (h : Follows rest) {ks : List Keyword} {prev : Option Char} :
    Silent ks (rest.drop 1) prev (rest.take 1) := by
  cases h with
  | nothing => trivial
  | clause _ _ => exact silent_mark (by decide)

/-- A predicate ends behind the space. -/
lemma predicateSpan (h : Follows rest) (prev : Option Char) :
    Sql.predicateSpan prev none rest = rest.take 1 := by
  cases h with
  | nothing => rfl
  | @clause c cs hc hcloses =>
    have hspace : Sql.predicateSpan prev none ([' '] ++ c :: cs) =
        [' '] ++ Sql.predicateSpan (some ' ') none (c :: cs) :=
      predicateSpan_append (silent_mark (by decide)) (List.forall_mem_singleton.mpr (by decide))
    have hstop : Sql.predicateSpan (some ' ') none (c :: cs) = [] := by
      rw [Sql.predicateSpan, hcloses]
      rfl
    rw [hstop] at hspace
    exact hspace

end Follows

/-! ## Tables -/

lemma Table.isBlank_head (t : Table) (rest : List Char) :
    ∀ c ∈ (t.text ++ rest).head?, isBlank c = false := by
  rw [Table.text]
  cases t.decoration with
  | plain => exact forall_mem_head?_cons.mpr t.name.isBlank_first
  | brackets => exact forall_mem_head?_cons.mpr (by decide)
  | doubleQuotes => exact forall_mem_head?_cons.mpr (by decide)
  | backticks => exact forall_mem_head?_cons.mpr (by decide)

lemma nameAfter?_table {k : Keyword} {prev : Option Char} (hprev : opensWord prev = true)
    (t : Table) {rest : List Char} (hrest : Stops rest) :
    nameAfter? k prev (k.letters ++ ' ' :: (t.text ++ rest)) = some (t.text, rest) := by
  have hread : k.read? (k.letters ++ ' ' :: (t.text ++ rest)) = some (' ' :: (t.text ++ rest)) :=
    letters?_eq_some_iff.mpr ⟨k.letters, rfl, map_foldCase_letters k⟩
  have hblanks : skipSomeBlanks? (' ' :: (t.text ++ rest)) = some (t.text ++ rest) :=
    congrArg some (dropWhile_of_head (t.isBlank_head rest))
  rw [nameAfter?, if_pos hprev, hread]
  change (skipSomeBlanks? (' ' :: (t.text ++ rest))).bind (qualified? isFoldedNameStart) = _
  rw [hblanks, Option.bind_some]
  exact qualified?_table (fun _ => isFoldedNameStart_of_isNameStart) t hrest

/-- In front of its last word, which is `JOIN`, a join word holds no `JOIN`. -/
lemma JoinWord.exists_lead (w : JoinWord) :
    ∃ lead, ' ' :: w.text = lead ++ ' ' :: Keyword.JOIN.letters ∧ Lacks [.JOIN] lead := by
  cases w with
  | join => exact ⟨[], rfl, lacks_nil⟩
  | innerJoin =>
    exact ⟨' ' :: Keyword.INNER.letters, rfl, lacks_space.mpr (lacks_letters.mpr (by decide))⟩
  | leftJoin =>
    exact ⟨' ' :: Keyword.LEFT.letters, rfl, lacks_space.mpr (lacks_letters.mpr (by decide))⟩

/-- One join: its table is found, and the search goes on behind the join. -/
lemma joinNames_join (j : Join) {rest : List Char} (hrest : closesWord rest = true)
    (prev : Option Char) :
    ∃ prev', joinNames 0 prev (j.text ++ rest) = j.table.text :: joinNames 0 prev' rest := by
  obtain ⟨lead, hword, hlead⟩ := j.word.exists_lead
  let onText := ' ' :: Keyword.ON.letters ++ ' ' :: j.predicate
  have hon : Lacks [.JOIN] onText :=
    lacks_append_space.mpr ⟨lacks_space.mpr (lacks_letters.mpr (by decide)),
      j.lacks_predicate.mono (by decide)⟩
  have hname : nameAfter? .JOIN (some ' ')
      (Keyword.JOIN.letters ++ ' ' :: (j.table.text ++ (onText ++ rest))) =
        some (j.table.text, onText ++ rest) :=
    nameAfter?_table (by decide) j.table (.inr ⟨'O', _, rfl, by decide⟩)
  have hassoc : Keyword.JOIN.letters ++ ' ' :: (j.table.text ++ (onText ++ rest)) =
      (Keyword.JOIN.letters ++ ' ' :: j.table.text) ++ (onText ++ rest) := by simp
  have htext : j.text ++ rest =
      (lead ++ [' ']) ++ ((Keyword.JOIN.letters ++ ' ' :: j.table.text) ++ (onText ++ rest)) := by
    simp [Join.text, hword, onText]
  rw [hassoc] at hname
  refine ⟨lastChar (lastChar (some ' ') (Keyword.JOIN.letters ++ ' ' :: j.table.text)) onText, ?_⟩
  rw [htext, joinNames_append (silent_space hlead), lastChar_concat,
    joinNames_of_nameAfter? (by simp [Keyword.letters]) hname,
    joinNames_append (silent_of_lacks hon hrest)]

/-- The names after `JOIN` are the tables of the joins, by induction on the joins. -/
lemma joinNames_joins {rest : List Char} (hrest : Follows rest) (hlacks : Lacks [.JOIN] rest)
    (joins : List Join) (prev : Option Char) :
    joinNames 0 prev (joins.flatMap Join.text ++ rest) = joins.map (·.table.text) := by
  induction joins generalizing prev with
  | nil =>
    have hnone : joinNames 0 prev (rest ++ []) = joinNames 0 (lastChar prev rest) [] :=
      joinNames_append (silent_of_lacks hlacks rfl)
    rw [List.append_nil, joinNames] at hnone
    exact hnone
  | cons j joins ih =>
    obtain ⟨prev', hstep⟩ := joinNames_join j (follows_joins joins hrest).closesWord prev
    rw [List.flatMap_cons, List.append_assoc, hstep, ih, List.map_cons]

/-- The text from the joins on. -/
def Query.tail (q : Query) : List Char :=
  q.joins.flatMap Join.text ++ (q.filterText ++ sortText q.sort)

lemma Query.text_eq (q : Query) : q.text = q.start ++ q.tail := by
  simp [Query.text, Query.tail]

lemma Query.follows_tail (q : Query) : Follows q.tail :=
  follows_joins q.joins (follows_filterText q)

lemma fromName?_text (q : Query) : fromName? none q.text = some q.table.text := by
  have htext : q.text =
      (q.head ++ [' ']) ++ (Keyword.FROM.letters ++ ' ' :: (q.table.text ++ q.tail)) := by
    simp [Query.text_eq, Query.start]
  have hhead : Lacks [.FROM] q.head := q.lacks_head.mono (by decide)
  rw [htext, fromName?_append (silent_space hhead), lastChar_concat]
  exact fromName?_of_nameAfter? (by simp [Keyword.letters])
    (nameAfter?_table (by decide) q.table q.follows_tail.stops)

/-- **The tables** of a query are read without their decoration. -/
lemma tables_text (q : Query) :
    tables q.text = ((q.table :: q.joins.map (·.table)).map (·.name.text)).eraseDups := by
  have hrest : Lacks [.JOIN] (q.filterText ++ sortText q.sort) :=
    q.lacks_fromFilter (by decide) (by decide)
  have hjoins : joinNames 0 none q.text = q.joins.map (·.table.text) := by
    rw [q.text_eq, joinNames_append (silent_of_lacks (q.lacks_start (by decide) (by decide))
      q.follows_tail.closesWord)]
    exact joinNames_joins (follows_filterText q) hrest q.joins _
  have hnames : (q.table.text :: q.joins.map (·.table.text)).map undecorate =
      (q.table :: q.joins.map (·.table)).map (·.name.text) := by
    simp [undecorate_table]
  have hkeep : ((q.table :: q.joins.map (·.table)).map (·.name.text)).filter
      (fun name => !name.isEmpty) = (q.table :: q.joins.map (·.table)).map (·.name.text) := by
    refine List.filter_eq_self.mpr fun name hname => ?_
    obtain ⟨t, -, rfl⟩ := List.mem_map.mp hname
    rfl
  rw [tables, fromName?_text, hjoins, Option.toList_some, List.singleton_append, hnames, hkeep]

/-! ## Join predicates -/

/-- The space behind a part makes no difference to a search for predicates that is on its way. -/
lemma Follows.predicateSpans_drop {rest : List Char} (h : Follows rest) (prev : Option Char) :
    predicateSpans 0 (lastChar prev (rest.take 1)) none (rest.drop 1) =
      predicateSpans 0 prev none rest := by
  have hspace : predicateSpans 0 prev none (rest.take 1 ++ rest.drop 1) =
      predicateSpans 0 (lastChar prev (rest.take 1)) (Literal.openAfter none (rest.take 1))
        (rest.drop 1) := predicateSpans_append h.silent_take
  have hquote : Literal.openAfter none (rest.take 1) = none := by
    obtain hnil | hsingle := h.take
    · rw [hnil]
      rfl
    · rw [hsingle]
      rfl
  rw [List.take_append_drop, hquote] at hspace
  exact hspace.symm

/-- The span of a predicate takes the space behind it along. -/
lemma predicateSpan_predicate (j : Join) {rest : List Char} (hrest : Follows rest) :
    predicateSpan none none (' ' :: j.predicate ++ rest) = ' ' :: j.predicate ++ rest.take 1 := by
  have hlacks : Lacks closingKeywords (' ' :: j.predicate) :=
    lacks_space.mpr (j.lacks_predicate.mono (by decide))
  have hquotes : ∀ c ∈ ' ' :: j.predicate, Literal.isQuote c = false :=
    List.forall_mem_cons.mpr ⟨by decide, fun c hc => isQuote_of_isPlain (j.isPlain_predicate c hc)⟩
  rw [predicateSpan_append (silent_of_lacks hlacks hrest.closesWord) hquotes, hrest.predicateSpan]

/-- One join: its predicate is found, and the search goes on behind the join. -/
lemma predicateSpans_join (j : Join) {rest : List Char} (hrest : Follows rest)
    (prev : Option Char) :
    ∃ prev', predicateSpans 0 prev none (j.text ++ rest) =
      (' ' :: j.predicate ++ rest.take 1) :: predicateSpans 0 prev' none rest := by
  let lead := ' ' :: j.word.text ++ ' ' :: j.table.text
  let span := ' ' :: j.predicate ++ rest.take 1
  have hsplit : span ++ rest.drop 1 = ' ' :: j.predicate ++ rest := by
    rw [List.append_assoc, List.take_append_drop]
  have htext : j.text ++ rest =
      (lead ++ [' ']) ++ (Keyword.ON.letters ++ (span ++ rest.drop 1)) := by
    rw [hsplit]
    simp [Join.text, lead]
  have hlead : Lacks [.ON] lead := lacks_append_space.mpr
    ⟨lacks_space.mpr (j.word.lacks (by decide)), j.table.lacks.mono (by decide)⟩
  have hstands : wordPhrase? [.ON] (some ' ') (Keyword.ON.letters ++ (span ++ rest.drop 1)) =
      some (span ++ rest.drop 1) := wordPhrase?_letters (by decide) rfl
  have hspan : predicateSpan none none (span ++ rest.drop 1) = span := by
    rw [hsplit, predicateSpan_predicate j hrest]
  -- A literal is open at neither end of the predicate.
  have hbefore : Literal.openAfter none (lead ++ [' ']) = none := by
    have hword : Literal.openAfter none (' ' :: j.word.text ++ [' ']) = none :=
      openAfter_of_isPlain (List.forall_mem_append.mpr
        ⟨List.forall_mem_cons.mpr ⟨by decide, j.word.isPlain⟩,
          List.forall_mem_singleton.mpr (by decide)⟩)
    have hlead : lead ++ [' '] = (' ' :: j.word.text ++ [' ']) ++ (j.table.text ++ [' ']) := by
      simp [lead]
    rw [hlead, Literal.openAfter_append, hword, Literal.openAfter_append, j.table.openAfter]
    rfl
  have hbehind : Literal.openAfter none (Keyword.ON.letters ++ span) = none :=
    openAfter_of_isPlain (List.forall_mem_append.mpr ⟨isPlain_letters _,
      isPlain_spaced j.isPlain_predicate hrest.take⟩)
  refine ⟨lastChar (some ' ') (Keyword.ON.letters ++ ' ' :: j.predicate), ?_⟩
  rw [htext, predicateSpans_append (silent_space hlead), lastChar_concat, hbefore,
    predicateSpans_of_wordPhrase? (letters_ne_nil _) hstands hspan, hbehind,
    ← hrest.predicateSpans_drop, ← lastChar_append, List.append_assoc]

/-- The predicates are those of the joins, by induction on the joins. -/
lemma predicateSpans_joins {rest : List Char} (hrest : Follows rest) (hlacks : Lacks [.ON] rest)
    (joins : List Join) (prev : Option Char) :
    (predicateSpans 0 prev none (joins.flatMap Join.text ++ rest)).map clean =
      joins.map (·.predicate) := by
  induction joins generalizing prev with
  | nil =>
    have hnone : predicateSpans 0 prev none (rest ++ []) =
        predicateSpans 0 (lastChar prev rest) (Literal.openAfter none rest) [] :=
      predicateSpans_append (silent_of_lacks hlacks rfl)
    rw [List.append_nil, predicateSpans] at hnone
    rw [List.flatMap_nil, List.nil_append, hnone]
    rfl
  | cons j joins ih =>
    have htail := follows_joins joins hrest
    obtain ⟨prev', hstep⟩ := predicateSpans_join j htail prev
    rw [List.flatMap_cons, List.append_assoc, hstep, List.map_cons,
      clean_spaced j.tidy_predicate j.isPlain_predicate htail.take, ih, List.map_cons]

lemma Query.openAfter_start (q : Query) : Literal.openAfter none q.start = none := by
  have hlead : ∀ c ∈ q.head ++ ' ' :: Keyword.FROM.letters, isPlain c = true :=
    List.forall_mem_append.mpr
      ⟨q.isPlain_head, List.forall_mem_cons.mpr ⟨by decide, isPlain_letters _⟩⟩
  rw [Query.start, Literal.openAfter_append, openAfter_of_isPlain hlead]
  exact q.table.openAfter

/-- **The join predicates** of a query are read as they are written. -/
lemma joinPredicates_text (q : Query) : joinPredicates q.text = q.joins.map (·.predicate) := by
  have hrest : Lacks [.ON] (q.filterText ++ sortText q.sort) :=
    q.lacks_fromFilter (by decide) (by decide)
  have hspans : (predicateSpans 0 none none q.text).map clean = q.joins.map (·.predicate) := by
    rw [q.text_eq, predicateSpans_append (silent_of_lacks (q.lacks_start (by decide) (by decide))
      q.follows_tail.closesWord), q.openAfter_start]
    exact predicateSpans_joins (follows_filterText q) hrest q.joins _
  rw [joinPredicates, cleanAll, hspans]
  refine List.filter_eq_self.mpr fun predicate hpredicate => ?_
  obtain ⟨j, -, rfl⟩ := List.mem_map.mp hpredicate
  simpa using j.tidy_predicate.ne_nil

/-! ## Conditions -/

lemma connective?_letters {prev : Option Char} (hprev : opensWord prev = true) (k : Connective)
    {rest : List Char} (hrest : closesWord rest = true) :
    connective? prev (k.keyword.letters ++ rest) = some rest := by
  rw [connective?]
  cases k with
  | and =>
    have hand : wordPhrase? [.AND] prev (Connective.and.keyword.letters ++ rest) = some rest :=
      wordPhrase?_letters hprev hrest
    rw [hand, Option.some_or]
  | or =>
    have hand : wordPhrase? [.AND] prev (Connective.or.keyword.letters ++ rest) = none := by
      by_contra hstands
      obtain ⟨-, hword⟩ := wordPhrase?_singleton_isSome.mp (Option.isSome_iff_ne_none.mpr hstands)
      rw [takeWhile_append_of_head isWord_of_mem_letters (isWord_of_closesWord hrest),
        map_foldCase_letters] at hword
      exact absurd hword (by decide)
    have hor : wordPhrase? [.OR] prev (Connective.or.keyword.letters ++ rest) = some rest :=
      wordPhrase?_letters hprev hrest
    rw [hand, hor, Option.none_or]

/-- The characters of a condition and of the spaces around it are read as they are. -/
lemma Condition.isUnquoted (c : Condition) {trail : List Char}
    (htrail : trail = [] ∨ trail = [' ']) :
    ∀ d ∈ ' ' :: c.text ++ trail, Literal.isQuote d = false ∧ d ≠ '(' ∧ d ≠ ')' := by
  intro d hd
  have hplain : Sql.isPlain d = true := isPlain_spaced c.isPlain htrail d hd
  have hne := ne_of_isPlain hplain
  exact ⟨isQuote_of_isPlain hplain, hne '(' (by simp), hne ')' (by simp)⟩

/-- The parts of a text that begins with a condition, up to the connective behind it. -/
lemma topLevelParts_condition (c : Condition) (k : Connective) (rest : List Char)
    (hrest : closesWord rest = true) (prev : Option Char) :
    ∃ prev', topLevelParts 0 prev none 0 (' ' :: c.text ++ ' ' :: k.keyword.letters ++ rest) =
      (' ' :: c.text ++ [' '], (topLevelParts 0 prev' none 0 rest).1 ::
        (topLevelParts 0 prev' none 0 rest).2) := by
  have hlacks : Lacks [.AND, .OR] (' ' :: c.text) := lacks_space.mpr (c.lacks.mono (by decide))
  have htext : ' ' :: c.text ++ ' ' :: k.keyword.letters ++ rest =
      (' ' :: c.text ++ [' ']) ++ (k.keyword.letters ++ rest) := by simp
  have hquotes : ∀ d ∈ k.keyword.letters, Literal.isQuote d = false := fun d hd =>
    isQuote_of_isPlain (isPlain_letters _ d hd)
  refine ⟨lastChar (some ' ') k.keyword.letters, ?_⟩
  rw [htext, topLevelParts_append (silent_space hlacks) (c.isUnquoted (.inr rfl)),
    lastChar_concat, topLevelParts_of_connective? (letters_ne_nil _) hquotes
      (connective?_letters (by decide) k hrest), List.append_nil]

/-- The parts between the connectives are the conditions, by induction on the conditions. -/
lemma topLevelParts_conditions {trail : List Char} (htrail : trail = [] ∨ trail = [' '])
    (more : List (Connective × Condition)) (c : Condition) (prev : Option Char) :
    ((topLevelParts 0 prev none 0 (' ' :: c.text ++ Filter.moreText more ++ trail)).1 ::
      (topLevelParts 0 prev none 0 (' ' :: c.text ++ Filter.moreText more ++ trail)).2).map clean =
      (c :: more.map (·.2)).map Condition.text := by
  induction more generalizing c prev with
  | nil =>
    have htext : ' ' :: c.text ++ Filter.moreText [] ++ trail = (' ' :: c.text ++ trail) ++ [] := by
      simp [Filter.moreText]
    have hlacks : Lacks [.AND, .OR] (' ' :: c.text) := lacks_space.mpr (c.lacks.mono (by decide))
    have hsilent : Silent [.AND, .OR] [] prev (' ' :: c.text ++ trail) := by
      obtain rfl | rfl := htrail
      · rw [List.append_nil]
        exact silent_of_lacks hlacks rfl
      · exact silent_space hlacks
    rw [htext, topLevelParts_append hsilent (c.isUnquoted htrail), topLevelParts, List.append_nil,
      List.map_singleton, clean_spaced c.tidy c.isPlain htrail]
    rfl
  | cons p more ih =>
    obtain ⟨k, d⟩ := p
    have htext : ' ' :: c.text ++ Filter.moreText ((k, d) :: more) ++ trail =
        ' ' :: c.text ++ ' ' :: k.keyword.letters ++
          (' ' :: d.text ++ Filter.moreText more ++ trail) := by
      simp [Filter.moreText]
    obtain ⟨prev', hstep⟩ := topLevelParts_condition c k
      (' ' :: d.text ++ Filter.moreText more ++ trail) rfl prev
    rw [htext, hstep, List.map_cons, clean_spaced c.tidy c.isPlain (.inr rfl), ih]
    rfl

lemma splitTopLevel_conditions {trail : List Char} (htrail : trail = [] ∨ trail = [' '])
    (more : List (Connective × Condition)) (c : Condition) :
    splitTopLevel (' ' :: c.text ++ Filter.moreText more ++ trail) =
      (c :: more.map (·.2)).map Condition.text := by
  rw [splitTopLevel_eq, cleanAll, topLevelParts_conditions htrail]
  refine List.filter_eq_self.mpr fun text htext => ?_
  obtain ⟨c, -, rfl⟩ := List.mem_map.mp htext
  simpa using c.tidy.ne_nil

lemma heads_whereEnds : ∀ phrase ∈ whereEnds, ∃ k ∈ [Keyword.GROUP, .HAVING, .ORDER],
    ∃ more, phrase = k :: more := by
  simp [whereEnds]

/-- The clause runs up to the space in front of `ORDER BY`, or to the end. -/
lemma upToPhrase_sortText (items : List SortItem) (prev : Option Char) :
    upToPhrase whereEnds prev (sortText items) = (sortText items).take 1 := by
  cases items with
  | nil => rfl
  | cons i items =>
    have hspace : upToPhrase whereEnds prev ([' '] ++ (sortText (i :: items)).drop 1) =
        [' '] ++ upToPhrase whereEnds (some ' ') ((sortText (i :: items)).drop 1) :=
      upToPhrase_append heads_whereEnds (silent_mark (by decide))
    have hstands : standsAt whereEnds (some ' ') ((sortText (i :: items)).drop 1) = true :=
      standsAt_eq_true (by decide) (wordPhrase?_sortText i items)
    rw [upToPhrase_of_standsAt hstands] at hspace
    exact hspace

/-- **The conditions** of a query are read as they are written. -/
lemma conditions_text (q : Query) : conditions q.text = q.conditions.map Condition.text := by
  have hlead : Lacks [.WHERE] (q.start ++ q.joins.flatMap Join.text) :=
    q.lacks_upToJoins (by decide) (by decide)
  cases hfilter : q.filter with
  | none =>
    have hnone : Lacks [.WHERE] q.text := by
      rw [Query.text, Query.filterText, hfilter, Option.elim, List.append_nil]
      exact (lacks_append (closesWord_sortText q.sort)).mpr
        ⟨hlead, lacks_sortText q.sort (by decide) (by decide)⟩
    rw [conditions, afterPhrase?_eq_none hnone, Query.conditions, hfilter]
    rfl
  | some w =>
    let clause := ' ' :: w.first.text ++ Filter.moreText w.more
    have htext : q.text = (q.start ++ q.joins.flatMap Join.text ++ [' ']) ++
        (Keyword.WHERE.letters ++ (clause ++ sortText q.sort)) := by
      simp [Query.text, Query.filterText, hfilter, Filter.text, clause]
    have hafter : afterPhrase? [.WHERE] none q.text = some (clause ++ sortText q.sort) := by
      rw [htext, afterPhrase?_append (silent_space hlead), lastChar_concat]
      exact afterPhrase?_of_wordPhrase? (by simp [Keyword.letters])
        (wordPhrase?_letters (by decide) rfl)
    have hclause : Lacks [.GROUP, .HAVING, .ORDER] clause :=
      (lacks_append (closesWord_moreText w.more)).mpr
        ⟨lacks_space.mpr (w.first.lacks.mono (by decide)),
          Filter.lacks_moreText w.more (by decide) (by decide)⟩
    have hup : upToPhrase whereEnds none (clause ++ sortText q.sort) =
        clause ++ (sortText q.sort).take 1 := by
      rw [upToPhrase_append heads_whereEnds
        (silent_of_lacks hclause (closesWord_sortText q.sort)), upToPhrase_sortText]
    have hconditions : q.conditions = w.conditions := by rw [Query.conditions, hfilter]; rfl
    rw [conditions, hafter]
    change splitTopLevel (upToPhrase whereEnds none (clause ++ sortText q.sort)) = _
    rw [hup, splitTopLevel_conditions (follows_sortText q.sort).take, hconditions]
    rfl

/-! ## Sorting -/

/-- **The text to sort by** is read as it is written. -/
lemma orderBy?_text (q : Query) :
    orderBy? q.text =
      if q.sort.isEmpty then none else some (listed (q.sort.map SortItem.text)) := by
  have hlead : Lacks [.ORDER] (q.start ++ q.joins.flatMap Join.text ++ q.filterText) :=
    (lacks_append q.closesWord_filterText).mpr
      ⟨q.lacks_upToJoins (by decide) (by decide), q.lacks_filterText (by decide) (by decide)⟩
  cases hsort : q.sort with
  | nil =>
    have hnone : Lacks [.ORDER] q.text := by
      rw [Query.text, hsort, sortText, List.append_nil]
      exact hlead
    rw [orderBy?, afterPhrase?_eq_none hnone]
    rfl
  | cons i items =>
    let clause := listed ((i :: items).map SortItem.text)
    have htext : q.text = (q.start ++ q.joins.flatMap Join.text ++ q.filterText ++ [' ']) ++
        (Keyword.ORDER.letters ++ ' ' :: (Keyword.BY.letters ++ ' ' :: clause)) := by
      simp [Query.text, hsort, sortText, clause]
    have hafter : afterPhrase? [.ORDER, .BY] none q.text = some (' ' :: clause) := by
      rw [htext, afterPhrase?_append (silent_space hlead), lastChar_concat]
      exact afterPhrase?_of_wordPhrase? (by simp [Keyword.letters])
        (wordPhrase?_orderBy (by decide) rfl)
    have htidy : Tidy clause := by
      refine tidy_listed (by simp) fun w hw => ?_
      obtain ⟨i, -, rfl⟩ := List.mem_map.mp hw
      exact i.tidy
    have hclean : clean (' ' :: clause) = clause := by
      have hspaced := clean_spaced htidy (isPlain_listed_sort (i :: items)) (.inl rfl)
      rwa [List.append_nil] at hspaced
    have hne : clause.isEmpty = false := by simpa using htidy.ne_nil
    rw [orderBy?, hafter]
    change (if (clean (' ' :: clause)).isEmpty then none else some (clean (' ' :: clause))) =
      some clause
    rw [hclean, hne]
    rfl

/-! ## The whole statement -/

lemma statementKind_text (q : Query) : statementKind q.text = .ok .select := by
  have hstands : wordPhrase? [.SELECT] none q.text = some (q.text.drop 6) := by
    have htext : q.text = Keyword.SELECT.letters ++ q.text.drop 6 := rfl
    rw [htext]
    exact wordPhrase?_letters (by decide) rfl
  have hskip : skipBlanks q.text = q.text := rfl
  rw [statementKind]
  simp only [hskip, leadingKeywords, List.find?_cons, hstands, Option.isSome_some]
  rfl

lemma hasWildcard_text (q : Query) : hasWildcard q.text = false := by
  have hstar : '*' ∉ q.text := q.not_mem_text (by decide) (by decide)
  have hpercent : q.text.count '%' = 0 :=
    List.count_eq_zero.mpr (q.not_mem_text (by decide) (by decide))
  simp [hasWildcard, hstar, hpercent]

lemma functionCalls_text (q : Query) : functionCalls q.text = [] :=
  callsFrom_eq_nil (q.not_mem_text (by decide) (by decide))

/-- **Extraction inverts printing.**  The features that are read off the text of a query are those
of the query, and the columns that are read off its predicates and conditions are those that its
predicates and conditions speak of. -/
theorem extract_text (q : Query) :
    extract (String.ofList q.text) = .ok q.features ∧
      q.joins.map (fun j => joinColumns j.predicate) =
        q.joins.map (fun j => [j.left.name.text, j.right.name.text]) ∧
      q.conditions.map (fun c => filterColumn? c.text) =
        q.conditions.map (fun c => some c.column.name.text) := by
  have htables : (tables q.text).map String.ofList = q.features.tables := by
    rw [tables_text, ← eraseDups_map (fun _ _ h => String.ofList_injective h), List.map_map]
    rfl
  have hsort : (orderBy? q.text).map String.ofList = q.features.orderBy ∧
      ((orderBy? q.text).elim [] sortColumns).map String.ofList = q.features.sortColumns := by
    rw [orderBy?_text, Query.features]
    by_cases hempty : q.sort.isEmpty = true
    · rw [if_pos hempty, if_pos hempty, List.isEmpty_iff.mp hempty]
      exact ⟨rfl, rfl⟩
    · rw [if_neg hempty, if_neg hempty, Option.elim_some, sortColumns_listed, List.map_map]
      exact ⟨rfl, rfl⟩
  have hread : Features.read .select q.text = q.features := by
    rw [Features.read, htables, hsort.1, hsort.2, joinPredicates_text, conditions_text,
      hasWildcard_text, functionCalls_text, List.map_map, List.map_map]
    rfl
  refine ⟨?_, List.map_congr_left fun j _ => joinColumns_predicate j,
    List.map_congr_left fun c _ => filterColumn?_condition c⟩
  rw [extract_eq, String.toList_ofList, statementKind_text]
  exact congrArg Except.ok hread

/-- A query with a join, two conditions and an item to sort by, and the text that it is written
as. -/
theorem extract_text_inner_join :
    let a : Identifier := ⟨'a', [], by decide, by simp, by decide⟩
    let t : Identifier :=
      ⟨'t', ['1'], by decide, List.forall_mem_singleton.mpr (by decide), by decide⟩
    let u : Identifier :=
      ⟨'_', ['u'], by decide, List.forall_mem_singleton.mpr (by decide), by decide⟩
    let q : Query := {
      columns := [a, u]
      table := ⟨t, .brackets⟩
      joins := [⟨.innerJoin, ⟨u, .doubleQuotes⟩, ⟨t, a⟩, ⟨u, a⟩⟩]
      filter := some
        ⟨⟨⟨t, a⟩, .atLeast, ['1', '0'], by decide, List.all_eq_true.mp (by decide)⟩,
          [(.or, ⟨⟨u, a⟩, .notEqual, ['2'], by decide, List.all_eq_true.mp (by decide)⟩)]⟩
      sort := [⟨⟨u, a⟩, some .descending⟩]
      columns_ne_nil := by decide }
    String.ofList q.text = "SELECT a, _u FROM [t1] INNER JOIN \"_u\" ON t1.a = _u.a " ++
        "WHERE t1.a >= 10 OR _u.a <> 2 ORDER BY _u.a DESC" ∧
      extract (String.ofList q.text) = .ok q.features ∧
      q.joins.map (fun j => joinColumns j.predicate) =
        q.joins.map (fun j => [j.left.name.text, j.right.name.text]) ∧
      q.conditions.map (fun c => filterColumn? c.text) =
        q.conditions.map (fun c => some c.column.name.text) :=
  ⟨by decide +kernel, extract_text _⟩

end SqlAdvice.Sql
