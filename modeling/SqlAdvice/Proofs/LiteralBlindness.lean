import SqlAdvice.Proofs.KeywordFront
import SqlAdvice.Proofs.LiteralTemplate

/-!
# Extractors do not look into literals

Join predicates and top-level conditions are cut out of a statement at places that its template
determines: two fillings of one template are cut at the same slots, so what is cut out is the same
part of the template, filled in (`joinPredicates_splitTopLevel_fill`).

Three facts carry this.

* Inside a literal an extractor acts on nothing, and a literal is passed over whole
  (`predicateSpan_of_isCovered` and its siblings).
* What stands at a position outside literals is decided before the next literal begins, by the
  front of the template that is left (`recognised_fill`, `closesPredicate_fill`).
* Cleaning takes blanks and terminators off the end, where a literal ends with its quote, so it
  takes off slots of the template (`clean_fill`).

Each extractor follows by induction on the template, slot by slot.
-/

namespace SqlAdvice.Sql

open SqlAdvice.Text

variable {prev quote : Option Char} {a rest : List Char} {t : Template} {σ : Filling}

/-! ## Over a literal -/

/-- No keyword begins with a quote. -/
lemma wordPhrase?_of_isQuote {c : Char} (hc : Literal.isQuote c = true) (k : Keyword)
    (cs : List Char) : wordPhrase? [k] prev (c :: cs) = none := by
  have hsilent : Silent [k] cs prev [c] := silent_mark (kind_of_isQuote hc).1
  exact hsilent.1 k List.mem_cons_self

lemma isQuote_of_covers {c : Char} (h : Literal.covers none c = true) :
    Literal.isQuote c = true := by
  simpa [Literal.covers] using h

lemma predicateSpan_of_isCovered (h : IsCovered quote a) :
    predicateSpan prev quote (a ++ rest) =
      a ++ predicateSpan (lastChar prev a) (Literal.openAfter quote a) rest := by
  induction a generalizing prev quote with
  | nil => rfl
  | cons c a ih =>
    obtain ⟨hc, ha⟩ := isCovered_cons.mp h
    have hopen : (quote.isNone && closesPredicate prev (c :: (a ++ rest))) = false := by
      cases quote with
      | some q => rfl
      | none =>
        exact closesPredicate_eq_false fun k _ => wordPhrase?_of_isQuote (isQuote_of_covers hc) k _
    rw [List.cons_append, predicateSpan, hopen, if_neg Bool.false_ne_true, ih ha]
    rfl

lemma predicateSpans_of_isCovered (h : IsCovered quote a) :
    predicateSpans 0 prev quote (a ++ rest) =
      predicateSpans 0 (lastChar prev a) (Literal.openAfter quote a) rest := by
  induction a generalizing prev quote with
  | nil => rfl
  | cons c a ih =>
    obtain ⟨hc, ha⟩ := isCovered_cons.mp h
    have hnone : (if quote.isNone then wordPhrase? [.ON] prev (c :: (a ++ rest)) else none) =
        none := by
      cases quote with
      | some q => rfl
      | none => exact wordPhrase?_of_isQuote (isQuote_of_covers hc) .ON _
    rw [List.cons_append, predicateSpans, hnone]
    exact ih ha

lemma topLevelParts_of_isCovered {depth : Nat} (h : IsCovered quote a) :
    topLevelParts 0 prev quote depth (a ++ rest) =
      (a ++ (topLevelParts 0 (lastChar prev a) (Literal.openAfter quote a) depth rest).1,
        (topLevelParts 0 (lastChar prev a) (Literal.openAfter quote a) depth rest).2) := by
  induction a generalizing prev quote with
  | nil => rfl
  | cons c a ih =>
    obtain ⟨hc, ha⟩ := isCovered_cons.mp h
    rw [List.cons_append, topLevelParts, if_pos hc, ih ha]
    rfl

/-! ## Up to the next literal -/

lemma isBarrier_back (σ : Filling) (t : Template) : IsBarrier (fill σ (back t)) :=
  isBarrier_of_isQuote fun _ hc => isQuote_of_mem_head?_back hc

/-- Clauses and joins begin at a slot of the template. -/
lemma closesPredicate_fill (σ : Filling) (prev : Option Char) (t : Template) :
    closesPredicate prev (fill σ t) = closesPredicate prev (front t) := by
  rw [fill_eq_append σ t, (isBarrier_back σ t).closesPredicate_append]

/-- Something is recognised at the beginning of a template: for all fillings it is at the same
slots, which are characters outside literals. -/
structure Begins (recognise : List Char → Option (List Char)) (t s t' : Template) : Prop where
  split : t = s ++ t'
  ne_nil : s ≠ []
  plain : ∀ slot ∈ s, slot.isPlain = true
  found : ∀ σ, recognise (fill σ t) = some (fill σ t')

lemma Begins.length_lt {recognise : List Char → Option (List Char)} {s t' : Template}
    (h : Begins recognise t s t') : t'.length < t.length := by
  have hpos := List.length_pos_iff.mpr h.ne_nil
  rw [h.split, List.length_append]
  omega

/-- What is recognised at the beginning of a template does not depend on the filling, if barriers
end it and it is not empty. -/
lemma recognised_fill {recognise : List Char → Option (List Char)}
    (hends : ∀ {tail}, IsBarrier tail → ∀ cs,
      recognise (cs ++ tail) = (recognise cs).map (· ++ tail))
    (hfront : ∀ {cs rest}, recognise cs = some rest → ∃ a, a ≠ [] ∧ cs = a ++ rest) (t : Template) :
    (∀ σ, recognise (fill σ t) = none) ∨ ∃ s t', Begins recognise t s t' := by
  have hfill : ∀ σ, recognise (fill σ t) = (recognise (front t)).map (· ++ fill σ (back t)) := by
    intro σ
    rw [fill_eq_append σ t, hends (isBarrier_back σ t)]
  cases hfound : recognise (front t) with
  | none => exact .inl fun σ => by rw [hfill, hfound, Option.map_none]
  | some rest =>
    obtain ⟨a, hne, hsplit⟩ := hfront hfound
    obtain ⟨s, t', rfl, hplain, hs, hrest⟩ := exists_of_front_eq_append hsplit
    refine .inr ⟨s, t', rfl, ?_, hplain, fun σ => ?_⟩
    · rintro rfl
      exact hne hs.symm
    · rw [hfill, hfound, Option.map_some, hrest]

lemma exists_of_wordPhrase? {k : Keyword} {cs : List Char}
    (h : wordPhrase? [k] prev cs = some rest) : ∃ a, a ≠ [] ∧ cs = a ++ rest := by
  obtain ⟨-, hread, -⟩ := wordPhrase?_singleton_eq_some.mp h
  obtain ⟨a, rfl, ha⟩ := letters?_eq_some_iff.mp hread
  refine ⟨a, ?_, rfl⟩
  rintro rfl
  exact letters_ne_nil k ha.symm

lemma exists_of_connective? {cs : List Char} (h : connective? prev cs = some rest) :
    ∃ a, a ≠ [] ∧ cs = a ++ rest := by
  rw [connective?, Option.or_eq_some_iff] at h
  obtain h | ⟨-, h⟩ := h
  · exact exists_of_wordPhrase? h
  · exact exists_of_wordPhrase? h

lemma wordPhrase?_fill (k : Keyword) (prev : Option Char) (t : Template) :
    (∀ σ, wordPhrase? [k] prev (fill σ t) = none) ∨
      ∃ s t', Begins (wordPhrase? [k] prev) t s t' :=
  recognised_fill (fun htail => htail.wordPhrase?_append [k] prev) exists_of_wordPhrase? t

lemma connective?_fill (prev : Option Char) (t : Template) :
    (∀ σ, connective? prev (fill σ t) = none) ∨ ∃ s t', Begins (connective? prev) t s t' :=
  recognised_fill (fun htail => htail.connective?_append prev) exists_of_connective? t

/-! ## Join predicates, slot by slot -/

lemma fill_cons_of_isPlain {slot : Slot} (h : slot.isPlain = true) :
    fill σ (slot :: t) = slot.last :: fill σ t := by
  rw [fill_cons, Slot.fill_of_isPlain h, List.singleton_append]

lemma next_last {slot : Slot} (h : slot.isPlain = true) : Literal.next none slot.last = none := by
  simp [Literal.next, Slot.isQuote_last, h]

lemma infix_cons_of_forall {slot : Slot} {ts : List Template} (h : ∀ s ∈ ts, s <:+: t) :
    ∀ s ∈ ts, s <:+: slot :: t :=
  fun s hs => (h s hs).trans (List.infix_cons List.infix_rfl)

/-- For all fillings, a predicate that begins with a template ends behind the same slot. -/
lemma predicateSpan_fill (prev : Option Char) (t : Template) :
    ∃ s t', t = s ++ t' ∧ ∀ σ, predicateSpan prev none (fill σ t) = fill σ s := by
  induction t generalizing prev with
  | nil => exact ⟨[], [], rfl, fun σ => rfl⟩
  | cons slot t ih =>
    obtain ⟨s, t', rfl, hspan⟩ := ih (some slot.last)
    by_cases hplain : slot.isPlain = true
    · by_cases hcloses : closesPredicate prev (front (slot :: (s ++ t'))) = true
      · refine ⟨[], _, rfl, fun σ => ?_⟩
        rw [← closesPredicate_fill σ] at hcloses
        rw [fill_cons_of_isPlain hplain] at hcloses ⊢
        rw [predicateSpan, hcloses]
        rfl
      · refine ⟨slot :: s, t', rfl, fun σ => ?_⟩
        rw [Bool.not_eq_true, ← closesPredicate_fill σ] at hcloses
        rw [fill_cons_of_isPlain hplain] at hcloses ⊢
        rw [predicateSpan, hcloses, Bool.and_false, if_neg Bool.false_ne_true, next_last hplain,
          hspan, fill_cons_of_isPlain hplain]
    · rw [Bool.not_eq_true] at hplain
      refine ⟨slot :: s, t', rfl, fun σ => ?_⟩
      rw [fill_cons, predicateSpan_of_isCovered (Slot.isCovered_fill hplain), Slot.lastChar_fill,
        Slot.openAfter_fill, hspan, fill_cons]

/-- For all fillings, the predicates of a template are the same parts of it. -/
structure HasSpans (prev : Option Char) (t : Template) (spans : List Template) : Prop where
  isInfix : ∀ s ∈ spans, s <:+: t
  spans_eq : ∀ σ, predicateSpans 0 prev none (fill σ t) = spans.map (fill σ)

namespace HasSpans

variable {slot : Slot} {spans : List Template}

/-- A slot where no predicate begins is passed over. -/
lemma pass (hnone : ∀ σ, wordPhrase? [.ON] prev (fill σ (slot :: t)) = none)
    (h : HasSpans (some slot.last) t spans) : HasSpans prev (slot :: t) spans where
  isInfix := infix_cons_of_forall h.isInfix
  spans_eq σ := by
    by_cases hplain : slot.isPlain = true
    · have hstep := hnone σ
      rw [fill_cons_of_isPlain hplain] at hstep ⊢
      rw [predicateSpans, hstep, ite_self, next_last hplain, h.spans_eq]
    · rw [Bool.not_eq_true] at hplain
      rw [fill_cons, predicateSpans_of_isCovered (Slot.isCovered_fill hplain),
        Slot.lastChar_fill, Slot.openAfter_fill, h.spans_eq]

/-- A predicate is passed over with the word in front of it. -/
lemma found {s span t' : Template} (hbegins : Begins (wordPhrase? [.ON] prev) t s (span ++ t'))
    (hspan : ∀ σ, predicateSpan none none (fill σ (span ++ t')) = fill σ span)
    (h : HasSpans (lastChar prev ((s ++ span).map Slot.last)) t' spans) :
    HasSpans prev t (span :: spans) where
  isInfix := by
    rw [hbegins.split]
    refine List.forall_mem_cons.mpr ⟨⟨s, t', by simp⟩, fun u hu => ?_⟩
    exact (h.isInfix u hu).trans ⟨s ++ span, [], by simp⟩
  spans_eq σ := by
    have hfound := hbegins.found σ
    have hcut := hspan σ
    rw [hbegins.split, fill_append, fill_append] at hfound
    rw [fill_append] at hcut
    rw [hbegins.split, fill_append, fill_append,
      predicateSpans_of_wordPhrase? (fill_ne_nil hbegins.ne_nil) hfound hcut, ← fill_append,
      lastChar_fill, openAfter_fill, h.spans_eq, List.map_cons]

end HasSpans

/-- By induction on the length of the template, since predicates are passed over. -/
lemma exists_hasSpans (prev : Option Char) (t : Template) : ∃ spans, HasSpans prev t spans := by
  induction hlength : t.length using Nat.strong_induction_on generalizing prev t with
  | h length ih =>
    subst hlength
    cases t with
    | nil => exact ⟨[], List.forall_mem_nil _, fun σ => rfl⟩
    | cons slot t =>
      obtain hnone | ⟨s, t', hbegins⟩ := wordPhrase?_fill .ON prev (slot :: t)
      · obtain ⟨spans, h⟩ := ih t.length (by simp) (some slot.last) t rfl
        exact ⟨spans, h.pass hnone⟩
      · obtain ⟨span, t'', rfl, hspan⟩ := predicateSpan_fill none t'
        have hshorter : t''.length < (slot :: t).length :=
          lt_of_le_of_lt (by simp) hbegins.length_lt
        obtain ⟨spans, h⟩ := ih t''.length hshorter _ t'' rfl
        exact ⟨span :: spans, .found hbegins hspan h⟩

/-! ## Conditions, slot by slot -/

/-- For all fillings, the parts of a template between its connectives are the same parts of it. -/
structure HasParts (prev : Option Char) (depth : Nat) (t part : Template)
    (parts : List Template) : Prop where
  isPrefix : part <+: t
  isInfix : ∀ s ∈ parts, s <:+: t
  parts_eq : ∀ σ, topLevelParts 0 prev none depth (fill σ t) = (fill σ part, parts.map (fill σ))

namespace HasParts

variable {slot : Slot} {depth : Nat} {part : Template} {parts : List Template}

/-- A literal goes to the part that is being read. -/
lemma literal (hplain : slot.isPlain = false) (h : HasParts (some slot.last) depth t part parts) :
    HasParts prev depth (slot :: t) (slot :: part) parts where
  isPrefix := List.cons_prefix_cons.mpr ⟨rfl, h.isPrefix⟩
  isInfix := infix_cons_of_forall h.isInfix
  parts_eq σ := by
    rw [fill_cons, topLevelParts_of_isCovered (Slot.isCovered_fill hplain), Slot.lastChar_fill,
      Slot.openAfter_fill, h.parts_eq, fill_cons]

/-- So does another character where no connective begins; it may be a parenthesis. -/
lemma plain (hplain : slot.isPlain = true)
    (hnone : depth = 0 → ∀ σ, connective? prev (fill σ (slot :: t)) = none)
    (h : HasParts (some slot.last) (depthAfter depth slot.last) t part parts) :
    HasParts prev depth (slot :: t) (slot :: part) parts where
  isPrefix := List.cons_prefix_cons.mpr ⟨rfl, h.isPrefix⟩
  isInfix := infix_cons_of_forall h.isInfix
  parts_eq σ := by
    have hcovers : Literal.covers none slot.last = false := by
      simp [Literal.covers, Slot.isQuote_last, hplain]
    have hstep :
        (if depth == 0 then connective? prev (slot.last :: fill σ t) else none) = none := by
      rw [← fill_cons_of_isPlain hplain]
      split
      · rename_i hdepth
        exact hnone (eq_of_beq hdepth) σ
      · rfl
    rw [fill_cons_of_isPlain hplain, topLevelParts, hcovers, if_neg Bool.false_ne_true, hstep,
      h.parts_eq, fill_cons_of_isPlain hplain]

/-- A connective ends the part before it. -/
lemma connective {s t' : Template} (hbegins : Begins (connective? prev) t s t')
    (h : HasParts (lastChar prev (s.map Slot.last)) 0 t' part parts) :
    HasParts prev 0 t [] (part :: parts) where
  isPrefix := List.nil_prefix
  isInfix := by
    rw [hbegins.split]
    have hsuffix : t' <:+: s ++ t' := (List.suffix_append s t').isInfix
    exact List.forall_mem_cons.mpr
      ⟨h.isPrefix.isInfix.trans hsuffix, fun u hu => (h.isInfix u hu).trans hsuffix⟩
  parts_eq σ := by
    have hfound := hbegins.found σ
    have hquotes : ∀ c ∈ fill σ s, Literal.isQuote c = false := by
      intro c hc
      rw [fill_of_isPlain hbegins.plain] at hc
      obtain ⟨slot, hslot, rfl⟩ := List.mem_map.mp hc
      rw [Slot.isQuote_last, hbegins.plain slot hslot, Bool.not_true]
    rw [hbegins.split, fill_append] at hfound
    rw [hbegins.split, fill_append,
      topLevelParts_of_connective? (fill_ne_nil hbegins.ne_nil) hquotes hfound, lastChar_fill,
      h.parts_eq, fill_nil, List.map_cons]

end HasParts

/-- By induction on the length of the template, since connectives are passed over. -/
lemma exists_hasParts (prev : Option Char) (depth : Nat) (t : Template) :
    ∃ part parts, HasParts prev depth t part parts := by
  induction hlength : t.length using Nat.strong_induction_on generalizing prev depth t with
  | h length ih =>
    subst hlength
    cases t with
    | nil => exact ⟨[], [], List.prefix_rfl, List.forall_mem_nil _, fun σ => rfl⟩
    | cons slot t =>
      by_cases hplain : slot.isPlain = true
      · by_cases hbegins : depth = 0 ∧ ∃ s t', Begins (connective? prev) (slot :: t) s t'
        · obtain ⟨rfl, s, t', hbegins⟩ := hbegins
          obtain ⟨part, parts, h⟩ := ih t'.length hbegins.length_lt _ 0 t' rfl
          exact ⟨[], part :: parts, .connective hbegins h⟩
        · obtain ⟨part, parts, h⟩ := ih t.length (by simp) _ (depthAfter depth slot.last) t rfl
          refine ⟨slot :: part, parts, h.plain hplain fun hdepth => ?_⟩
          exact (connective?_fill prev (slot :: t)).resolve_right fun h => hbegins ⟨hdepth, h⟩
      · rw [Bool.not_eq_true] at hplain
        obtain ⟨part, parts, h⟩ := ih t.length (by simp) _ depth t rfl
        exact ⟨slot :: part, parts, h.literal hplain⟩

/-! ## Cleaning -/

/-- What is no quote is dropped from the end of a filled template with its slots. -/
lemma dropTailWhile_fill {p : Char → Bool} (hp : ∀ c, Literal.isQuote c = true → p c = false)
    (σ : Filling) (t : Template) :
    dropTailWhile p (fill σ t) = fill σ (t.rdropWhile fun slot => p slot.last) := by
  induction t using List.reverseRecOn with
  | nil => rfl
  | append_singleton t slot ih =>
    by_cases hslot : p slot.last = true
    · have hplain : slot.isPlain = true := by
        by_contra hquote
        rw [hp _ (by simpa [Slot.isQuote_last] using hquote)] at hslot
        exact Bool.false_ne_true hslot
      have hdrop : (t ++ [slot]).rdropWhile (fun slot => p slot.last) =
          t.rdropWhile fun slot => p slot.last := List.rdropWhile_concat_pos _ _ _ hslot
      rw [hdrop, ← ih, fill_append, fill_cons_of_isPlain hplain]
      exact List.rdropWhile_concat_pos p (fill σ t) slot.last hslot
    · have hkeep : (t ++ [slot]).rdropWhile (fun slot => p slot.last) = t ++ [slot] :=
        List.rdropWhile_concat_neg _ _ _ hslot
      rw [hkeep]
      refine dropTailWhile_of_last fun c hc => ?_
      rw [fill_append, fill_cons, fill_nil, List.append_nil,
        List.getLast?_append_of_ne_nil _ slot.fill_ne_nil, Slot.getLast?_fill] at hc
      rw [← Option.mem_some.mp hc]
      exact Bool.eq_false_iff.mpr hslot

/-- A template without the blanks and the terminators at its end. -/
def cleaned (t : Template) : Template :=
  (t.rdropWhile fun slot => isBlank slot.last).rdropWhile fun slot => slot.last == ';'

lemma clean_fill (σ : Filling) (t : Template) :
    clean (fill σ t) = squeeze (fill σ (cleaned t)) := by
  rw [clean_eq, dropTailWhile_fill fun c hc => (kind_of_isQuote hc).2.1,
    dropTailWhile_fill (p := (· == ';')) fun c hc => (kind_of_isQuote hc).2.2, cleaned]

/-- Holds of templates that are blank, whatever they are filled with. -/
def isBlankTemplate (t : Template) : Bool :=
  t.all fun slot => isBlank slot.last

lemma isEmpty_squeeze_fill (σ : Filling) (t : Template) :
    (squeeze (fill σ t)).isEmpty = isBlankTemplate t := by
  rw [Bool.eq_iff_iff, List.isEmpty_iff, squeeze_eq_nil_iff, isBlankTemplate, List.all_eq_true]
  constructor
  · intro h slot hslot
    obtain ⟨cs, hcs⟩ := slot.exists_fill_eq_concat σ
    exact h _ (List.mem_flatMap.mpr ⟨slot, hslot, by simp [hcs]⟩)
  · intro h c hc
    obtain ⟨slot, hslot, hc⟩ := List.mem_flatMap.mp hc
    have hblank := h slot hslot
    by_cases hplain : slot.isPlain = true
    · rw [Slot.fill_of_isPlain hplain] at hc
      rwa [List.mem_singleton.mp hc]
    · have hquote : Literal.isQuote slot.last = true := by
        rw [Slot.isQuote_last, Bool.eq_false_iff.mpr hplain, Bool.not_false]
      exact absurd hblank (by simp [(kind_of_isQuote hquote).2.1])

/-- The parts of a template that are reported. -/
def cleanedAll (ts : List Template) : List Template :=
  (ts.map cleaned).filter fun t => !isBlankTemplate t

lemma cleanAll_fill (σ : Filling) (ts : List Template) :
    cleanAll (ts.map (fill σ)) = (cleanedAll ts).map fun t => squeeze (fill σ t) := by
  have hclean : (ts.map (fill σ)).map clean = (ts.map cleaned).map fun t => squeeze (fill σ t) := by
    simp [clean_fill]
  have hempty : ((fun cs : List Char => !cs.isEmpty) ∘ fun t => squeeze (fill σ t)) =
      fun t => !isBlankTemplate t := by
    funext t
    rw [Function.comp_apply, isEmpty_squeeze_fill]
  rw [cleanAll, hclean, List.filter_map, hempty, cleanedAll]

lemma isInfix_of_mem_cleanedAll {ts : List Template} (h : ∀ s ∈ ts, s <:+: t) :
    ∀ s ∈ cleanedAll ts, s <:+: t := by
  intro s hs
  obtain ⟨u, hu, rfl⟩ := List.mem_map.mp (List.mem_filter.mp hs).1
  have hprefix : cleaned u <+: u := (List.rdropWhile_prefix _ _).trans (List.rdropWhile_prefix _ _)
  exact hprefix.isInfix.trans (h u hu)

/-! ## What is cut out -/

/-- **Extractors do not look into literals.**  A statement whose literals are all closed is a
template that is filled in, with a hole of its own for each literal.  Whatever a template is filled
with, its join predicates and its top-level conditions are the same parts of it, one by one, filled
in with the same contents and then squeezed. -/
theorem joinPredicates_splitTopLevel_fill :
    (∀ sql, Literal.openAfter none sql = none ↔ ∃ t σ, (holes t).Nodup ∧ fill σ t = sql) ∧
    ∀ t, ∃ predicates segments : List Template,
      (∀ s ∈ predicates, s <:+: t) ∧ (∀ s ∈ segments, s <:+: t) ∧
      ∀ σ, joinPredicates (fill σ t) = predicates.map (fun s => squeeze (fill σ s)) ∧
        splitTopLevel (fill σ t) = segments.map (fun s => squeeze (fill σ s)) := by
  refine ⟨fun sql => openAfter_eq_none_iff, fun t => ?_⟩
  obtain ⟨spans, hspans⟩ := exists_hasSpans none t
  obtain ⟨part, parts, hparts⟩ := exists_hasParts none 0 t
  have hsegments : ∀ s ∈ part :: parts, s <:+: t :=
    List.forall_mem_cons.mpr ⟨hparts.isPrefix.isInfix, hparts.isInfix⟩
  refine ⟨cleanedAll spans, cleanedAll (part :: parts), isInfix_of_mem_cleanedAll hspans.isInfix,
    isInfix_of_mem_cleanedAll hsegments, fun σ => ⟨?_, ?_⟩⟩
  · rw [joinPredicates, hspans.spans_eq, cleanAll_fill]
  · rw [splitTopLevel, hparts.parts_eq]
    exact cleanAll_fill σ (part :: parts)

/-- A statement with keywords, a terminator and a parenthesis in its literals, and doubled quotes in
one of them: whatever else they contain, it has one join predicate and is cut once. -/
theorem joinPredicates_splitTopLevel_fill_keywords :
    let sql :=
      "FROM t JOIN b ON t.x = '; ON ''b'' (' AND b.y = \"OR WHERE\" WHERE t.z = ' JOIN '".toList
    ∃ t σ, (holes t).Nodup ∧ fill σ t = sql ∧
      joinPredicates sql = ["t.x = '; ON ''b'' (' AND b.y = \"OR WHERE\"".toList] ∧
      ∀ σ', (joinPredicates (fill σ' t)).length = 1 ∧ (splitTopLevel (fill σ' t)).length = 2 := by
  intro sql
  have hclosed : Literal.openAfter none sql = none := by decide +kernel
  have hjoins : joinPredicates sql = ["t.x = '; ON ''b'' (' AND b.y = \"OR WHERE\"".toList] := by
    decide +kernel
  have hcuts : (splitTopLevel sql).length = 2 := by decide +kernel
  obtain ⟨t, σ, hholes, hfill⟩ := (joinPredicates_splitTopLevel_fill.1 sql).mp hclosed
  obtain ⟨predicates, segments, -, -, hsame⟩ := joinPredicates_splitTopLevel_fill.2 t
  refine ⟨t, σ, hholes, hfill, hjoins, fun σ' => ?_⟩
  have hone : predicates.length = 1 := by
    have hlength := congrArg List.length (hsame σ).1
    rw [hfill, hjoins, List.length_map] at hlength
    exact hlength.symm
  have htwo : segments.length = 2 := by
    have hlength := congrArg List.length (hsame σ).2
    rw [hfill, hcuts, List.length_map] at hlength
    exact hlength.symm
  rw [(hsame σ').1, (hsame σ').2, List.length_map, List.length_map]
  exact ⟨hone, htwo⟩

end SqlAdvice.Sql
