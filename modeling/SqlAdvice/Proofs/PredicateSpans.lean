import SqlAdvice.Proofs.CleanedTexts
import SqlAdvice.Proofs.KeywordPlaces
import SqlAdvice.Proofs.Layout

/-!
# The spans of join predicates

A join predicate is what is between a word `ON` and the first clause or join behind it.  Said of
positions in the text, without the scan, that is a span (`IsSpan`), and the scan finds spans that
keep apart from each other and leave no word `ON` out: one either opens a span or lies inside of one
(`joinPredicates_eq_spans`).

A predicate is reported alone and cleaned, and it could seem that a clause begins in it then.  A
phrase could become complete where the text is cut off, or where blanks are squeezed.  Neither
happens: the text is cut off only where no word goes on (`predicateSpan_of_front`), and squeezed
texts are read alike (`predicateSpan_squeeze`).
-/

namespace SqlAdvice.Sql

open SqlAdvice.Text

variable {prev quote : Option Char} {a b d e rest span text x : List Char} {i j : Nat}

/-! ## Boundaries -/

/-- A clause or a join begins at a position, outside literals. -/
def IsBoundary (text : List Char) (i : Nat) : Prop :=
  ∃ ks j, IsClosing ks ∧ Stands ks text i j

lemma isBoundary_append_iff :
    IsBoundary (a ++ b) a.length ↔
      Literal.openAfter none a = none ∧ closesPredicate (lastChar none a) b = true := by
  rw [IsBoundary, closesPredicate_iff]
  constructor
  · rintro ⟨ks, j, hclosing, hstands⟩
    obtain ⟨hquote, w, rest, -, -, hfound⟩ := (stands_append_iff hclosing.ne_nil).mp hstands
    exact ⟨hquote, ks, rest, hclosing, hfound⟩
  · rintro ⟨hquote, ks, rest, hclosing, hfound⟩
    obtain ⟨-, ⟨w, hb, -⟩, -⟩ := (wordPhrase?_eq_some_iff hclosing.ne_nil).mp hfound
    exact ⟨ks, (a ++ w).length, hclosing,
      (stands_append_iff hclosing.ne_nil).mpr ⟨hquote, w, rest, hb, rfl, hfound⟩⟩

/-- A predicate ends at the first boundary behind its beginning, or with the text. -/
lemma predicateSpan_bounds (h : predicateSpan prev quote b = span)
    (hprev : lastChar none a = prev) (hquote : Literal.openAfter none a = quote) :
    ∃ rest, b = span ++ rest ∧ (rest = [] ∨ IsBoundary (a ++ b) (a ++ span).length) ∧
      ∀ i, a.length ≤ i → i < (a ++ span).length → ¬IsBoundary (a ++ b) i := by
  induction b generalizing a prev quote span with
  | nil =>
    obtain rfl : span = [] := h.symm
    exact ⟨[], rfl, .inl rfl, fun i hle hlt => absurd hlt (by simpa using hle)⟩
  | cons c cs ih =>
    rw [predicateSpan] at h
    split at h
    · rename_i hcloses
      obtain rfl : span = [] := h.symm
      rw [Bool.and_eq_true, Option.isNone_iff_eq_none] at hcloses
      refine ⟨c :: cs, rfl, .inr ?_, fun i hle hlt => absurd hlt (by simpa using hle)⟩
      rw [List.append_nil, isBoundary_append_iff, hprev, hquote]
      exact hcloses
    · rename_i hgoes
      obtain ⟨span, rfl⟩ : ∃ more, span = c :: more := ⟨_, h.symm⟩
      have hsplit : a ++ c :: cs = (a ++ [c]) ++ cs := by simp
      have hspan : a ++ c :: span = (a ++ [c]) ++ span := by simp
      obtain ⟨rest, rfl, hend, hclear⟩ := ih (a := a ++ [c]) (List.cons.inj h).2
        (lastChar_concat a c) (by rw [Literal.openAfter_append, hquote]; rfl)
      rw [hsplit, hspan]
      refine ⟨rest, rfl, hend, fun i hle hlt => ?_⟩
      obtain rfl | hless := hle.eq_or_lt
      · rw [← hsplit, isBoundary_append_iff, hprev, hquote]
        simpa [Option.isNone_iff_eq_none] using hgoes
      · exact hclear i (by simpa [Nat.succ_le_iff] using hless) hlt

/-- Where no word goes on, it does not matter what is in front of a predicate. -/
lemma predicateSpan_congr {p q : Option Char} (h : closesWord b = true) :
    predicateSpan p quote b = predicateSpan q quote b := by
  cases b with
  | nil => rfl
  | cons c cs =>
    have hc : isWord c = false := isWord_of_closesWord h c rfl
    have hnone : ∀ p, closesPredicate p (c :: cs) = false := fun p =>
      closesPredicate_eq_false (silent_mark hc).1
    rw [predicateSpan, predicateSpan, hnone, hnone]

/-! ## The scan -/

/-- What the scan for predicates makes of a text, where the character before it and the open literal
are given. -/
inductive Spans : Option Char → Option Char → List Char → List (List Char) → Prop
  | done {prev quote : Option Char} : Spans prev quote [] []
  | pass {prev quote : Option Char} {c : Char} {cs : List Char} {spans : List (List Char)}
      (hnone : quote = none → wordPhrase? [.ON] prev (c :: cs) = none)
      (hrest : Spans (some c) (Literal.next quote c) cs spans) : Spans prev quote (c :: cs) spans
  | found {prev : Option Char} {w span rest : List Char} {spans : List (List Char)}
      (hfound : wordPhrase? [.ON] prev (w ++ (span ++ rest)) = some (span ++ rest))
      (hspan : predicateSpan none none (span ++ rest) = span)
      (hrest : Spans (lastChar prev (w ++ span)) (Literal.openAfter none (w ++ span)) rest spans) :
      Spans prev none (w ++ (span ++ rest)) (span :: spans)

/-- By induction on the length, since predicates are passed over. -/
lemma spans_predicateSpans (prev quote : Option Char) (cs : List Char) :
    Spans prev quote cs (predicateSpans 0 prev quote cs) := by
  induction hlength : cs.length using Nat.strong_induction_on generalizing prev quote cs with
  | h length ih =>
    subst hlength
    cases cs with
    | nil =>
      rw [predicateSpans]
      exact .done
    | cons c cs =>
      cases hfound : if quote.isNone then wordPhrase? [.ON] prev (c :: cs) else none with
      | none =>
        rw [predicateSpans, hfound]
        refine .pass (fun hquote => ?_) (ih cs.length (by simp) (some c) (Literal.next quote c) cs rfl)
        rwa [hquote, Option.isNone_none, if_pos rfl] at hfound
      | some behind =>
        obtain ⟨hquote, hfound⟩ := Option.ite_none_right_eq_some.mp hfound
        obtain rfl := Option.isNone_iff_eq_none.mp hquote
        obtain ⟨-, ⟨w, hw, hspells⟩, -⟩ := (wordPhrase?_eq_some_iff (by simp)).mp hfound
        obtain ⟨span, hspan⟩ : ∃ span, predicateSpan none none behind = span := ⟨_, rfl⟩
        obtain ⟨rest, rfl, -, -⟩ := predicateSpan_bounds (a := []) hspan rfl rfl
        have hpos := List.length_pos_iff.mpr hspells.ne_nil
        have hlt : rest.length < (c :: cs).length := by
          rw [hw]
          simp only [List.length_append]
          omega
        rw [hw] at hfound hlt ⊢
        rw [predicateSpans_of_wordPhrase? hspells.ne_nil hfound hspan]
        exact .found hfound hspan (ih rest.length (hw ▸ hlt) _ _ rest rfl)

/-! ## Spans -/

/-- A span of a text that begins right behind a word `ON`, and ends where the first clause or join
behind that begins, or with the text. -/
structure IsSpan (text : List Char) (start stop : Nat) : Prop where
  opened : ∃ i, Stands [.ON] text i start
  le_stop : start ≤ stop
  closed : stop = text.length ∨ IsBoundary text stop
  clear : ∀ i, start ≤ i → i < stop → ¬IsBoundary text i

/-- A word `ON` that begins in front of the end of a span ends there as well. -/
lemma IsSpan.le_of_stands {start stop : Nat} (h : IsSpan text start stop)
    (hon : Stands [.ON] text i j) (hi : i < stop) : j ≤ stop := by
  obtain hend | ⟨ks, _, -, hboundary⟩ := h.closed
  · rw [hend]
    exact hon.le_length
  · obtain ⟨a, w, rest, rfl, rfl, rfl, hspells⟩ := hon.exists_append (by simp)
    obtain hle | hlt := hboundary.le_or_lt (isWord_of_map_foldCase (spells_singleton.mp hspells))
    · exact absurd hle (not_le.mpr hi)
    · exact hlt.le

/-- What the scan finds at a word `ON` is a span. -/
lemma isSpan_of_wordPhrase? {w : List Char} (hquote : Literal.openAfter none a = none)
    (hfound : wordPhrase? [.ON] (lastChar none a) (w ++ (span ++ rest)) = some (span ++ rest))
    (hw : ∀ c ∈ w, isWord c = true) (hspan : predicateSpan none none (span ++ rest) = span) :
    IsSpan (a ++ (w ++ (span ++ rest))) (a ++ w).length (a ++ w ++ span).length := by
  obtain ⟨-, -, hclose⟩ := (wordPhrase?_eq_some_iff (by simp)).mp hfound
  have hopen : Literal.openAfter none (a ++ w) = none := by
    rw [Literal.openAfter_append, hquote, openAfter_of_isWord isOpen_none hw]
  rw [predicateSpan_congr (q := lastChar none (a ++ w)) hclose] at hspan
  obtain ⟨rest', hrest, hend, hclear⟩ := predicateSpan_bounds hspan rfl hopen
  obtain rfl := List.append_cancel_left hrest
  rw [← List.append_assoc]
  refine ⟨⟨a.length, ?_⟩, by simp, ?_, hclear⟩
  · rw [List.append_assoc]
    exact (stands_iff_of_wordPhrase? (by simp) hquote hfound).mpr rfl
  · exact hend.imp_left fun hnil => by rw [hnil, List.append_nil]

/-- The spans behind a position of a text, in order, when no word `ON` from there on is left out. -/
structure AreSpans (text : List Char) (start : Nat) (spans : List (Nat × Nat)) : Prop where
  isSpan : ∀ s ∈ spans, start < s.1 ∧ IsSpan text s.1 s.2
  apart : spans.Pairwise fun s t => s.2 < t.1
  exists_mem {i j : Nat} (hi : start ≤ i) (h : Stands [.ON] text i j) :
    ∃ s ∈ spans, j = s.1 ∨ s.1 ≤ i ∧ j ≤ s.2

namespace AreSpans

variable {start : Nat} {spans : List (Nat × Nat)}

lemma nil : AreSpans text text.length [] where
  isSpan := List.forall_mem_nil _
  apart := .nil
  exists_mem hi h := absurd h.lt_length (not_lt.mpr hi)

lemma of_succ (hnot : ∀ j, ¬Stands [.ON] text start j) (h : AreSpans text (start + 1) spans) :
    AreSpans text start spans where
  isSpan s hs := ⟨Nat.lt_of_succ_lt (h.isSpan s hs).1, (h.isSpan s hs).2⟩
  apart := h.apart
  exists_mem hi hon := by
    obtain rfl | hlt := hi.eq_or_lt
    · exact absurd hon (hnot _)
    · exact h.exists_mem hlt hon

/-- One more span in front of the others.  A word `ON` behind the one that opens the span is in it or
behind it. -/
lemma cons {w : List Char} {stop : Nat} (hw : ∀ c ∈ w, isWord c = true) (hne : w ≠ [])
    (hon : ∀ j, Stands [.ON] (a ++ (w ++ rest)) a.length j → j = (a ++ w).length)
    (hspan : IsSpan (a ++ (w ++ rest)) (a ++ w).length stop)
    (h : AreSpans (a ++ (w ++ rest)) stop spans) :
    AreSpans (a ++ (w ++ rest)) a.length (((a ++ w).length, stop) :: spans) := by
  have hstart : a.length < (a ++ w).length := by simpa using List.length_pos_iff.mpr hne
  refine ⟨List.forall_mem_cons.mpr ⟨⟨hstart, hspan⟩, fun s hs => ⟨?_, (h.isSpan s hs).2⟩⟩,
    .cons (fun s hs => (h.isSpan s hs).1) h.apart, fun {i j} hi hthere => ?_⟩
  · exact (hstart.trans_le hspan.le_stop).trans (h.isSpan s hs).1
  · obtain rfl | hbehind := hi.eq_or_lt
    · exact ⟨_, List.mem_cons_self, .inl (hon j hthere)⟩
    · have hlt := (hthere.le_or_lt hw).resolve_left (not_le.mpr hbehind)
      by_cases hinside : i < stop
      · exact ⟨_, List.mem_cons_self, .inr ⟨hlt.le, hspan.le_of_stands hthere hinside⟩⟩
      · obtain ⟨s, hs, hmore⟩ := h.exists_mem (not_lt.mp hinside) hthere
        exact ⟨s, List.mem_cons_of_mem _ hs, hmore⟩

end AreSpans

/-- The spans behind a position are those that the scan finds from there on.  By induction on the
scan, where `a` is what it has read already. -/
lemma exists_spans {texts : List (List Char)} (h : Spans prev quote b texts)
    (hprev : lastChar none a = prev) (hquote : Literal.openAfter none a = quote) :
    ∃ spans : List (Nat × Nat), AreSpans (a ++ b) a.length spans ∧
      texts = spans.map fun s => (a ++ b).extract s.1 s.2 := by
  induction h generalizing a with
  | done =>
    rw [List.append_nil]
    exact ⟨[], .nil, rfl⟩
  | @pass prev quote c cs texts hnone hrest ih =>
    obtain ⟨spans, hspans, htexts⟩ := ih (a := a ++ [c]) (lastChar_concat a c)
      (by rw [Literal.openAfter_append, hquote]; rfl)
    rw [List.append_assoc, List.singleton_append] at hspans htexts
    rw [List.length_append, List.length_singleton] at hspans
    refine ⟨spans, hspans.of_succ fun j hstands => ?_, htexts⟩
    obtain ⟨hopen, _, rest, -, -, hfound⟩ := (stands_append_iff (by simp)).mp hstands
    rw [hprev, hnone (hquote.symm.trans hopen)] at hfound
    exact Option.some_ne_none rest hfound.symm
  | @found prev w span rest texts hfound hspan hrest ih =>
    have hspells := spells_of_wordPhrase? (by simp) hfound
    have hword := isWord_of_map_foldCase (spells_singleton.mp hspells)
    obtain ⟨spans, hspans, htexts⟩ := ih (a := a ++ w ++ span)
      (by rw [List.append_assoc, lastChar_append, hprev])
      (by rw [List.append_assoc, Literal.openAfter_append, hquote])
    have hsplit : (a ++ w ++ span) ++ rest = a ++ (w ++ (span ++ rest)) := by simp
    rw [hsplit] at hspans htexts
    rw [← hprev] at hfound
    refine ⟨((a ++ w).length, (a ++ w ++ span).length) :: spans,
      .cons hword hspells.ne_nil (fun j => ?_) ?_ hspans, ?_⟩
    · exact (stands_iff_of_wordPhrase? (by simp) hquote hfound).mp
    · exact isSpan_of_wordPhrase? hquote hfound hword hspan
    · rw [List.map_cons, ← htexts, ← hsplit, extract_length, List.drop_left]

/-! ## Predicates on their own -/

/-- Where no boundary is found up to the end of a text there is none. -/
lemma not_isBoundary (h : predicateSpan none none x = x) (i : Nat) : ¬IsBoundary x i := by
  rintro ⟨ks, j, hclosing, hstands⟩
  obtain ⟨_, -, -, hclear⟩ := predicateSpan_bounds (a := []) h rfl rfl
  exact hclear i (Nat.zero_le i) hstands.lt_length ⟨ks, j, hclosing, hstands⟩

/-- A boundary that is found in the front of a text is there in the whole text as well. -/
lemma predicateSpan_of_front (hparts : PartsWords prev d e)
    (h : d <+: predicateSpan prev quote (d ++ e)) : predicateSpan prev quote d = d := by
  induction d generalizing prev quote with
  | nil => rfl
  | cons c d ih =>
    rw [List.cons_append, predicateSpan] at h
    split at h
    · exact absurd h (by simp)
    · rename_i hgoes
      have hrest : predicateSpan (some c) (Literal.next quote c) d = d :=
        ih hparts (List.cons_prefix_cons.mp h).2
      have hfront : ¬(quote.isNone && closesPredicate prev (c :: d)) = true := by
        rw [Bool.and_eq_true] at hgoes ⊢
        exact fun hboth => hgoes ⟨hboth.1, closesPredicate_append_of_partsWords hparts hboth.2⟩
      rw [predicateSpan, if_neg hfront, hrest]

lemma isBlank_of_samePlace_nil {v : Variation} {p q : Option Char} (h : SamePlace v p a q b)
    (ha : a = []) : ∀ c ∈ b, isBlank c = true := by
  cases h with
  | ends h => exact h.right
  | gap h hx _ => exact absurd (List.append_eq_nil_iff.mp ha).1 hx
  | char _ _ _ _ _ => cases ha

/-- Squeezing adds no boundary.  Behind what is found in the squeezed text there can only be blanks,
and there are none at its end. -/
lemma predicateSpan_squeeze (h : predicateSpan none none d = d) :
    predicateSpan none none (squeeze d) = squeeze d := by
  obtain ⟨blanks, b, hd, hblank, hvariant⟩ := exists_variant_squeeze d
  have hopens : opensWord (lastChar none blanks) = opensWord none :=
    opensWord_lastChar_of_blank hblank rfl
  obtain ⟨x, y, a', b', ha, hb, hx, hy, -, hplace⟩ :=
    predicateSpan_variant isOpen_none hopens hvariant
  have hnil : a' = [] := by
    rw [hd, predicateSpan_of_blank isOpen_none hblank, hx] at h
    rw [← List.append_cancel_left h] at ha
    simpa using ha
  have hrest := isBlank_of_samePlace_nil (hplace (p := none) (q := none) rfl) hnil
  obtain rfl | ⟨b', c, rfl⟩ := List.eq_nil_or_concat' b'
  · rw [hy, hb, List.append_nil]
  · have hne : squeeze d ≠ [] := by
      rw [hb]
      simp
    have hends := (tidy_squeeze hne).noBlankEnds
    rw [hb, ← List.append_assoc] at hends
    have hc := hends.last c List.getLast?_concat
    rw [hrest c (by simp)] at hc
    exact absurd hc Bool.noConfusion

/-- **A predicate on its own** holds no boundary. -/
lemma predicateSpan_clean (h : predicateSpan none none (span ++ rest) = span) :
    predicateSpan none none (clean span) = clean span := by
  obtain ⟨d, tail, rfl, htail, hclean⟩ := exists_clean_eq_squeeze span
  have hparts : PartsWords none d (tail ++ rest) := by
    cases tail with
    | cons c tail =>
      have hclose := closesWord_of_cleaned htail
      exact .inl hclose
    | nil =>
      rw [List.append_nil] at h
      obtain ⟨rest', hrest, hend, -⟩ := predicateSpan_bounds (a := []) h rfl rfl
      obtain rfl := List.append_cancel_left hrest
      refine hend.imp (fun hnil => by rw [hnil]; rfl) fun hboundary => ?_
      obtain ⟨_, _, -, hstands⟩ := hboundary
      have hopens := hstands.opens
      rw [List.nil_append, List.nil_append, List.take_left] at hopens
      exact opensWord_lastChar_iff.mpr hopens
  rw [hclean]
  refine predicateSpan_squeeze (predicateSpan_of_front hparts ?_)
  rw [← List.append_assoc, h]
  exact List.prefix_append d tail

lemma predicateSpan_of_mem_spans {texts : List (List Char)} (h : Spans prev quote b texts) :
    ∀ x ∈ texts, predicateSpan none none (clean x) = clean x := by
  induction h with
  | done => exact List.forall_mem_nil _
  | pass _ _ ih => exact ih
  | found _ hspan _ ih => exact List.forall_mem_cons.mpr ⟨predicateSpan_clean hspan, ih⟩

/-- **Join predicates** are the texts of spans, cleaned and without the empty ones.  The spans are in
order and apart from each other, each begins right behind a word `ON` and ends at the first boundary
behind that or with the text, and there is no other word `ON` than those that open them and those
inside of them.  Taken alone, a predicate holds no boundary. -/
theorem joinPredicates_eq_spans (text : List Char) :
    ∃ spans : List (Nat × Nat), spans.Pairwise (fun s t => s.2 < t.1) ∧
      (∀ s ∈ spans, IsSpan text s.1 s.2) ∧
      (∀ i j, Stands [.ON] text i j → ∃ s ∈ spans, j = s.1 ∨ s.1 ≤ i ∧ j ≤ s.2) ∧
      joinPredicates text =
        ((spans.map fun s => text.extract s.1 s.2).map clean).filter (fun x => !x.isEmpty) ∧
      ∀ x ∈ joinPredicates text, ∀ i, ¬IsBoundary x i := by
  have hscan := spans_predicateSpans none none text
  obtain ⟨spans, hspans, htexts⟩ := exists_spans (a := []) hscan rfl rfl
  rw [List.nil_append] at hspans htexts
  refine ⟨spans, hspans.apart, fun s hs => (hspans.isSpan s hs).2,
    fun i _ => hspans.exists_mem (Nat.zero_le i), by rw [joinPredicates, cleanAll, htexts],
    fun x hx => ?_⟩
  obtain ⟨span, hspan, rfl, -⟩ := exists_of_mem_cleanAll hx
  exact not_isBoundary (predicateSpan_of_mem_spans hscan span hspan)

/-- Neither the clause in the literal nor the second `ON` counts. -/
example :
    joinPredicates "from t left join u on t.a = 'x where' and on = 1 inner join v on b".toList =
      ["t.a = 'x where' and on = 1".toList, "b".toList] := by
  decide +kernel

end SqlAdvice.Sql
