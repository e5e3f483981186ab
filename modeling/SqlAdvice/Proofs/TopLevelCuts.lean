import SqlAdvice.Proofs.KeywordPlaces

/-!
# The cuts at top-level connectives

Where a text is cut can be said without following the scan: at every connective that stands alone,
outside literals and at parenthesis depth 0 (`IsCut`).  A text has finitely many cuts, no two of
them touch each other, and what `splitTopLevel` gives back is what is left between them, cleaned and
without the empty texts (`splitTopLevel_eq_between`).

The scan is taken apart once.  `Parts` tells the three things it can do at a position: it ends, it
keeps the character, or it passes over a connective.  Its induction principle is the one that the
other facts about the parts use as well.
-/

namespace SqlAdvice.Sql

open SqlAdvice.Text

variable {prev quote : Option Char} {depth : Nat} {a b cs rest text w x part : List Char}
  {parts : List (List Char)}

/-! ## Nesting -/

/-- The characters of a text outside literals, where the literal open before the text is given. -/
def outside (quote : Option Char) : List Char → List Char
  | [] => []
  | c :: cs =>
    if Literal.covers quote c then outside (Literal.next quote c) cs
    else c :: outside (Literal.next quote c) cs

/-- The parenthesis depth at the end of a text.  Only characters outside literals count. -/
def nesting (quote : Option Char) (depth : Nat) (cs : List Char) : Nat :=
  (outside quote cs).foldl depthAfter depth

lemma nesting_cons (c : Char) (cs : List Char) :
    nesting quote depth (c :: cs) = nesting (Literal.next quote c) (nesting quote depth [c]) cs := by
  rw [nesting, outside, nesting, nesting, outside]
  split <;> rfl

lemma nesting_append (a b : List Char) :
    nesting quote depth (a ++ b) = nesting (Literal.openAfter quote a) (nesting quote depth a) b := by
  induction a generalizing quote depth with
  | nil => rfl
  | cons c a ih =>
    rw [List.cons_append, nesting_cons, ih, nesting_cons c a]
    rfl

lemma nesting_of_covers {c : Char} (h : Literal.covers quote c = true) :
    nesting quote depth [c] = depth := by
  rw [nesting, outside, if_pos h]
  rfl

lemma nesting_of_not_covers {c : Char} (h : ¬Literal.covers quote c = true) :
    nesting quote depth [c] = depthAfter depth c := by
  rw [nesting, outside, if_neg h]
  rfl

lemma closed_of_not_covers {c : Char} (h : ¬Literal.covers quote c = true) :
    quote = none ∧ Literal.next quote c = none := by
  rw [Literal.covers, Bool.or_eq_true, not_or, Option.not_isSome_iff_eq_none] at h
  obtain ⟨rfl, hquote⟩ := h
  exact ⟨rfl, by rw [Literal.next, if_neg hquote]⟩

/-- Characters that are no parentheses do not change the depth. -/
lemma nesting_of_flat (h : ∀ c ∈ x, c ≠ '(' ∧ c ≠ ')') : nesting quote depth x = depth := by
  induction x generalizing quote with
  | nil => rfl
  | cons c x ih =>
    obtain ⟨⟨hopen, hclose⟩, hx⟩ := List.forall_mem_cons.mp h
    have hdepth : nesting quote depth [c] = depth := by
      by_cases hcovers : Literal.covers quote c = true
      · exact nesting_of_covers hcovers
      · rw [nesting_of_not_covers hcovers, depthAfter, if_neg (by simpa using hopen),
          if_neg (by simpa using hclose)]
    rw [nesting_cons, hdepth]
    exact ih hx

lemma flat_of_isWord (hx : ∀ c ∈ x, isWord c = true) : ∀ c ∈ x, c ≠ '(' ∧ c ≠ ')' :=
  fun c hc => ⟨ne_of_apply (hx c hc) (by decide), ne_of_apply (hx c hc) (by decide)⟩

/-! ## Connectives -/

/-- At most one connective stands at a position. -/
lemma connective?_eq_some_iff :
    connective? prev cs = some rest ↔
      ∃ k ∈ [Keyword.AND, .OR], wordPhrase? [k] prev cs = some rest := by
  rw [connective?, Option.or_eq_some_iff]
  constructor
  · rintro (h | ⟨-, h⟩)
    · exact ⟨.AND, by simp, h⟩
    · exact ⟨.OR, by simp, h⟩
  · rintro ⟨k, hk, h⟩
    obtain rfl | rfl : k = .AND ∨ k = .OR := by simpa using hk
    · exact .inl h
    · refine .inr ⟨?_, h⟩
      by_contra hand
      have hletters := (wordPhrase?_singleton_isSome.mp (Option.isSome_iff_ne_none.mpr hand)).2
      rw [(wordPhrase?_singleton_isSome.mp (Option.isSome_of_eq_some h)).2] at hletters
      exact absurd hletters (by decide)

lemma connective?_cases (h : connective? prev cs = some rest) :
    opensWord prev = true ∧ (∃ w, w ≠ [] ∧ cs = w ++ rest) ∧ closesWord rest = true := by
  obtain ⟨k, -, hk⟩ := connective?_eq_some_iff.mp h
  obtain ⟨hopens, ⟨w, hw, hspells⟩, hcloses⟩ := (wordPhrase?_eq_some_iff (by simp)).mp hk
  exact ⟨hopens, ⟨w, hspells.ne_nil, hw⟩, hcloses⟩

/-! ## The scan -/

/-- What the scan makes of a text, where the character before it, the open literal and the depth
are given: the part before the first cut, and the parts after it. -/
inductive Parts : Option Char → Option Char → Nat → List Char → List Char → List (List Char) → Prop
  | done {prev quote : Option Char} {depth : Nat} : Parts prev quote depth [] [] []
  | keep {prev quote : Option Char} {depth : Nat} {c : Char} {cs part : List Char}
      {parts : List (List Char)}
      (hnone : quote = none → depth = 0 → connective? prev (c :: cs) = none)
      (hrest : Parts (some c) (Literal.next quote c) (nesting quote depth [c]) cs part parts) :
      Parts prev quote depth (c :: cs) (c :: part) parts
  | cut {prev : Option Char} {w rest part : List Char} {parts : List (List Char)} (hne : w ≠ [])
      (hfound : connective? prev (w ++ rest) = some rest)
      (hrest : Parts (lastChar prev w) none 0 rest part parts) :
      Parts prev none 0 (w ++ rest) [] (part :: parts)

/-- A character at which no connective is found goes to the part that is being read.  In a literal
and inside parentheses it does so whatever it is. -/
lemma topLevelParts_cons {c : Char}
    (hnone : quote = none → depth = 0 → connective? prev (c :: cs) = none) :
    topLevelParts 0 prev quote depth (c :: cs) =
      (c :: (topLevelParts 0 (some c) (Literal.next quote c) (nesting quote depth [c]) cs).1,
        (topLevelParts 0 (some c) (Literal.next quote c) (nesting quote depth [c]) cs).2) := by
  by_cases hcovers : Literal.covers quote c = true
  · rw [topLevelParts, if_pos hcovers, nesting_of_covers hcovers]
  · obtain ⟨rfl, hnext⟩ := closed_of_not_covers hcovers
    have hfound : (if depth == 0 then connective? prev (c :: cs) else none) = none := by
      split
      · rename_i hdepth
        exact hnone rfl (eq_of_beq hdepth)
      · rfl
    rw [topLevelParts, if_neg hcovers, hfound, nesting_of_not_covers hcovers, hnext]

/-- By induction on the length, since connectives are passed over. -/
lemma parts_topLevelParts (prev quote : Option Char) (depth : Nat) (cs : List Char) :
    Parts prev quote depth cs (topLevelParts 0 prev quote depth cs).1
      (topLevelParts 0 prev quote depth cs).2 := by
  induction hlength : cs.length using Nat.strong_induction_on
    generalizing prev quote depth cs with
  | h length ih =>
    subst hlength
    cases cs with
    | nil =>
      rw [topLevelParts]
      exact .done
    | cons c cs =>
      by_cases hnone : quote = none → depth = 0 → connective? prev (c :: cs) = none
      · rw [topLevelParts_cons hnone]
        exact .keep hnone (ih cs.length (by simp) _ _ _ cs rfl)
      · simp only [not_forall] at hnone
        obtain ⟨rfl, rfl, hsome⟩ := hnone
        obtain ⟨rest, hfound⟩ := Option.ne_none_iff_exists'.mp hsome
        obtain ⟨-, ⟨w, hne, hw⟩, -⟩ := connective?_cases hfound
        have hpos := List.length_pos_iff.mpr hne
        have hrest := ih rest.length (by rw [hw, List.length_append]; omega) (lastChar prev w) none
          0 rest rfl
        rw [hw] at hfound ⊢
        rw [topLevelParts_of_connective? hne
          (fun c hc => isQuote_of_isWord (isWord_of_connective? hfound c hc)) hfound]
        exact .cut hne hfound hrest

/-- **The scan** is what `Parts` says, and nothing else. -/
lemma parts_iff :
    Parts prev quote depth cs part parts ↔ topLevelParts 0 prev quote depth cs = (part, parts) := by
  constructor
  · intro h
    induction h with
    | done => rw [topLevelParts]
    | keep hnone _ ih => rw [topLevelParts_cons hnone, ih]
    | cut hne hfound _ ih =>
      rw [topLevelParts_of_connective? hne
        (fun c hc => isQuote_of_isWord (isWord_of_connective? hfound c hc)) hfound, ih]
  · intro h
    have hscan := parts_topLevelParts prev quote depth cs
    rwa [h] at hscan

/-! ## Cuts -/

/-- A connective that stands between two positions of a text, outside literals and outside
parentheses. -/
structure IsCut (text : List Char) (i j : Nat) : Prop where
  stands : ∃ k ∈ [Keyword.AND, .OR], Stands [k] text i j
  outer : nesting none 0 (text.take i) = 0

/-- The parts of a text, from a position on, between spans that are taken out of it. -/
def between (text : List Char) : Nat → List (Nat × Nat) → List (List Char)
  | start, [] => [text.drop start]
  | start, (i, j) :: cuts => text.extract start i :: between text j cuts

lemma isCut_append_iff {j : Nat} :
    IsCut (a ++ b) a.length j ↔ Literal.openAfter none a = none ∧ nesting none 0 a = 0 ∧
      ∃ w rest, b = w ++ rest ∧ j = (a ++ w).length ∧
        connective? (lastChar none a) b = some rest := by
  constructor
  · rintro ⟨⟨k, hk, hstands⟩, houter⟩
    obtain ⟨hquote, w, rest, hb, hj, hfound⟩ := (stands_append_iff (by simp)).mp hstands
    rw [List.take_left] at houter
    exact ⟨hquote, houter, w, rest, hb, hj, connective?_eq_some_iff.mpr ⟨k, hk, hfound⟩⟩
  · rintro ⟨hquote, houter, w, rest, hb, hj, hfound⟩
    obtain ⟨k, hk, hphrase⟩ := connective?_eq_some_iff.mp hfound
    have hstands := (stands_append_iff (by simp)).mpr ⟨hquote, w, rest, hb, hj, hphrase⟩
    exact ⟨⟨k, hk, hstands⟩, by rwa [List.take_left]⟩

/-- Where the scan passes over a connective there is one cut. -/
lemma isCut_iff_of_connective? {j : Nat} (hquote : Literal.openAfter none a = none)
    (hdepth : nesting none 0 a = 0) (hfound : connective? (lastChar none a) (w ++ rest) = some rest) :
    IsCut (a ++ (w ++ rest)) a.length j ↔ j = (a ++ w).length := by
  rw [isCut_append_iff, hfound]
  constructor
  · rintro ⟨-, -, v, rest', hv, hj, hsame⟩
    obtain rfl := Option.some.inj hsame
    rw [hj, List.append_cancel_right hv]
  · exact fun hj => ⟨hquote, hdepth, w, rest, rfl, hj, rfl⟩

/-- The cuts of a text from a position on, in order. -/
structure AreCuts (text : List Char) (start : Nat) (cuts : List (Nat × Nat)) : Prop where
  mem_iff {i j : Nat} : (i, j) ∈ cuts ↔ start ≤ i ∧ IsCut text i j
  apart : cuts.Pairwise fun c d => c.2 < d.1

namespace AreCuts

variable {start : Nat} {cuts : List (Nat × Nat)}

lemma nil : AreCuts text text.length [] where
  mem_iff := by
    intro i j
    refine iff_of_false List.not_mem_nil ?_
    rintro ⟨hle, ⟨_, -, hstands⟩, -⟩
    exact absurd hstands.lt_length (not_lt.mpr hle)
  apart := .nil

lemma of_succ (hnot : ∀ j, ¬IsCut text start j) (h : AreCuts text (start + 1) cuts) :
    AreCuts text start cuts where
  mem_iff := by
    intro i j
    rw [h.mem_iff, Nat.add_one_le_iff]
    refine and_congr_left fun hcut => ⟨le_of_lt, fun hle => lt_of_le_of_ne hle ?_⟩
    rintro rfl
    exact hnot _ hcut
  apart := h.apart

/-- One more cut in front of the others: there is none behind the first character of its connective,
up to the end of it. -/
lemma cons (hne : w ≠ []) (hw : ∀ c ∈ w, isWord c = true)
    (hcut : ∀ j, IsCut (a ++ (w ++ rest)) a.length j ↔ j = (a ++ w).length)
    (h : AreCuts (a ++ (w ++ rest)) (a ++ w).length cuts) :
    AreCuts (a ++ (w ++ rest)) a.length ((a.length, (a ++ w).length) :: cuts) := by
  have hlt : a.length < (a ++ w).length := by simpa using List.length_pos_iff.mpr hne
  have hbehind : ∀ {i j : Nat}, a.length < i → IsCut (a ++ (w ++ rest)) i j →
      (a ++ w).length < i := by
    rintro i j hi ⟨⟨_, -, hstands⟩, -⟩
    exact (hstands.le_or_lt hw).resolve_left (not_le.mpr hi)
  constructor
  · intro i j
    rw [List.mem_cons, Prod.mk.injEq, h.mem_iff]
    constructor
    · rintro (⟨rfl, rfl⟩ | ⟨hle, hthere⟩)
      · exact ⟨le_rfl, (hcut _).mpr rfl⟩
      · exact ⟨hlt.le.trans hle, hthere⟩
    · rintro ⟨hle, hthere⟩
      obtain rfl | hi := hle.eq_or_lt
      · exact .inl ⟨rfl, (hcut j).mp hthere⟩
      · exact .inr ⟨(hbehind hi hthere).le, hthere⟩
  · refine .cons (fun c hc => ?_) h.apart
    obtain ⟨hle, hthere⟩ := h.mem_iff.mp hc
    exact hbehind (hlt.trans_le hle) hthere

end AreCuts

/-- The cuts of a text behind a position are those that the scan finds from there on.  By induction
on the scan, where `a` is what it has read already. -/
lemma exists_cuts_of_parts (h : Parts prev quote depth b part parts)
    (hprev : lastChar none a = prev) (hquote : Literal.openAfter none a = quote)
    (hdepth : nesting none 0 a = depth) :
    ∃ cuts : List (Nat × Nat), AreCuts (a ++ b) a.length cuts ∧
      ∀ start ≤ a.length, between (a ++ b) start cuts = (a.drop start ++ part) :: parts := by
  induction h generalizing a with
  | done =>
    rw [List.append_nil]
    exact ⟨[], .nil, fun start _ => by rw [between, List.append_nil]⟩
  | @keep prev quote depth c cs part parts hnone hrest ih =>
    obtain ⟨cuts, hcuts, hbetween⟩ := ih (a := a ++ [c]) (lastChar_concat a c)
      (by rw [Literal.openAfter_append, hquote]; rfl) (by rw [nesting_append, hquote, hdepth])
    rw [List.append_assoc, List.singleton_append] at hcuts hbetween
    rw [List.length_append, List.length_singleton] at hcuts hbetween
    refine ⟨cuts, hcuts.of_succ fun j hcut => ?_, fun start hstart => ?_⟩
    · obtain ⟨hopen, hzero, _, rest, -, -, hfound⟩ := isCut_append_iff.mp hcut
      rw [hprev, hnone (hquote.symm.trans hopen) (hdepth.symm.trans hzero)] at hfound
      exact Option.some_ne_none rest hfound.symm
    · rw [hbetween start (Nat.le_succ_of_le hstart), List.drop_append_of_le_length hstart]
      simp
  | @cut prev w rest part parts hne hfound hrest ih =>
    have hword := isWord_of_connective? hfound
    obtain ⟨cuts, hcuts, hbetween⟩ := ih (a := a ++ w) (by rw [lastChar_append, hprev])
      (by rw [Literal.openAfter_append, hquote, openAfter_of_isWord isOpen_none hword])
      (by rw [nesting_append, hquote, hdepth, nesting_of_flat (flat_of_isWord hword)])
    rw [List.append_assoc] at hcuts hbetween
    rw [← hprev] at hfound
    refine ⟨(a.length, (a ++ w).length) :: cuts, hcuts.cons hne hword fun j => ?_,
      fun start _ => ?_⟩
    · exact isCut_iff_of_connective? hquote hdepth hfound
    · rw [between, extract_length, hbetween _ le_rfl, List.drop_length, List.nil_append,
        List.append_nil]

/-- **Cuts.**  A text is cut at the connectives that stand outside literals and outside parentheses,
at all of them and nowhere else.  Listed in order they keep apart from each other, and what
`splitTopLevel` gives back is what is left between them, each text from the end of one connective to
the beginning of the next one: cleaned, and without those of which nothing is left then. -/
theorem splitTopLevel_eq_between (text : List Char) :
    ∃ cuts : List (Nat × Nat),
      (∀ i j, (i, j) ∈ cuts ↔ IsCut text i j) ∧
      cuts.Pairwise (fun c d => c.2 < d.1) ∧
      splitTopLevel text =
        ((between text 0 cuts).map clean).filter fun part => !part.isEmpty := by
  have hscan := parts_topLevelParts none none 0 text
  obtain ⟨cuts, hcuts, hbetween⟩ := exists_cuts_of_parts (a := []) hscan rfl rfl rfl
  refine ⟨cuts, fun i j => ?_, hcuts.apart, ?_⟩
  · exact hcuts.mem_iff.trans (and_iff_right (Nat.zero_le i))
  · rw [splitTopLevel_eq, cleanAll, ← List.nil_append text, hbetween 0 le_rfl]
    rfl

/-- A parenthesis that closes nothing is ignored, and so is the empty text behind the last cut. -/
example :
    splitTopLevel "a) AND (b OR c) or 'x and y' And ; ".toList =
      ["a)".toList, "(b OR c)".toList, "'x and y'".toList] := by
  decide +kernel

end SqlAdvice.Sql
