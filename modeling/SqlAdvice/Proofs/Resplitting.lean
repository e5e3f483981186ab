import SqlAdvice.Proofs.CleanedTexts
import SqlAdvice.Proofs.Layout
import SqlAdvice.Proofs.TopLevelCuts

/-!
# Conditions that are split again

The segments of a text can be put together with `AND` and split again, and the same segments come
out (`splitTopLevel_again`).  Three things could prevent this, and for each of them there is a
reason why it does not.

* A segment may be cut when it stands alone or among others.  What the scan reads between two cuts
  holds no connective that is found from the beginning of it (`Uncut`, `Parts.front`,
  `Parts.behind`).
* A segment may keep the connective behind it from being found.  It does not, as all literals and
  parentheses are closed where a text is cut (`Settled`); only the last segment may leave some open,
  and no connective is behind it.
* Cleaning changes the segments after they are cut.  It makes no new connective of what is left
  and it changes neither the literals nor the depth (`Uncut.clean`, `Settled.clean`).

A segment that ends with a terminator is changed when it is cleaned again, so there must be none.
-/

namespace SqlAdvice.Sql

open SqlAdvice.Text

variable {p q prev quote : Option Char} {depth : Nat} {a b cs d e part rest x : List Char}
  {parts : List (List Char)}

/-! ## Texts that are not cut -/

/-- The scan reads a text to its end without finding a connective, from a given state on. -/
def Uncut (prev quote : Option Char) (depth : Nat) (x : List Char) : Prop :=
  ∃ part, Parts prev quote depth x part []

/-- At the end of a text all literals and all parentheses are closed. -/
structure Settled (quote : Option Char) (depth : Nat) (x : List Char) : Prop where
  closed : Literal.openAfter quote x = none
  outer : nesting quote depth x = 0

/-- The scan only minds whether a word may begin where it does. -/
lemma Parts.congr (hopens : opensWord p = opensWord q) (h : Parts p quote depth cs part parts) :
    Parts q quote depth cs part parts := by
  have hconnective : ∀ cs, connective? p cs = connective? q cs := fun cs => by
    rw [connective?, connective?, wordPhrase?_congr hopens, wordPhrase?_congr hopens]
  cases h with
  | done => exact .done
  | keep hnone hrest =>
    refine .keep ?_ hrest
    rwa [← hconnective]
  | cut hne hfound hrest =>
    obtain ⟨c, w, rfl⟩ := List.exists_cons_of_ne_nil hne
    exact .cut hne (by rwa [← hconnective]) hrest

lemma uncut_nil : Uncut prev quote depth [] :=
  ⟨[], .done⟩

lemma uncut_cons {c : Char} :
    Uncut prev quote depth (c :: x) ↔
      (quote = none → depth = 0 → connective? prev (c :: x) = none) ∧
        Uncut (some c) (Literal.next quote c) (nesting quote depth [c]) x := by
  constructor
  · rintro ⟨part, h⟩
    generalize hcs : c :: x = cs, hnil : [] = parts at h
    cases h with
    | done => cases hcs
    | keep hnone hrest =>
      obtain ⟨rfl, rfl⟩ := List.cons.inj hcs
      obtain rfl := hnil
      exact ⟨hnone, _, hrest⟩
    | cut _ _ _ => cases hnil
  · rintro ⟨hnone, part, hrest⟩
    exact ⟨c :: part, .keep hnone hrest⟩

lemma Uncut.scan (h : Uncut prev quote depth x) : Parts prev quote depth x x [] := by
  induction x generalizing prev quote depth with
  | nil => exact .done
  | cons c x ih =>
    obtain ⟨hnone, hrest⟩ := uncut_cons.mp h
    exact .keep hnone (ih hrest)

lemma uncut_iff : Uncut prev quote depth x ↔ (topLevelParts 0 prev quote depth x).2 = [] := by
  constructor
  · rintro ⟨part, h⟩
    rw [parts_iff.mp h]
  · intro h
    have hscan := parts_topLevelParts prev quote depth x
    rw [h] at hscan
    exact ⟨_, hscan⟩

/-- Where no word goes on, what is in front of a text does not matter. -/
lemma Uncut.of_closesWord (hclose : closesWord x = true) (h : Uncut prev quote depth x) :
    Uncut p quote depth x := by
  cases x with
  | nil => exact uncut_nil
  | cons c x =>
    have hc : isWord c = false := isWord_of_closesWord hclose c rfl
    exact uncut_cons.mpr
      ⟨fun _ _ => connective?_eq_none (silent_mark hc).1, (uncut_cons.mp h).2⟩

/-! ## Fronts of texts -/

/-- Where no connective is found in a text, none is found in the front of it. -/
lemma connective?_eq_none_of_append (hparts : PartsWords prev x b)
    (h : connective? prev (x ++ b) = none) : connective? prev x = none := by
  by_contra hsome
  obtain ⟨rest, hrest⟩ := Option.ne_none_iff_exists'.mp hsome
  obtain ⟨k, hk, hfound⟩ := connective?_eq_some_iff.mp hrest
  have hmore := wordPhrase?_append_of_partsWords (by simp) hparts hfound
  rw [connective?_eq_some_iff.mpr ⟨k, hk, hmore⟩] at h
  exact Option.some_ne_none _ h

lemma Uncut.of_append (hparts : PartsWords prev d e) (h : Uncut prev quote depth (d ++ e)) :
    Uncut prev quote depth d := by
  induction d generalizing prev quote depth with
  | nil => exact uncut_nil
  | cons c d ih =>
    obtain ⟨hnone, hrest⟩ := uncut_cons.mp h
    exact uncut_cons.mpr
      ⟨fun hquote hdepth => connective?_eq_none_of_append hparts (hnone hquote hdepth),
        ih hparts hrest⟩

/-- What is read up to the first cut is not cut when it stands alone, and it is settled if there is
a cut. -/
lemma Parts.front (h : Parts prev quote depth b part parts) :
    ∃ rest, b = part ++ rest ∧ PartsWords prev part rest ∧ Uncut prev quote depth part ∧
      (parts ≠ [] → Settled quote depth part) := by
  induction h with
  | done => exact ⟨[], rfl, .inl rfl, uncut_nil, fun hne => absurd rfl hne⟩
  | @keep prev quote depth c cs part parts hnone hrest ih =>
    obtain ⟨rest, rfl, hparts, huncut, hsettled⟩ := ih
    refine ⟨rest, rfl, hparts, uncut_cons.mpr ⟨fun hquote hdepth => ?_, huncut⟩, fun hne => ?_⟩
    · exact connective?_eq_none_of_append (x := c :: part) hparts (hnone hquote hdepth)
    · exact ⟨(hsettled hne).closed, by rw [nesting_cons, (hsettled hne).outer]⟩
  | @cut prev w rest part parts hne hfound hrest ih =>
    obtain ⟨hprev, -, -⟩ := connective?_cases hfound
    exact ⟨w ++ rest, rfl, .inr hprev, uncut_nil, fun _ => ⟨rfl, rfl⟩⟩

/-- So it is with the parts behind the first cut, each of which is read from a connective on. -/
lemma Parts.behind (h : Parts prev quote depth b part parts) :
    (∀ x ∈ parts, Uncut none none 0 x) ∧ parts.Pairwise fun x _ => Settled none 0 x := by
  induction h with
  | done => exact ⟨List.forall_mem_nil _, .nil⟩
  | keep _ _ ih => exact ih
  | @cut prev w rest part parts hne hfound hrest ih =>
    obtain ⟨-, -, hclose⟩ := connective?_cases hfound
    obtain ⟨more, rfl, -, huncut, hsettled⟩ := hrest.front
    have hpart : closesWord part = true := by
      cases part with
      | nil => rfl
      | cons c part => exact hclose
    exact ⟨List.forall_mem_cons.mpr ⟨huncut.of_closesWord hpart, ih.1⟩,
      .cons (fun _ hmem => hsettled (List.ne_nil_of_mem hmem)) ih.2⟩

/-! ## Cleaning -/

/-- What is cut off when a text is cleaned opens and closes nothing. -/
lemma Settled.of_append (hquote : IsOpen quote) (he : ∀ c ∈ e, isBlank c = true ∨ c = ';')
    (h : Settled quote depth (d ++ e)) : Settled quote depth d := by
  have hplain : ∀ m, isBlank m = false → m ≠ ';' → ∀ c ∈ e, c ≠ m := by
    rintro m hblank hm c hc rfl
    obtain hyes | rfl := he c hc
    · exact Bool.false_ne_true (hblank.symm.trans hyes)
    · exact hm rfl
  have hunquoted : ∀ c ∈ e, Literal.isQuote c = false := by
    intro c hc
    simp [Literal.isQuote, hplain '\'' (by decide) (by decide) c hc,
      hplain '"' (by decide) (by decide) c hc]
  have hflat : ∀ c ∈ e, c ≠ '(' ∧ c ≠ ')' := fun c hc =>
    ⟨hplain '(' (by decide) (by decide) c hc, hplain ')' (by decide) (by decide) c hc⟩
  have hclosed := h.closed
  have houter := h.outer
  rw [Literal.openAfter_append, openAfter_of_unquoted (isOpen_openAfter hquote d) hunquoted]
    at hclosed
  rw [nesting_append, nesting_of_flat hflat] at houter
  exact ⟨hclosed, houter⟩

lemma nesting_of_blank (hx : ∀ c ∈ x, isBlank c = true) : nesting quote depth x = depth :=
  nesting_of_flat fun c hc => ⟨ne_of_apply (hx c hc) (by decide), ne_of_apply (hx c hc) (by decide)⟩

lemma nesting_eq {v : Variation} (hquote : IsOpen quote) (h : Variant v a b) :
    nesting quote depth a = nesting quote depth b := by
  induction h generalizing quote depth with
  | ends h => rw [nesting_of_blank h.left, nesting_of_blank h.right]
  | gap h _ _ _ ih =>
    rw [nesting_append, nesting_append, openAfter_of_blank hquote h.left,
      openAfter_of_blank hquote h.right, nesting_of_blank h.left, nesting_of_blank h.right,
      ih hquote]
  | @char c d a b hc _ _ ih =>
    have hsame : nesting quote depth [c] = nesting quote depth [d] := by
      by_cases hcovers : Literal.covers quote c = true
      · rw [nesting_of_covers hcovers, nesting_of_covers (covers_eq hc ▸ hcovers)]
      · rw [nesting_of_not_covers hcovers, nesting_of_not_covers (covers_eq hc ▸ hcovers),
          depthAfter_eq depth hc]
    rw [nesting_cons, nesting_cons d, hsame, next_eq hquote hc]
    exact ih (isOpen_next hquote)

/-- Squeezing makes no new connective. -/
lemma Uncut.squeeze (h : Uncut none none 0 d) : Uncut none none 0 (squeeze d) := by
  obtain ⟨blanks, b, hd, hblank, hvariant⟩ := exists_variant_squeeze d
  have hopens : opensWord (lastChar none blanks) = opensWord none :=
    opensWord_lastChar_of_blank hblank rfl
  rw [uncut_iff, hd, topLevelParts_of_blank 0 isOpen_none hblank] at h
  have hparts := (topLevelParts_variant 0 isOpen_none hopens hvariant).2
  rw [h] at hparts
  exact uncut_iff.mpr (List.forall₂_nil_left_iff.mp hparts)

/-- And it opens and closes nothing. -/
lemma Settled.squeeze (h : Settled none 0 d) : Settled none 0 (squeeze d) := by
  obtain ⟨blanks, b, hd, hblank, hvariant⟩ := exists_variant_squeeze d
  obtain ⟨hclosed, houter⟩ := h
  rw [hd, Literal.openAfter_append, openAfter_of_blank isOpen_none hblank] at hclosed
  rw [hd, nesting_append, openAfter_of_blank isOpen_none hblank, nesting_of_blank hblank] at houter
  exact ⟨(openAfter_eq isOpen_none hvariant).symm.trans hclosed,
    (nesting_eq isOpen_none hvariant).symm.trans houter⟩

lemma Uncut.clean (h : Uncut none none 0 x) : Uncut none none 0 (clean x) := by
  obtain ⟨d, tail, rfl, htail, hclean⟩ := exists_clean_eq_squeeze x
  rw [hclean]
  exact (h.of_append (.inl (closesWord_of_cleaned htail))).squeeze

lemma Settled.clean (h : Settled none 0 x) : Settled none 0 (clean x) := by
  obtain ⟨d, tail, rfl, htail, hclean⟩ := exists_clean_eq_squeeze x
  rw [hclean]
  exact (h.of_append isOpen_none htail).squeeze

/-! ## Texts put together -/

/-- Where no word goes on into what follows, a text without connectives is read to its end first. -/
lemma Uncut.append (hclose : closesWord b = true) (h : Uncut prev quote depth x)
    (hb : Parts (lastChar prev x) (Literal.openAfter quote x) (nesting quote depth x) b part parts) :
    Parts prev quote depth (x ++ b) (x ++ part) parts := by
  induction x generalizing prev quote depth with
  | nil => exact hb
  | cons c x ih =>
    obtain ⟨hnone, hrest⟩ := uncut_cons.mp h
    rw [nesting_cons] at hb
    rw [List.cons_append, List.cons_append]
    refine .keep (fun hquote hdepth => connective?_eq_none fun k hk => ?_) (ih hrest hb)
    have hfront := hnone hquote hdepth
    by_contra hsome
    obtain ⟨hprev, hword⟩ := wordPhrase?_singleton_isSome.mp (Option.isSome_iff_ne_none.mpr hsome)
    rw [← List.cons_append, takeWhile_append_of_closesWord hclose] at hword
    obtain ⟨rest, hfound⟩ :=
      Option.isSome_iff_exists.mp (wordPhrase?_singleton_isSome.mpr ⟨hprev, hword⟩)
    rw [connective?_eq_some_iff.mpr ⟨k, hk, hfound⟩] at hfront
    exact Option.some_ne_none rest hfront

/-- Behind a space the scan goes on as at the beginning of a text. -/
lemma parts_space (h : Parts none none 0 b part parts) :
    Parts prev none 0 (' ' :: b) (' ' :: part) parts := by
  have hrest : Parts (some ' ') none 0 b part parts := h.congr (p := none) rfl
  exact .keep (fun _ _ => connective?_eq_none (silent_mark (by decide)).1) hrest

lemma parts_and (h : Parts none none 0 b part parts) :
    Parts p none 0 (" AND ".toList ++ b) [' '] ((' ' :: part) :: parts) := by
  have hseparator : " AND ".toList ++ b = ' ' :: (Keyword.AND.letters ++ ' ' :: b) := rfl
  have hclose : closesWord (' ' :: b) = true :=
    closesWord_iff.mpr (forall_mem_head?_cons.mpr (by decide))
  have hfound : connective? none (Keyword.AND.letters ++ ' ' :: b) = some (' ' :: b) :=
    connective?_eq_some_iff.mpr ⟨.AND, by simp, wordPhrase?_letters rfl hclose⟩
  rw [hseparator]
  exact parts_space (.cut (letters_ne_nil .AND) hfound (parts_space h))

/-- **One connective.**  A text that is settled and not cut is the first segment, and the others are
those of the text behind the connective. -/
lemma splitTopLevel_and (huncut : Uncut none none 0 x) (hsettled : Settled none 0 x)
    (b : List Char) :
    splitTopLevel (x ++ (" AND ".toList ++ b)) = cleanAll [x] ++ splitTopLevel b := by
  have hbehind := parts_and (p := lastChar none x) (parts_topLevelParts none none 0 b)
  have hscan := huncut.append (b := " AND ".toList ++ b) rfl
    (by rw [hsettled.closed, hsettled.outer]; exact hbehind)
  have hfirst : Sql.clean (x ++ [' ']) = Sql.clean x :=
    clean_congr (words_append_of_blank (List.forall_mem_singleton.mpr (by decide)) x)
  have hsecond : ∀ part, Sql.clean (' ' :: part) = Sql.clean part :=
    fun part => clean_congr (by rw [words, if_pos (by decide)])
  rw [splitTopLevel_eq, splitTopLevel_eq, parts_iff.mp hscan, cleanAll, cleanAll, cleanAll,
    ← List.filter_append, List.map_cons, List.map_cons, hfirst, hsecond]
  rfl

lemma splitTopLevel_of_uncut (huncut : Uncut none none 0 x) : splitTopLevel x = cleanAll [x] := by
  rw [splitTopLevel_eq, parts_iff.mp huncut.scan]

lemma cleanAll_singleton (hne : x ≠ []) (hclean : Sql.clean x = x) : cleanAll [x] = [x] := by
  simp [cleanAll, hclean, hne]

/-- Segments that are cleaned and not cut, and all but the last of which are settled, are found
again when they are put together with `AND`. -/
lemma splitTopLevel_intercalate {segments : List (List Char)}
    (hclean : ∀ x ∈ segments, x ≠ [] ∧ Sql.clean x = x)
    (huncut : ∀ x ∈ segments, Uncut none none 0 x)
    (hsettled : segments.Pairwise fun x _ => Settled none 0 x) :
    splitTopLevel (List.intercalate " AND ".toList segments) = segments := by
  induction segments with
  | nil => rfl
  | cons x segments ih =>
    obtain ⟨⟨hne, hx⟩, hcleans⟩ := List.forall_mem_cons.mp hclean
    obtain ⟨hfirst, huncuts⟩ := List.forall_mem_cons.mp huncut
    obtain ⟨hclosed, hrest⟩ := List.pairwise_cons.mp hsettled
    cases segments with
    | nil =>
      rw [List.intercalate_singleton, splitTopLevel_of_uncut hfirst, cleanAll_singleton hne hx]
    | cons y segments =>
      rw [List.intercalate_cons_cons, List.append_assoc,
        splitTopLevel_and hfirst (hclosed y List.mem_cons_self), cleanAll_singleton hne hx,
        ih hcleans huncuts hrest, List.singleton_append]

/-- **Splitting again.**  If no segment ends with a terminator, the segments put together with `AND`
are split into the same segments, and a single segment is split into itself alone. -/
theorem splitTopLevel_again (text : List Char)
    (h : ∀ x ∈ splitTopLevel text, x.getLast? ≠ some ';') :
    splitTopLevel (List.intercalate " AND ".toList (splitTopLevel text)) = splitTopLevel text ∧
      ∀ x ∈ splitTopLevel text, splitTopLevel x = [x] := by
  have hscan := parts_topLevelParts none none 0 text
  obtain ⟨_, -, -, hfront, hsettled⟩ := hscan.front
  obtain ⟨huncuts, hsettleds⟩ := hscan.behind
  have hclean : ∀ x ∈ splitTopLevel text, x ≠ [] ∧ Sql.clean x = x := fun x hx =>
    have htidy := tidy_of_mem_cleanAll hx
    ⟨htidy.ne_nil, (clean_eq_self_iff htidy).mpr (h x hx)⟩
  have huncut : ∀ x ∈ splitTopLevel text, Uncut none none 0 x := by
    intro x hx
    obtain ⟨part, hpart, rfl, -⟩ := exists_of_mem_cleanAll hx
    exact (List.forall_mem_cons.mpr ⟨hfront, huncuts⟩ part hpart).clean
  have hpairs : (splitTopLevel text).Pairwise fun x _ => Settled none 0 x := by
    refine .filter _ (List.pairwise_map.mpr ?_)
    refine .cons (fun y hy => ?_) ?_
    · exact (hsettled (List.ne_nil_of_mem hy)).clean
    · exact hsettleds.imp Settled.clean
  refine ⟨splitTopLevel_intercalate hclean huncut hpairs, fun x hx => ?_⟩
  rw [splitTopLevel_of_uncut (huncut x hx), cleanAll_singleton (hclean x hx).1 (hclean x hx).2]

theorem splitTopLevel_again_open_literal :
    let text := "a = 'x AND y' and (b = 1 or c = 2)) OR  d\n> 0 And e = 'open and f".toList
    let segments := ["a = 'x AND y'".toList, "(b = 1 or c = 2))".toList, "d > 0".toList,
      "e = 'open and f".toList]
    splitTopLevel text = segments ∧ (∀ x ∈ splitTopLevel text, x.getLast? ≠ some ';') ∧
      splitTopLevel (List.intercalate " AND ".toList (splitTopLevel text)) = splitTopLevel text ∧
      ∀ x ∈ splitTopLevel text, splitTopLevel x = [x] := by
  intro text segments
  have hsplit : splitTopLevel text = segments := by decide +kernel
  have hlast : ∀ x ∈ splitTopLevel text, x.getLast? ≠ some ';' := by
    rw [hsplit]
    decide +kernel
  exact ⟨hsplit, hlast, splitTopLevel_again text hlast⟩

end SqlAdvice.Sql
