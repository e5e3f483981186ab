import SqlAdvice.Sql.Clauses
import SqlAdvice.Sql.Tables
import SqlAdvice.Proofs.LiteralBlindness

/-!
# Keywords in literals

Tables, the `WHERE` clause and the text to sort by are looked for without regard to literals, so
what a literal contains can make a table of a word, and can begin a clause or end one
(`keywords_disturb_clauses`).

All that matters is whether the contents of some literal hold what is looked for.  Quotes are
barriers: no name and no phrase goes through one, so what is found in a statement is found either
outside its literals or in the contents of one of them (`fromName?_append_quote`,
`joinNames_append_quote`, `afterPhrase?_append`).  Where the contents name no table, hold no `WHERE`
and no phrase that ends it, or no `ORDER BY`, the tables, the number of the conditions and whether
the statement sorts are those of its template (`clauses_fill`).
-/

namespace SqlAdvice.Sql

open SqlAdvice.Text

variable {prev : Option Char} {a b rest tail : List Char} {start : Char → Bool}

/-! ## Names in front of a quote -/

/-- No decoration stands in a text, neither of a name nor a double quote. -/
def IsBare (cs : List Char) : Prop :=
  ∀ c ∈ cs, isDecoration c = false

lemma IsBare.of_suffix (ha : IsBare a) (h : rest <:+ a) : IsBare rest :=
  fun c hc => ha c (h.subset hc)

/-- A quote, and what follows it. -/
def quoteThen (b : List Char) : List Char :=
  '\'' :: b

lemma isBarrier_quoteThen (b : List Char) : IsBarrier (quoteThen b) :=
  isBarrier_of_isQuote fun c hc => by
    obtain rfl : '\'' = c := Option.mem_some.mp hc
    decide

/-- A run of characters that goes no further than a quote. -/
lemma takeWhile_append_quote {p : Char → Bool} (hp : p '\'' = false) (a b : List Char) :
    (a ++ quoteThen b).takeWhile p = a.takeWhile p ∧
      (a ++ quoteThen b).dropWhile p = a.dropWhile p ++ quoteThen b := by
  induction a with
  | nil => simp [quoteThen, hp]
  | cons c a ih =>
    rw [List.cons_append, List.takeWhile_cons, List.takeWhile_cons, List.dropWhile_cons,
      List.dropWhile_cons]
    split
    · exact ⟨congrArg (c :: ·) ih.1, ih.2⟩
    · exact ⟨rfl, rfl⟩

/-- What has been read, where the text goes on. -/
def goesOn (tail : List Char) (found : List Char × List Char) : List Char × List Char :=
  (found.1, found.2 ++ tail)

lemma identifier?_append_quote (hstart : start '\'' = false) (a b : List Char) :
    identifier? start (a ++ quoteThen b) = (identifier? start a).map (goesOn (quoteThen b)) := by
  cases a with
  | nil => simp [quoteThen, identifier?, hstart]
  | cons c a =>
    obtain ⟨htake, hdrop⟩ := takeWhile_append_quote (p := isNameRest) (by decide) a b
    rw [List.cons_append, identifier?, identifier?, htake, hdrop]
    split <;> rfl

/-- A text that no decoration begins has a plain name at its front, if any. -/
lemma component?_of_not_decoration (h : ∀ c ∈ a.head?, isDecoration c = false) :
    component? start a = identifier? start a := by
  unfold component?
  split
  · exact absurd (h '[' rfl) (by decide)
  · exact absurd (h '"' rfl) (by decide)
  · exact absurd (h '\x60' rfl) (by decide)
  · rfl

lemma component?_of_isBare (ha : IsBare a) : component? start a = identifier? start a :=
  component?_of_not_decoration fun c hc => ha c (List.mem_of_mem_head? hc)

lemma component?_append_quote (hstart : start '\'' = false) (ha : IsBare a) (b : List Char) :
    component? start (a ++ quoteThen b) = (component? start a).map (goesOn (quoteThen b)) := by
  rw [component?_of_isBare ha, ← identifier?_append_quote hstart]
  refine component?_of_not_decoration fun c hc => ?_
  cases a with
  | nil =>
    obtain rfl : '\'' = c := Option.mem_some.mp hc
    decide
  | cons d a => exact ha c (List.mem_of_mem_head? hc)

lemma identifier?_suffix {name : List Char} (h : identifier? start a = some (name, rest)) :
    rest <:+ a := by
  obtain ⟨rfl, -⟩ := identifier?_eq_some_iff.mp h
  exact List.suffix_append name rest

lemma skipBlanks_append_quote (a b : List Char) :
    skipBlanks (a ++ quoteThen b) = skipBlanks a ++ quoteThen b :=
  (isBarrier_quoteThen b).skipBlanks_append a

/-- What stands behind a dot. -/
lemma skipBlanks_suffix_of_dot {after : List Char} (h : skipBlanks a = '.' :: after) :
    skipBlanks after <:+ a := by
  have hdot : after <:+ skipBlanks a := h ▸ List.suffix_cons '.' after
  exact (List.dropWhile_suffix isBlank).trans (hdot.trans (List.dropWhile_suffix isBlank))

lemma dotted?_append_quote (hstart : start '\'' = false) (ha : IsBare a) (b : List Char) :
    dotted? start (a ++ quoteThen b) = (dotted? start a).map (goesOn (quoteThen b)) := by
  have hskip := skipBlanks_append_quote a b
  by_cases hdot : ∃ after, skipBlanks a = '.' :: after
  · obtain ⟨after, hafter⟩ := hdot
    have hbare : IsBare (skipBlanks after) := ha.of_suffix (skipBlanks_suffix_of_dot hafter)
    have htake := (takeWhile_append_quote (p := isBlank) (by decide) a b).1
    have htake' := (takeWhile_append_quote (p := isBlank) (by decide) after b).1
    rw [hafter, List.cons_append] at hskip
    rw [dotted?_of_skipBlanks hskip, dotted?_of_skipBlanks hafter, skipBlanks_append_quote,
      component?_append_quote hstart hbare, htake, htake', Option.map_map, Option.map_map]
    rfl
  · rw [dotted?_of_no_dot fun after hafter => hdot ⟨after, hafter⟩, Option.map_none]
    refine dotted?_of_no_dot fun after hafter => ?_
    rw [hskip] at hafter
    cases hfront : skipBlanks a with
    | nil =>
      rw [hfront, List.nil_append] at hafter
      exact absurd (List.cons.inj hafter).1 (by decide)
    | cons c front =>
      rw [hfront, List.cons_append] at hafter
      exact hdot ⟨front, by rw [hfront, (List.cons.inj hafter).1]⟩

lemma dotted?_suffix (ha : IsBare a) {name : List Char}
    (h : dotted? start a = some (name, rest)) : rest <:+ a := by
  by_cases hdot : ∃ after, skipBlanks a = '.' :: after
  · obtain ⟨after, hafter⟩ := hdot
    have hsuffix := skipBlanks_suffix_of_dot hafter
    rw [dotted?_of_skipBlanks hafter, component?_of_isBare (ha.of_suffix hsuffix)] at h
    obtain ⟨found, hfound, hname⟩ := Option.map_eq_some_iff.mp h
    obtain ⟨-, rfl⟩ := Prod.mk.inj hname
    exact (identifier?_suffix hfound).trans hsuffix
  · rw [dotted?_of_no_dot fun after hafter => hdot ⟨after, hafter⟩] at h
    exact nomatch h

lemma skipSomeBlanks?_suffix (h : skipSomeBlanks? a = some rest) : rest <:+ a := by
  cases a with
  | nil => cases h
  | cons c a =>
    rw [skipSomeBlanks?] at h
    split at h
    · obtain rfl := Option.some.inj h
      exact (List.dropWhile_suffix isBlank).trans (List.suffix_cons c a)
    · cases h

/-- By induction on the length, since every dot is taken off the text. -/
lemma dottedTail_append_quote (hstart : start '\'' = false) (ha : IsBare a) (b : List Char) :
    dottedTail start (a ++ quoteThen b) = goesOn (quoteThen b) (dottedTail start a) := by
  induction hlength : a.length using Nat.strong_induction_on generalizing a with
  | h length ih =>
    subst hlength
    have hdotted := dotted?_append_quote hstart ha b
    cases hfound : dotted? start a with
    | none =>
      rw [hfound, Option.map_none] at hdotted
      rw [dottedTail_of_none hdotted, dottedTail_of_none hfound]
      rfl
    | some found =>
      obtain ⟨name, rest⟩ := found
      rw [hfound, Option.map_some, goesOn] at hdotted
      rw [dottedTail_of_some hdotted, dottedTail_of_some hfound,
        ih rest.length (dotted?_length hfound) (ha.of_suffix (dotted?_suffix ha hfound)) rfl]
      rfl

lemma qualified?_append_quote (hstart : start '\'' = false) (ha : IsBare a) (b : List Char) :
    qualified? start (a ++ quoteThen b) = (qualified? start a).map (goesOn (quoteThen b)) := by
  rw [qualified?_eq_map, qualified?_eq_map, component?_append_quote hstart ha]
  cases hfound : component? start a with
  | none => rfl
  | some found =>
    rw [component?_of_isBare ha] at hfound
    have htail := dottedTail_append_quote hstart (ha.of_suffix (identifier?_suffix hfound)) b
    simp only [Option.map_some, goesOn] at htail ⊢
    rw [htail]

/-- **Names after a keyword** end at a quote. -/
lemma nameAfter?_append_quote (k : Keyword) (prev : Option Char) (ha : IsBare a) (b : List Char) :
    nameAfter? k prev (a ++ quoteThen b) = (nameAfter? k prev a).map (goesOn (quoteThen b)) := by
  have hbarrier := isBarrier_quoteThen b
  rw [nameAfter?, nameAfter?]
  split
  · change ((k.read? (a ++ quoteThen b)).bind fun mid => (skipSomeBlanks? mid).bind
      (qualified? isFoldedNameStart)) = ((k.read? a).bind fun mid => (skipSomeBlanks? mid).bind
      (qualified? isFoldedNameStart)).map (goesOn (quoteThen b))
    rw [hbarrier.read?_append]
    cases hread : k.read? a with
    | none => rfl
    | some mid =>
      rw [Option.map_some, Option.bind_some, Option.bind_some, hbarrier.skipSomeBlanks?_append]
      cases hskip : skipSomeBlanks? mid with
      | none => rfl
      | some after =>
        refine qualified?_append_quote (by decide) (ha.of_suffix ?_) b
        obtain ⟨w, rfl, -⟩ := letters?_eq_some_iff.mp hread
        exact (skipSomeBlanks?_suffix hskip).trans (List.suffix_append w mid)
  · rfl

/-! ## The walks in front of a quote -/

/-- No name stands at a quote. -/
lemma nameAfter?_quoteThen (k : Keyword) (prev : Option Char) (b : List Char) :
    nameAfter? k prev (quoteThen b) = none :=
  nameAfter?_eq_none (wordPhrase?_of_isQuote (by decide) k b)

/-- The first name after `FROM` stands in front of a quote or behind it. -/
lemma fromName?_append_quote (prev : Option Char) (ha : IsBare a) (b : List Char) :
    fromName? prev (a ++ quoteThen b) = (fromName? prev a).or (fromName? (some '\'') b) := by
  induction a generalizing prev with
  | nil =>
    have hnone := nameAfter?_quoteThen .FROM prev b
    rw [quoteThen] at hnone
    change fromName? prev ('\'' :: b) = fromName? (some '\'') b
    rw [fromName?, hnone]
  | cons c a ih =>
    have hname := nameAfter?_append_quote .FROM prev ha b
    rw [List.cons_append] at hname ⊢
    rw [fromName?, fromName?, hname]
    cases nameAfter? .FROM prev (c :: a) with
    | none => exact ih (some c) (ha.of_suffix (List.suffix_cons c a))
    | some found => rfl

/-- The names after `JOIN` in front of a quote come first, then those behind it. -/
lemma joinNames_append_quote (skip : Nat) (hskip : skip ≤ a.length) (prev : Option Char)
    (ha : IsBare a) (b : List Char) :
    joinNames skip prev (a ++ quoteThen b) =
      joinNames skip prev a ++ joinNames 0 (some '\'') b := by
  induction a generalizing skip prev with
  | nil =>
    obtain rfl : skip = 0 := Nat.le_zero.mp hskip
    have hnone := nameAfter?_quoteThen .JOIN prev b
    rw [quoteThen] at hnone
    change joinNames 0 prev ('\'' :: b) = joinNames 0 (some '\'') b
    rw [joinNames, hnone]
  | cons c a ih =>
    have hrest : IsBare a := ha.of_suffix (List.suffix_cons c a)
    cases skip with
    | succ skip => exact ih skip (Nat.le_of_succ_le_succ hskip) (some c) hrest
    | zero =>
      have hname := nameAfter?_append_quote .JOIN prev ha b
      rw [List.cons_append] at hname ⊢
      rw [joinNames, joinNames, hname]
      cases nameAfter? .JOIN prev (c :: a) with
      | none => exact ih 0 (Nat.zero_le _) (some c) hrest
      | some found =>
        have hlength : (a ++ quoteThen b).length - (found.2 ++ quoteThen b).length =
            a.length - found.2.length := by
          simp only [List.length_append]
          omega
        change found.1 :: joinNames ((a ++ quoteThen b).length - (found.2 ++ quoteThen b).length)
          (some c) (a ++ quoteThen b) = _
        rw [hlength, ih _ (Nat.sub_le _ _) (some c) hrest]
        rfl

/-! ## Behind a quote -/

section Congr

variable {p q : Option Char} (hopens : opensWord p = opensWord q)

include hopens

/-- A walk only minds whether a word may begin where it does. -/
lemma fromName?_congr (cs : List Char) : fromName? p cs = fromName? q cs := by
  cases cs with
  | nil => rfl
  | cons c cs => rw [fromName?, fromName?, nameAfter?, nameAfter?, hopens]

lemma joinNames_congr (cs : List Char) : joinNames 0 p cs = joinNames 0 q cs := by
  cases cs with
  | nil => rfl
  | cons c cs => rw [joinNames, joinNames, nameAfter?, nameAfter?, hopens]

lemma upToPhrase_congr (phrases : List (List Keyword)) (cs : List Char) :
    upToPhrase phrases p cs = upToPhrase phrases q cs := by
  have hstands : ∀ cs, standsAt phrases p cs = standsAt phrases q cs := fun cs => by
    simp only [standsAt, wordPhrase?_congr hopens]
  cases cs with
  | nil => rfl
  | cons c cs => rw [upToPhrase, upToPhrase, hstands]

end Congr

/-! ## Tables -/

/-- A text in which no table is named. -/
structure NamesNoTable (x : List Char) : Prop where
  notFrom : fromName? none x = none
  notJoin : joinNames 0 none x = []

lemma eq_of_isQuote {q : Char} (hq : Literal.isQuote q = true) (hbare : isDecoration q = false) :
    q = '\'' := by
  obtain rfl | rfl : q = '\'' ∨ q = '"' := by simpa [Literal.isQuote] using hq
  · rfl
  · exact absurd hbare (by decide)

/-- A literal in which no table is named is passed over. -/
lemma names_append_literal (prev : Option Char) (ha : IsBare a) {x : List Char} (hx : IsBare x)
    (hnames : NamesNoTable x) (b : List Char) :
    fromName? prev (a ++ quoteThen (x ++ quoteThen b)) =
        (fromName? prev a).or (fromName? (some '\'') b) ∧
      joinNames 0 prev (a ++ quoteThen (x ++ quoteThen b)) =
        joinNames 0 prev a ++ joinNames 0 (some '\'') b := by
  have hquote : opensWord (some '\'') = opensWord none := by decide +kernel
  rw [fromName?_append_quote prev ha, fromName?_append_quote _ hx,
    joinNames_append_quote 0 (Nat.zero_le _) prev ha, joinNames_append_quote 0 (Nat.zero_le _) _ hx,
    fromName?_congr hquote x, joinNames_congr hquote x, hnames.notFrom, hnames.notJoin]
  exact ⟨rfl, rfl⟩

/-- The names in a template, where a bare text stands in front of it.  By induction on the template;
the characters that stand outside literals are collected in front of it. -/
lemma names_fill {σ σ' : Filling} (hσ : ∀ q hole, NamesNoTable (σ.content q hole))
    (hσ' : ∀ q hole, NamesNoTable (σ'.content q hole)) (t : Template) (prev : Option Char)
    (ha : IsBare a) (hbare : IsBare (fill σ t)) (hbare' : IsBare (fill σ' t)) :
    fromName? prev (a ++ fill σ t) = fromName? prev (a ++ fill σ' t) ∧
      joinNames 0 prev (a ++ fill σ t) = joinNames 0 prev (a ++ fill σ' t) := by
  induction t generalizing a prev with
  | nil => exact ⟨rfl, rfl⟩
  | cons slot t ih =>
    rw [fill_cons] at hbare hbare'
    obtain ⟨hslot, hrest⟩ := List.forall_mem_append.mp hbare
    obtain ⟨hslot', hrest'⟩ := List.forall_mem_append.mp hbare'
    cases slot with
    | plain c hc =>
      have hmore := ih prev (List.forall_mem_append.mpr ⟨ha, hslot⟩) hrest hrest'
      rwa [List.append_assoc, List.append_assoc] at hmore
    | literal q hq hole =>
      obtain ⟨hquote, hcontent⟩ := List.forall_mem_cons.mp hslot
      obtain ⟨-, hcontent'⟩ := List.forall_mem_cons.mp hslot'
      obtain rfl := eq_of_isQuote hq hquote
      obtain ⟨hx, -⟩ := List.forall_mem_append.mp hcontent
      obtain ⟨hx', -⟩ := List.forall_mem_append.mp hcontent'
      have hfill : ∀ σ : Filling, a ++ fill σ (.literal '\'' hq hole :: t) =
          a ++ quoteThen (σ.content '\'' hole ++ quoteThen (fill σ t)) := fun σ => by
        simp [Slot.fill, quoteThen]
      obtain ⟨hfrom, hjoin⟩ := ih (a := []) (some '\'') (List.forall_mem_nil _) hrest hrest'
      rw [List.nil_append, List.nil_append] at hfrom hjoin
      have hhole := hσ '\'' hole
      have hhole' := hσ' '\'' hole
      have hnames := names_append_literal prev ha hx hhole (fill σ t)
      have hnames' := names_append_literal prev ha hx' hhole' (fill σ' t)
      rw [hfill, hfill, hnames.1, hnames.2, hnames'.1, hnames'.2, hfrom, hjoin]
      exact ⟨rfl, rfl⟩

/-! ## Clauses -/

/-- None of several phrases stands anywhere in a text. -/
def Without (phrases : List (List Keyword)) (x : List Char) : Prop :=
  upToPhrase phrases none x = x

instance (phrases : List (List Keyword)) (x : List Char) : Decidable (Without phrases x) :=
  inferInstanceAs (Decidable (_ = _))

section Without

variable {phrases : List (List Keyword)} {x : List Char}

/-- Where no phrase stands a walk goes on. -/
lemma upToPhrase_cons_eq_iff {c : Char} {cs : List Char} :
    upToPhrase phrases prev (c :: cs) = c :: cs ↔
      standsAt phrases prev (c :: cs) = false ∧ upToPhrase phrases (some c) cs = cs := by
  rw [upToPhrase]
  by_cases h : standsAt phrases prev (c :: cs) = true
  · simp [h]
  · simp [h]

/-- In front of a barrier there is a phrase only if it is all there. -/
lemma upToPhrase_append_of_eq (htail : IsBarrier tail) (hx : upToPhrase phrases prev x = x) :
    upToPhrase phrases prev (x ++ tail) = x ++ upToPhrase phrases (lastChar prev x) tail := by
  induction x generalizing prev with
  | nil => rfl
  | cons c x ih =>
    obtain ⟨hc, hx⟩ := upToPhrase_cons_eq_iff.mp hx
    have hstands := htail.standsAt_append phrases prev (c :: x)
    rw [List.cons_append] at hstands ⊢
    rw [upToPhrase, hstands, hc, if_neg Bool.false_ne_true, ih hx]
    rfl

lemma afterPhrase?_append_of_eq {ks : List Keyword} (hks : ks ∈ phrases) (htail : IsBarrier tail)
    (hx : upToPhrase phrases prev x = x) :
    afterPhrase? ks prev (x ++ tail) = afterPhrase? ks (lastChar prev x) tail := by
  induction x generalizing prev with
  | nil => rfl
  | cons c x ih =>
    obtain ⟨hc, hx⟩ := upToPhrase_cons_eq_iff.mp hx
    have hnone : wordPhrase? ks prev (c :: x) = none := by
      rw [standsAt, List.any_eq_false] at hc
      simpa using hc ks hks
    have hstands := htail.wordPhrase?_append ks prev (c :: x)
    rw [hnone, Option.map_none, List.cons_append] at hstands
    rw [List.cons_append, afterPhrase?, hstands]
    exact ih hx

lemma upToPhrase_mono {phrases' : List (List Keyword)} (hsub : phrases' ⊆ phrases)
    (hx : upToPhrase phrases prev x = x) : upToPhrase phrases' prev x = x := by
  induction x generalizing prev with
  | nil => rfl
  | cons c x ih =>
    obtain ⟨hc, hx⟩ := upToPhrase_cons_eq_iff.mp hx
    rw [standsAt, List.any_eq_false] at hc
    refine upToPhrase_cons_eq_iff.mpr ⟨?_, ih hx⟩
    rw [standsAt, List.any_eq_false]
    exact fun ks hks => hc ks (hsub hks)

/-! ## Over a literal without phrases -/

variable {q : Char} (hq : Literal.isQuote q = true)

include hq

lemma phrase?_of_isQuote (k : Keyword) (ks : List Keyword) (cs : List Char) :
    wordPhrase? (k :: ks) prev (q :: cs) = none :=
  wordPhrase?_cons_eq_none (wordPhrase?_of_isQuote hq k cs)

lemma standsAt_of_isQuote (hphrases : [] ∉ phrases) (cs : List Char) :
    standsAt phrases prev (q :: cs) = false := by
  rw [standsAt, List.any_eq_false]
  intro phrase hphrase
  cases phrase with
  | nil => exact absurd hphrase hphrases
  | cons k ks =>
    rw [phrase?_of_isQuote hq]
    simp

lemma isBarrier_cons_of_isQuote (cs : List Char) : IsBarrier (q :: cs) :=
  isBarrier_of_isQuote fun _ hc => Option.mem_some.mp hc ▸ hq

/-- Behind the quote that opens a literal a word may begin, as at the beginning of a text. -/
lemma Without.upToPhrase_some (hx : Without phrases x) : upToPhrase phrases (some q) x = x := by
  have hopens : opensWord (some q) = opensWord none := by
    simp [opensWord, (kind_of_isQuote hq).1]
  rw [upToPhrase_congr hopens, hx]

lemma upToPhrase_literal (hphrases : [] ∉ phrases) (hx : Without phrases x) (rest : List Char) :
    upToPhrase phrases prev (q :: (x ++ q :: rest)) =
      q :: (x ++ q :: upToPhrase phrases (some q) rest) := by
  rw [upToPhrase, standsAt_of_isQuote hq hphrases, if_neg Bool.false_ne_true,
    upToPhrase_append_of_eq (isBarrier_cons_of_isQuote hq rest) (hx.upToPhrase_some hq), upToPhrase,
    standsAt_of_isQuote hq hphrases, if_neg Bool.false_ne_true]

lemma afterPhrase?_literal {k : Keyword} {ks : List Keyword} (hks : k :: ks ∈ phrases)
    (hx : Without phrases x) (rest : List Char) :
    afterPhrase? (k :: ks) prev (q :: (x ++ q :: rest)) = afterPhrase? (k :: ks) (some q) rest := by
  rw [afterPhrase?, phrase?_of_isQuote hq]
  change afterPhrase? (k :: ks) (some q) (x ++ q :: rest) = _
  rw [afterPhrase?_append_of_eq hks (isBarrier_cons_of_isQuote hq rest) (hx.upToPhrase_some hq),
    afterPhrase?, phrase?_of_isQuote hq]

end Without

/-! ## Clauses, slot by slot -/

lemma exists_of_phrase? {k : Keyword} {ks : List Keyword} {cs : List Char}
    (h : phrase? (k :: ks) cs = some rest) : ∃ a, a ≠ [] ∧ cs = a ++ rest := by
  induction ks generalizing k cs with
  | nil =>
    obtain ⟨w, rfl, hw⟩ := letters?_eq_some_iff.mp h
    refine ⟨w, ?_, rfl⟩
    rintro rfl
    exact letters_ne_nil k hw.symm
  | cons k' ks ih =>
    obtain ⟨mid, hread, hmid⟩ := Option.bind_eq_some_iff.mp h
    obtain ⟨after, hskip, hafter⟩ := Option.bind_eq_some_iff.mp hmid
    obtain ⟨w, rfl, -⟩ := letters?_eq_some_iff.mp hread
    obtain ⟨x, rfl⟩ := skipSomeBlanks?_suffix hskip
    obtain ⟨a, hne, rfl⟩ := ih hafter
    exact ⟨w ++ (x ++ a), by simp [hne], by simp⟩

lemma phrase_fill (k : Keyword) (ks : List Keyword) (prev : Option Char) (t : Template) :
    (∀ σ, wordPhrase? (k :: ks) prev (fill σ t) = none) ∨
      ∃ s t', Begins (wordPhrase? (k :: ks) prev) t s t' := by
  refine recognised_fill (fun htail => htail.wordPhrase?_append (k :: ks) prev) (fun h => ?_) t
  rw [wordPhrase?] at h
  split at h
  · exact exists_of_phrase? (Option.filter_eq_some_iff.mp h).1
  · cases h

/-- The contents of all literals are without some phrases. -/
def Filling.Without (phrases : List (List Keyword)) (σ : Filling) : Prop :=
  ∀ q hole, Sql.Without phrases (σ.content q hole)

lemma fill_literal_cons {σ : Filling} {q : Char} (hq : Literal.isQuote q = true) (hole : Nat)
    (t : Template) :
    fill σ (.literal q hq hole :: t) = q :: (σ.content q hole ++ q :: fill σ t) := by
  simp [Slot.fill]

/-- For all fillings without a phrase, the first place where it stands is the same slot. -/
lemma afterPhrase?_fill (k : Keyword) (ks : List Keyword) (prev : Option Char) (t : Template) :
    (∀ σ : Filling, σ.Without [k :: ks] → afterPhrase? (k :: ks) prev (fill σ t) = none) ∨
      ∃ t', ∀ σ : Filling, σ.Without [k :: ks] →
        afterPhrase? (k :: ks) prev (fill σ t) = some (fill σ t') := by
  induction t generalizing prev with
  | nil => exact .inl fun σ _ => rfl
  | cons slot t ih =>
    obtain hnone | ⟨s, t', hbegins⟩ := phrase_fill k ks prev (slot :: t)
    · have hstep : ∀ σ : Filling, σ.Without [k :: ks] →
          afterPhrase? (k :: ks) prev (fill σ (slot :: t)) =
            afterPhrase? (k :: ks) (some slot.last) (fill σ t) := by
        intro σ hσ
        cases slot with
        | plain c hc =>
          have hhere := hnone σ
          rw [fill_cons_of_isPlain rfl] at hhere ⊢
          rw [afterPhrase?, hhere]
        | literal q hq hole =>
          rw [fill_literal_cons]
          exact afterPhrase?_literal hq List.mem_cons_self (hσ q hole) (fill σ t)
      obtain hrest | ⟨t', hrest⟩ := ih (some slot.last)
      · exact .inl fun σ hσ => by rw [hstep σ hσ, hrest σ hσ]
      · exact .inr ⟨t', fun σ hσ => by rw [hstep σ hσ, hrest σ hσ]⟩
    · exact .inr ⟨t', fun σ _ =>
        afterPhrase?_of_wordPhrase? (fill_ne_nil (List.cons_ne_nil slot t)) (hbegins.found σ)⟩

/-- For all fillings without some phrases, a clause that they end ends behind the same slot. -/
lemma upToPhrase_fill {phrases : List (List Keyword)} (hphrases : [] ∉ phrases)
    (prev : Option Char) (t : Template) :
    ∃ s, ∀ σ : Filling, σ.Without phrases → upToPhrase phrases prev (fill σ t) = fill σ s := by
  induction t generalizing prev with
  | nil => exact ⟨[], fun σ _ => rfl⟩
  | cons slot t ih =>
    have hfront : ∀ σ, standsAt phrases prev (fill σ (slot :: t)) =
        standsAt phrases prev (front (slot :: t)) := fun σ => by
      rw [fill_eq_append σ (slot :: t), (isBarrier_back σ (slot :: t)).standsAt_append]
    by_cases hstands : standsAt phrases prev (front (slot :: t)) = true
    · exact ⟨[], fun σ _ => upToPhrase_of_standsAt ((hfront σ).trans hstands)⟩
    obtain ⟨s, hrest⟩ := ih (some slot.last)
    refine ⟨slot :: s, fun σ hσ => ?_⟩
    cases slot with
    | plain c hc =>
      have hhere := hfront σ
      rw [fill_cons_of_isPlain rfl] at hhere ⊢
      rw [upToPhrase, hhere, if_neg hstands, hrest σ hσ, fill_cons_of_isPlain rfl]
    | literal q hq hole =>
      rw [fill_literal_cons, fill_literal_cons, upToPhrase_literal hq hphrases (hσ q hole)]
      exact congrArg (fun rest => q :: (σ.content q hole ++ q :: rest)) (hrest σ hσ)

lemma Filling.Without.mono {phrases phrases' : List (List Keyword)} {σ : Filling}
    (h : σ.Without phrases) (hsub : phrases' ⊆ phrases) : σ.Without phrases' :=
  fun q hole => upToPhrase_mono hsub (h q hole)

/-- Cleaned up, a template yields the same number of texts for all fillings. -/
lemma length_splitTopLevel_fill (σ σ' : Filling) (t : Template) :
    (splitTopLevel (fill σ t)).length = (splitTopLevel (fill σ' t)).length := by
  obtain ⟨part, parts, hparts⟩ := exists_hasParts none 0 t
  have hlength : ∀ σ, (splitTopLevel (fill σ t)).length = (cleanedAll (part :: parts)).length := by
    intro σ
    have hsplit : splitTopLevel (fill σ t) = cleanAll ((part :: parts).map (fill σ)) := by
      rw [splitTopLevel, hparts.parts_eq]
      rfl
    rw [hsplit, cleanAll_fill, List.length_map]
  rw [hlength, hlength]

lemma length_conditions_fill {σ σ' : Filling} (t : Template)
    (hσ : σ.Without ([.WHERE] :: whereEnds)) (hσ' : σ'.Without ([.WHERE] :: whereEnds)) :
    (conditions (fill σ t)).length = (conditions (fill σ' t)).length := by
  have hwhere : [[Keyword.WHERE]] ⊆ [.WHERE] :: whereEnds := by simp
  have hends : whereEnds ⊆ [Keyword.WHERE] :: whereEnds := List.subset_cons_self _ _
  rw [conditions, conditions]
  obtain hnone | ⟨t', hfound⟩ := afterPhrase?_fill .WHERE [] none t
  · rw [hnone σ (hσ.mono hwhere), hnone σ' (hσ'.mono hwhere)]
  · have hnil : [] ∉ whereEnds := by decide
    obtain ⟨s, hclause⟩ := upToPhrase_fill hnil none t'
    rw [hfound σ (hσ.mono hwhere), hfound σ' (hσ'.mono hwhere)]
    simp only [hclause σ (hσ.mono hends), hclause σ' (hσ'.mono hends)]
    exact length_splitTopLevel_fill σ σ' s

lemma isNone_orderBy?_fill {σ σ' : Filling} (t : Template) (hσ : σ.Without [[.ORDER, .BY]])
    (hσ' : σ'.Without [[.ORDER, .BY]]) :
    (orderBy? (fill σ t)).isNone = (orderBy? (fill σ' t)).isNone := by
  rw [orderBy?, orderBy?]
  obtain hnone | ⟨t', hfound⟩ := afterPhrase?_fill .ORDER [.BY] none t
  · rw [hnone σ hσ, hnone σ' hσ']
  · rw [hfound σ hσ, hfound σ' hσ']
    simp only [clean_fill, isEmpty_squeeze_fill]
    split <;> rfl

/-! ## What literals may contain -/

/-- **Literals without keywords do not matter.**  Of a statement without decorations the tables, and
of any statement the number of its conditions and whether it sorts, do not depend on the contents of
its literals, as long as these name no table, hold neither `WHERE` nor a phrase that ends a clause,
or hold no `ORDER BY`. -/
theorem clauses_fill (t : Template) (σ σ' : Filling) :
    ((∀ c ∈ fill σ t, isDecoration c = false) → (∀ c ∈ fill σ' t, isDecoration c = false) →
        (∀ q hole, NamesNoTable (σ.content q hole)) →
        (∀ q hole, NamesNoTable (σ'.content q hole)) → tables (fill σ t) = tables (fill σ' t)) ∧
      (σ.Without ([.WHERE] :: whereEnds) → σ'.Without ([.WHERE] :: whereEnds) →
        (conditions (fill σ t)).length = (conditions (fill σ' t)).length) ∧
      (σ.Without [[.ORDER, .BY]] → σ'.Without [[.ORDER, .BY]] →
        (orderBy? (fill σ t)).isNone = (orderBy? (fill σ' t)).isNone) := by
  refine ⟨fun hbare hbare' hσ hσ' => ?_, length_conditions_fill t, isNone_orderBy?_fill t⟩
  have hnames := names_fill hσ hσ' t none (a := []) (List.forall_mem_nil _) hbare hbare'
  rw [List.nil_append, List.nil_append] at hnames
  rw [tables, tables, hnames.1, hnames.2]

/-- A statement with one literal, as a template. -/
def aroundLiteral (a b : List Char) (ha : a.any Literal.isQuote = false)
    (hb : b.any Literal.isQuote = false) : Template :=
  a.pmap Slot.plain (forall_mem_of_any ha) ++
    .literal '\'' (by decide) 0 :: b.pmap Slot.plain (forall_mem_of_any hb)

/-- The contents of its literal. -/
def inLiteral (x : List Char) (hx : '\'' ∉ x) : Filling :=
  Filling.empty.set 0 '\'' x (onlyDoubled_of_notMem hx)

lemma fill_pmap_plain {σ : Filling} (h : ∀ c ∈ a, Literal.isQuote c = false) :
    fill σ (a.pmap Slot.plain h) = a := by
  induction a with
  | nil => rfl
  | cons c a ih =>
    obtain ⟨-, ha⟩ := List.forall_mem_cons.mp h
    rw [List.pmap, fill_cons, ih ha]
    rfl

lemma fill_aroundLiteral {x : List Char} {hx : '\'' ∉ x} {ha : a.any Literal.isQuote = false}
    {hb : b.any Literal.isQuote = false} :
    fill (inLiteral x hx) (aroundLiteral a b ha hb) = a ++ '\'' :: (x ++ '\'' :: b) := by
  rw [aroundLiteral, fill_append, fill_literal_cons, fill_pmap_plain, fill_pmap_plain]
  rfl

lemma content_inLiteral {x : List Char} {hx : '\'' ∉ x} {P : List Char → Prop} (h : P x)
    (hempty : P []) : ∀ q hole, P ((inLiteral x hx).content q hole) := by
  intro q hole
  change P (if q = '\'' ∧ hole = 0 then x else [])
  split
  · exact h
  · exact hempty

/-- Keywords in a literal that is in no place for them: `JOIN` with no name behind it, and `ORDER`
without `BY`. -/
theorem clauses_fill_order_a_join :
    ∃ (t : Template) (σ σ' : Filling),
      fill σ t = "SELECT 1 FROM y WHERE a = 'order a join' AND b".toList ∧
      fill σ' t = "SELECT 1 FROM y WHERE a = 'from' AND b".toList ∧
      tables (fill σ t) = tables (fill σ' t) ∧
      (conditions (fill σ t)).length = (conditions (fill σ' t)).length ∧
      (orderBy? (fill σ t)).isNone = (orderBy? (fill σ' t)).isNone := by
  have hσ : fill (inLiteral "order a join".toList (by decide)) (aroundLiteral
      "SELECT 1 FROM y WHERE a = ".toList " AND b".toList (by decide) (by decide)) =
      "SELECT 1 FROM y WHERE a = 'order a join' AND b".toList := fill_aroundLiteral
  have hσ' : fill (inLiteral "from".toList (by decide)) (aroundLiteral
      "SELECT 1 FROM y WHERE a = ".toList " AND b".toList (by decide) (by decide)) =
      "SELECT 1 FROM y WHERE a = 'from' AND b".toList := fill_aroundLiteral
  obtain ⟨htables, hconditions, horder⟩ := clauses_fill _ _ _
  refine ⟨_, _, _, hσ, hσ', htables ?_ ?_ ?_ ?_, hconditions ?_ ?_, horder ?_ ?_⟩
  · rw [hσ]
    exact forall_mem_of_any (by decide)
  · rw [hσ']
    exact forall_mem_of_any (by decide)
  · exact content_inLiteral ⟨by decide +kernel, by decide +kernel⟩ ⟨rfl, rfl⟩
  · exact content_inLiteral ⟨by decide +kernel, by decide +kernel⟩ ⟨rfl, rfl⟩
  · exact content_inLiteral (P := Without _) (by decide +kernel) rfl
  · exact content_inLiteral (P := Without _) (by decide +kernel) rfl
  · exact content_inLiteral (P := Without _) (by decide +kernel) rfl
  · exact content_inLiteral (P := Without _) (by decide +kernel) rfl

/-- Contents without quotes have been exchanged in a statement without decorations. -/
structure Exchanged (t : Template) (σ σ' : Filling) : Prop where
  bare : ∀ c ∈ fill σ t, isDecoration c = false
  bare' : ∀ c ∈ fill σ' t, isDecoration c = false
  unquoted : ∀ q hole, '\'' ∉ σ.content q hole
  unquoted' : ∀ q hole, '\'' ∉ σ'.content q hole

/-- The contents of the only literal of a statement have been exchanged. -/
lemma exists_exchanged {a b x y cs ds : List Char} (ha : a.any Literal.isQuote = false)
    (hb : b.any Literal.isQuote = false) (hx : '\'' ∉ x) (hy : '\'' ∉ y)
    (hcs : a ++ '\'' :: (x ++ '\'' :: b) = cs) (hds : a ++ '\'' :: (y ++ '\'' :: b) = ds)
    (hbare : cs.any isDecoration = false) (hbare' : ds.any isDecoration = false) :
    ∃ t σ σ', Exchanged t σ σ' ∧ fill σ t = cs ∧ fill σ' t = ds := by
  have hσ : fill (inLiteral x hx) (aroundLiteral a b ha hb) = cs := fill_aroundLiteral.trans hcs
  have hσ' : fill (inLiteral y hy) (aroundLiteral a b ha hb) = ds := fill_aroundLiteral.trans hds
  exact ⟨_, _, _, ⟨hσ ▸ forall_mem_of_any hbare, hσ' ▸ forall_mem_of_any hbare',
    content_inLiteral (P := ('\'' ∉ ·)) hx (by simp),
    content_inLiteral (P := ('\'' ∉ ·)) hy (by simp)⟩, hσ, hσ'⟩

/-- **Keywords in literals disturb the clauses.**  With another text in its literal, a statement
names another table, has another number of conditions, or sorts. -/
theorem keywords_disturb_clauses :
    (∃ t σ σ', Exchanged t σ σ' ∧ fill σ t = "SELECT 'x' FROM y".toList ∧
      fill σ' t = "SELECT 'JOIN x' FROM y".toList ∧ tables (fill σ t) ≠ tables (fill σ' t)) ∧
    (∃ t σ σ', Exchanged t σ σ' ∧ fill σ t = "WHERE a = 'x' AND b".toList ∧
      fill σ' t = "WHERE a = 'ORDER BY' AND b".toList ∧
      (conditions (fill σ t)).length ≠ (conditions (fill σ' t)).length) ∧
    ∃ t σ σ', Exchanged t σ σ' ∧ fill σ t = "SELECT 'x' FROM t".toList ∧
      fill σ' t = "SELECT 'x ORDER BY y' FROM t".toList ∧
      (orderBy? (fill σ t)).isNone ≠ (orderBy? (fill σ' t)).isNone := by
  refine ⟨?_, ?_, ?_⟩
  · obtain ⟨t, σ, σ', hexchanged, hσ, hσ'⟩ := exists_exchanged
      (a := "SELECT ".toList) (b := " FROM y".toList) (x := "x".toList) (y := "JOIN x".toList)
      (by decide) (by decide) (by decide) (by decide) rfl rfl (by decide) (by decide)
    refine ⟨t, σ, σ', hexchanged, hσ, hσ', ?_⟩
    rw [hσ, hσ']
    decide +kernel
  · obtain ⟨t, σ, σ', hexchanged, hσ, hσ'⟩ := exists_exchanged
      (a := "WHERE a = ".toList) (b := " AND b".toList) (x := "x".toList) (y := "ORDER BY".toList)
      (by decide) (by decide) (by decide) (by decide) rfl rfl (by decide) (by decide)
    refine ⟨t, σ, σ', hexchanged, hσ, hσ', ?_⟩
    rw [hσ, hσ']
    decide +kernel
  · obtain ⟨t, σ, σ', hexchanged, hσ, hσ'⟩ := exists_exchanged
      (a := "SELECT ".toList) (b := " FROM t".toList) (x := "x".toList)
      (y := "x ORDER BY y".toList)
      (by decide) (by decide) (by decide) (by decide) rfl rfl (by decide) (by decide)
    refine ⟨t, σ, σ', hexchanged, hσ, hσ', ?_⟩
    rw [hσ, hσ']
    decide +kernel

end SqlAdvice.Sql
