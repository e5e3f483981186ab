import SqlAdvice.Sql.Clauses
import SqlAdvice.Sql.Conditions
import SqlAdvice.Sql.Joins
import SqlAdvice.Sql.Tables
import SqlAdvice.Proofs.WholeWords

/-!
# Scanning past a text

Every extractor walks over a statement from left to right and acts only where a keyword stands that
it looks for.  For each of them there is one lemma here: over a text that is silent about its
keywords (`Silent`) it walks without acting, and then does with the rest what it would do there.
What a walk carries along, the character before the position and the literal that is open, is what
it is at the end of the text.

An extractor that has found something passes over a number of characters in the same way, whatever
they are.  With that, a second lemma for each extractor says what it does with a text that begins
with what it looks for.
-/

namespace SqlAdvice.Sql

open SqlAdvice.Text

variable {prev quote : Option Char} {a rest : List Char}

/-! ## Phrases -/

/-- A phrase can only stand where its first keyword does. -/
lemma standsAt_eq_false {phrases : List (List Keyword)} {ks : List Keyword} {cs : List Char}
    (hheads : ∀ phrase ∈ phrases, ∃ k ∈ ks, ∃ more, phrase = k :: more)
    (h : ∀ k ∈ ks, wordPhrase? [k] prev cs = none) : standsAt phrases prev cs = false := by
  rw [standsAt, List.any_eq_false]
  intro phrase hphrase
  obtain ⟨k, hk, more, rfl⟩ := hheads phrase hphrase
  rw [wordPhrase?_cons_eq_none (h k hk)]
  simp

lemma standsAt_eq_true {phrases : List (List Keyword)} {phrase : List Keyword} {cs : List Char}
    (hphrase : phrase ∈ phrases) (h : wordPhrase? phrase prev cs = some rest) :
    standsAt phrases prev cs = true := by
  rw [standsAt, List.any_eq_true]
  exact ⟨phrase, hphrase, by rw [h]; rfl⟩

lemma afterPhrase?_append {k : Keyword} {ks : List Keyword} (h : Silent [k] rest prev a) :
    afterPhrase? (k :: ks) prev (a ++ rest) = afterPhrase? (k :: ks) (lastChar prev a) rest := by
  induction a generalizing prev with
  | nil => rfl
  | cons c a ih =>
    obtain ⟨hc, ha⟩ := h
    have hnone : wordPhrase? (k :: ks) prev (c :: a ++ rest) = none :=
      wordPhrase?_cons_eq_none (hc k List.mem_cons_self)
    rw [List.cons_append, afterPhrase?, ← List.cons_append, hnone]
    exact ih ha

lemma afterPhrase?_of_wordPhrase? {ks : List Keyword} {cs : List Char} (hne : cs ≠ [])
    (h : wordPhrase? ks prev cs = some rest) : afterPhrase? ks prev cs = some rest := by
  obtain ⟨c, cs, rfl⟩ := List.exists_cons_of_ne_nil hne
  rw [afterPhrase?, h]

lemma afterPhrase?_eq_none {k : Keyword} {ks : List Keyword} {cs : List Char}
    (h : Lacks [k] cs) : afterPhrase? (k :: ks) prev cs = none := by
  have hscan :
      afterPhrase? (k :: ks) prev (cs ++ []) = afterPhrase? (k :: ks) (lastChar prev cs) [] :=
    afterPhrase?_append (silent_of_lacks h rfl)
  rw [List.append_nil] at hscan
  rw [hscan, afterPhrase?]

lemma upToPhrase_append {phrases : List (List Keyword)} {ks : List Keyword}
    (hheads : ∀ phrase ∈ phrases, ∃ k ∈ ks, ∃ more, phrase = k :: more)
    (h : Silent ks rest prev a) :
    upToPhrase phrases prev (a ++ rest) = a ++ upToPhrase phrases (lastChar prev a) rest := by
  induction a generalizing prev with
  | nil => rfl
  | cons c a ih =>
    obtain ⟨hc, ha⟩ := h
    have hnone := standsAt_eq_false hheads hc
    rw [List.cons_append, upToPhrase, ← List.cons_append, hnone, if_neg Bool.false_ne_true, ih ha]
    rfl

lemma upToPhrase_of_standsAt {phrases : List (List Keyword)} {cs : List Char}
    (h : standsAt phrases prev cs = true) : upToPhrase phrases prev cs = [] := by
  cases cs with
  | nil => rfl
  | cons c cs => rw [upToPhrase, if_pos h]

/-! ## Names -/

section Names

variable {start : Char → Bool}

/-- The name behind a dot, if the text goes on with one. -/
lemma dotted?_of_skipBlanks {after : List Char} (h : skipBlanks a = '.' :: after) :
    dotted? start a = (component? start (skipBlanks after)).map fun found =>
      (a.takeWhile isBlank ++ '.' :: after.takeWhile isBlank ++ found.1, found.2) := by
  rw [dotted?]
  split
  · rename_i after' hskip
    obtain rfl : after = after' := (List.cons.inj (h.symm.trans hskip)).2
    cases component? start (skipBlanks after) <;> rfl
  · rename_i hnone
    exact absurd h (hnone after)

lemma dotted?_of_no_dot (h : ∀ after, skipBlanks a ≠ '.' :: after) : dotted? start a = none := by
  rw [dotted?]
  split
  · rename_i after hskip
    exact absurd hskip (h after)
  · rfl

lemma dottedTail_of_none (h : dotted? start a = none) : dottedTail start a = ([], a) := by
  rw [dottedTail]
  split <;> simp_all

lemma dottedTail_of_some {name : List Char} (h : dotted? start a = some (name, rest)) :
    dottedTail start a = (name ++ (dottedTail start rest).1, (dottedTail start rest).2) := by
  rw [dottedTail]
  split <;> simp_all

lemma qualified?_eq_map (cs : List Char) :
    qualified? start cs = (component? start cs).map fun found =>
      (found.1 ++ (dottedTail start found.2).1, (dottedTail start found.2).2) := by
  rw [qualified?]
  cases component? start cs <;> rfl

end Names

/-! ## Tables -/

lemma nameAfter?_eq_none {k : Keyword} {cs : List Char} (h : wordPhrase? [k] prev cs = none) :
    nameAfter? k prev cs = none := by
  by_contra hne
  obtain ⟨found, hfound⟩ := Option.ne_none_iff_exists'.mp hne
  rw [nameAfter?] at hfound
  split at hfound
  · rename_i hprev
    obtain ⟨mid, hread, hname⟩ := Option.bind_eq_some_iff.mp hfound
    obtain ⟨after, hblanks, -⟩ := Option.bind_eq_some_iff.mp hname
    rw [wordPhrase?_of_blanks hprev hread hblanks] at h
    exact Option.some_ne_none mid h
  · exact Option.some_ne_none found hfound.symm

lemma fromName?_append (h : Silent [.FROM] rest prev a) :
    fromName? prev (a ++ rest) = fromName? (lastChar prev a) rest := by
  induction a generalizing prev with
  | nil => rfl
  | cons c a ih =>
    obtain ⟨hc, ha⟩ := h
    have hnone := nameAfter?_eq_none (hc .FROM List.mem_cons_self)
    rw [List.cons_append, fromName?, ← List.cons_append, hnone]
    exact ih ha

lemma fromName?_of_nameAfter? {cs name : List Char} (hne : cs ≠ [])
    (h : nameAfter? .FROM prev cs = some (name, rest)) : fromName? prev cs = some name := by
  obtain ⟨c, cs, rfl⟩ := List.exists_cons_of_ne_nil hne
  rw [fromName?, h]

lemma joinNames_append (h : Silent [.JOIN] rest prev a) :
    joinNames 0 prev (a ++ rest) = joinNames 0 (lastChar prev a) rest := by
  induction a generalizing prev with
  | nil => rfl
  | cons c a ih =>
    obtain ⟨hc, ha⟩ := h
    have hnone := nameAfter?_eq_none (hc .JOIN List.mem_cons_self)
    rw [List.cons_append, joinNames, ← List.cons_append, hnone]
    exact ih ha

lemma joinNames_skip (a : List Char) :
    joinNames a.length prev (a ++ rest) = joinNames 0 (lastChar prev a) rest := by
  induction a generalizing prev with
  | nil => rfl
  | cons c a ih =>
    rw [List.length_cons, List.cons_append, joinNames]
    exact ih

lemma joinNames_of_nameAfter? {name : List Char} (hne : a ≠ [])
    (h : nameAfter? .JOIN prev (a ++ rest) = some (name, rest)) :
    joinNames 0 prev (a ++ rest) = name :: joinNames 0 (lastChar prev a) rest := by
  obtain ⟨c, a, rfl⟩ := List.exists_cons_of_ne_nil hne
  have hlength : (a ++ rest).length - rest.length = a.length := by simp
  rw [List.cons_append] at h
  rw [List.cons_append, joinNames, h]
  change name :: joinNames ((a ++ rest).length - rest.length) (some c) (a ++ rest) = _
  rw [hlength, joinNames_skip]
  rfl

/-! ## Join predicates -/

/-- The keywords that the phrases which close a predicate begin with. -/
def closingKeywords : List Keyword :=
  [.WHERE, .GROUP, .HAVING, .ORDER, .JOIN] ++ joinModifiers

lemma joinPhrase?_of_modifier {cs rest : List Char} (h : joinModifier? cs = some rest) :
    joinPhrase? cs = joinPhrase? rest := by
  rw [joinPhrase?]
  split <;> simp_all

lemma joinPhrase?_of_no_modifier {cs : List Char} (h : joinModifier? cs = none) :
    joinPhrase? cs = Keyword.JOIN.read? cs := by
  rw [joinPhrase?]
  split <;> simp_all

lemma joinPhrase?_eq_none {cs : List Char} (hprev : opensWord prev = true)
    (h : ∀ k ∈ .JOIN :: joinModifiers, wordPhrase? [k] prev cs = none) :
    (joinPhrase? cs).filter closesWord = none := by
  by_contra hne
  obtain ⟨rest, hrest⟩ := Option.ne_none_iff_exists'.mp hne
  obtain ⟨hphrase, hclose⟩ := Option.filter_eq_some_iff.mp hrest
  cases hmodifier : joinModifier? cs with
  | some after =>
    obtain ⟨k, hk, hfound⟩ := List.exists_of_findSome?_eq_some hmodifier
    obtain ⟨mid, hread, hblanks⟩ := Option.bind_eq_some_iff.mp hfound
    have hnone := h k (List.mem_cons_of_mem _ hk)
    rw [wordPhrase?_of_blanks hprev hread hblanks] at hnone
    exact Option.some_ne_none mid hnone
  | none =>
    have hnone := h .JOIN List.mem_cons_self
    rw [joinPhrase?_of_no_modifier hmodifier] at hphrase
    rw [wordPhrase?_singleton_eq_some.mpr ⟨hprev, hphrase, hclose⟩] at hnone
    exact Option.some_ne_none rest hnone

lemma closesPredicate_eq_false {cs : List Char}
    (h : ∀ k ∈ closingKeywords, wordPhrase? [k] prev cs = none) :
    closesPredicate prev cs = false := by
  have hclause : standsAt clausePhrases prev cs = false := by
    refine standsAt_eq_false ?_ h
    simp [clausePhrases, closingKeywords]
  rw [closesPredicate, hclause, Bool.false_or]
  by_cases hprev : opensWord prev = true
  · rw [joinPhrase?_eq_none hprev fun k hk => h k (by
      simp only [closingKeywords, List.mem_append, List.mem_cons] at hk ⊢
      tauto)]
    simp
  · simp [hprev]

lemma closesPredicate_of_wordPhrase? {phrase : List Keyword} {cs : List Char}
    (hphrase : phrase ∈ clausePhrases) (h : wordPhrase? phrase prev cs = some rest) :
    closesPredicate prev cs = true := by
  rw [closesPredicate, standsAt_eq_true hphrase h, Bool.true_or]

lemma closesPredicate_of_joinPhrase? {cs : List Char} (hprev : opensWord prev = true)
    (h : joinPhrase? cs = some rest) (hrest : closesWord rest = true) :
    closesPredicate prev cs = true := by
  rw [closesPredicate, hprev, h, Option.filter_some, if_pos hrest]
  exact Bool.or_true _

lemma predicateSpan_append (h : Silent closingKeywords rest prev a)
    (hplain : ∀ c ∈ a, Literal.isQuote c = false) :
    predicateSpan prev none (a ++ rest) = a ++ predicateSpan (lastChar prev a) none rest := by
  induction a generalizing prev with
  | nil => rfl
  | cons c a ih =>
    obtain ⟨hc, ha⟩ := h
    obtain ⟨hquote, hquotes⟩ := List.forall_mem_cons.mp hplain
    have hopen := closesPredicate_eq_false hc
    have hnext : Literal.next none c = none := by simp [Literal.next, hquote]
    rw [List.cons_append, predicateSpan, ← List.cons_append, hopen, Bool.and_false,
      if_neg Bool.false_ne_true, hnext, ih ha hquotes]
    rfl

lemma predicateSpans_append (h : Silent [.ON] rest prev a) :
    predicateSpans 0 prev quote (a ++ rest) =
      predicateSpans 0 (lastChar prev a) (Literal.openAfter quote a) rest := by
  induction a generalizing prev quote with
  | nil => rfl
  | cons c a ih =>
    obtain ⟨hc, ha⟩ := h
    rw [List.cons_append, predicateSpans, ← List.cons_append, hc .ON List.mem_cons_self, ite_self]
    exact ih ha

lemma predicateSpans_skip (a : List Char) :
    predicateSpans a.length prev quote (a ++ rest) =
      predicateSpans 0 (lastChar prev a) (Literal.openAfter quote a) rest := by
  induction a generalizing prev quote with
  | nil => rfl
  | cons c a ih =>
    rw [List.length_cons, List.cons_append, predicateSpans]
    exact ih

lemma predicateSpans_of_wordPhrase? {span : List Char} (hne : a ≠ [])
    (h : wordPhrase? [.ON] prev (a ++ (span ++ rest)) = some (span ++ rest))
    (hspan : predicateSpan none none (span ++ rest) = span) :
    predicateSpans 0 prev none (a ++ (span ++ rest)) =
      span :: predicateSpans 0 (lastChar prev (a ++ span)) (Literal.openAfter none (a ++ span))
        rest := by
  obtain ⟨c, a, rfl⟩ := List.exists_cons_of_ne_nil hne
  have hlength : (a ++ (span ++ rest)).length - (span ++ rest).length + span.length =
      (a ++ span).length := by
    simp only [List.length_append]
    omega
  rw [List.cons_append] at h
  rw [List.cons_append, predicateSpans, Option.isNone_none, if_pos rfl, h]
  change predicateSpan none none (span ++ rest) :: predicateSpans
    ((a ++ (span ++ rest)).length - (span ++ rest).length +
      (predicateSpan none none (span ++ rest)).length) (some c) _ (a ++ (span ++ rest)) = _
  rw [hspan, hlength, ← List.append_assoc, predicateSpans_skip]
  rfl

/-! ## Conditions -/

lemma splitTopLevel_eq (cs : List Char) : splitTopLevel cs =
    cleanAll ((topLevelParts 0 none none 0 cs).1 :: (topLevelParts 0 none none 0 cs).2) :=
  rfl

lemma connective?_eq_none {cs : List Char}
    (h : ∀ k ∈ [Keyword.AND, .OR], wordPhrase? [k] prev cs = none) :
    connective? prev cs = none := by
  rw [connective?, h .AND (by simp), h .OR (by simp)]
  rfl

/-- Characters outside parentheses and literals go to the part that is being read. -/
lemma topLevelParts_append (h : Silent [.AND, .OR] rest prev a)
    (hplain : ∀ c ∈ a, Literal.isQuote c = false ∧ c ≠ '(' ∧ c ≠ ')') :
    topLevelParts 0 prev none 0 (a ++ rest) =
      (a ++ (topLevelParts 0 (lastChar prev a) none 0 rest).1,
        (topLevelParts 0 (lastChar prev a) none 0 rest).2) := by
  induction a generalizing prev with
  | nil => rfl
  | cons c a ih =>
    obtain ⟨hc, ha⟩ := h
    obtain ⟨⟨hquote, hopen, hclose⟩, hplain⟩ := List.forall_mem_cons.mp hplain
    have hnone := connective?_eq_none hc
    have hcovers : Literal.covers none c = false := by simp [Literal.covers, hquote]
    have hdepth : depthAfter 0 c = 0 := by simp [depthAfter, hopen, hclose]
    rw [List.cons_append, topLevelParts, ← List.cons_append, hnone, ite_self, hcovers,
      if_neg Bool.false_ne_true, hdepth, ih ha hplain]
    rfl

lemma topLevelParts_skip {depth : Nat} (a : List Char) :
    topLevelParts a.length prev quote depth (a ++ rest) =
      topLevelParts 0 (lastChar prev a) quote depth rest := by
  induction a generalizing prev with
  | nil => rfl
  | cons c a ih =>
    rw [List.length_cons, List.cons_append, topLevelParts]
    exact ih

lemma topLevelParts_of_connective? (hne : a ≠ []) (hplain : ∀ c ∈ a, Literal.isQuote c = false)
    (h : connective? prev (a ++ rest) = some rest) :
    topLevelParts 0 prev none 0 (a ++ rest) =
      ([], (topLevelParts 0 (lastChar prev a) none 0 rest).1 ::
        (topLevelParts 0 (lastChar prev a) none 0 rest).2) := by
  obtain ⟨c, a, rfl⟩ := List.exists_cons_of_ne_nil hne
  have hcovers : Literal.covers none c = false := by
    simp [Literal.covers, hplain c List.mem_cons_self]
  have hlength : (a ++ rest).length - rest.length = a.length := by simp
  rw [List.cons_append] at h
  rw [List.cons_append, topLevelParts, hcovers, if_neg Bool.false_ne_true, beq_self_eq_true,
    if_pos rfl, h]
  change ([], (topLevelParts ((a ++ rest).length - rest.length) (some c) none 0 (a ++ rest)).1 ::
    (topLevelParts ((a ++ rest).length - rest.length) (some c) none 0 (a ++ rest)).2) = _
  rw [hlength, topLevelParts_skip]
  rfl

/-! ## Function calls -/

/-- A call is an identifier and a parenthesis, where no word goes on. -/
lemma call?_eq_some_iff {cs name more : List Char} : call? prev cs = some (name, more) ↔
    opensWord prev = true ∧ cs = name ++ '(' :: more ∧ name.head?.any isNameStart = true ∧
      ∀ c ∈ name, isNameRest c = true := by
  have hfound : call? prev cs = some (name, more) ↔
      opensWord prev = true ∧ identifier? isNameStart cs = some (name, '(' :: more) := by
    rw [call?, Option.ite_none_right_eq_some]
    refine and_congr_right fun _ => ?_
    split
    · rename_i hfound
      rw [hfound]
      simp
    · rename_i hother
      exact iff_of_false (Option.some_ne_none _).symm (hother name more)
  rw [hfound, identifier?_eq_some_iff]
  refine and_congr_right fun _ => and_congr_right fun _ => ?_
  constructor
  · rintro ⟨⟨c, w, rfl, hc, hw⟩, -⟩
    exact ⟨hc, List.forall_mem_cons.mpr ⟨isNameRest_of_isNameStart hc, hw⟩⟩
  · rintro ⟨hstart, hrest⟩
    cases name with
    | nil => exact absurd hstart Bool.false_ne_true
    | cons c w =>
      exact ⟨⟨c, w, rfl, hstart, (List.forall_mem_cons.mp hrest).2⟩,
        forall_mem_head?_cons.mpr (by decide)⟩

lemma mem_of_call?_eq_some {cs name more : List Char} (h : call? prev cs = some (name, more)) :
    '(' ∈ cs := by
  obtain ⟨-, rfl, -⟩ := call?_eq_some_iff.mp h
  exact List.mem_append_right name List.mem_cons_self

lemma callsFrom_skip (a : List Char) :
    callsFrom a.length prev (a ++ rest) = callsFrom 0 (lastChar prev a) rest := by
  induction a generalizing prev with
  | nil => rfl
  | cons c a ih =>
    rw [List.length_cons, List.cons_append, callsFrom]
    exact ih

lemma callsFrom_of_call? {name : List Char} (hne : a ≠ [])
    (h : call? prev (a ++ rest) = some (name, rest)) :
    callsFrom 0 prev (a ++ rest) = name :: callsFrom 0 (lastChar prev a) rest := by
  obtain ⟨c, a, rfl⟩ := List.exists_cons_of_ne_nil hne
  have hlength : (a ++ rest).length - rest.length = a.length := by simp
  rw [List.cons_append] at h
  rw [List.cons_append, callsFrom, h]
  change name :: callsFrom ((a ++ rest).length - rest.length) (some c) (a ++ rest) = _
  rw [hlength, callsFrom_skip]
  rfl

/-- Nothing is called in a text without an opening parenthesis. -/
lemma callsFrom_eq_nil {cs : List Char} (h : '(' ∉ cs) : callsFrom 0 prev cs = [] := by
  induction cs generalizing prev with
  | nil => rfl
  | cons c cs ih =>
    have hnone : call? prev (c :: cs) = none := by
      by_contra hne
      obtain ⟨⟨name, more⟩, hfound⟩ := Option.ne_none_iff_exists'.mp hne
      exact h (mem_of_call?_eq_some hfound)
    rw [callsFrom, hnone]
    exact ih fun hmem => h (List.mem_cons_of_mem c hmem)

end SqlAdvice.Sql
