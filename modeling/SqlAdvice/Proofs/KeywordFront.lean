import SqlAdvice.Proofs.Scanning

/-!
# Keywords end at a barrier

A phrase of keywords is made of word characters and blanks.  So where a text goes on with a
character that is neither (`IsBarrier`), a phrase that begins in front of it ends in front of it:
the recognisers find in the whole text what they find in its front, and leave what follows the
barrier alone.  There is one lemma for each of them, from a single keyword (`read?_append`) to the
test that closes a join predicate (`closesPredicate_append`).
-/

namespace SqlAdvice.Sql

open SqlAdvice.Text

/-- A text that begins with no word character and no blank, if it begins at all. -/
def IsBarrier (tail : List Char) : Prop :=
  ∀ c ∈ tail.head?, isWord c = false ∧ isBlank c = false

variable {tail : List Char}

/-- A quote is no word character, no blank and no terminator. -/
lemma kind_of_isQuote {c : Char} (h : Literal.isQuote c = true) :
    isWord c = false ∧ isBlank c = false ∧ (c == ';') = false := by
  obtain rfl | rfl : c = '\'' ∨ c = '"' := by simpa [Literal.isQuote] using h
  all_goals decide +kernel

lemma isBarrier_of_isQuote (h : ∀ c ∈ tail.head?, Literal.isQuote c = true) : IsBarrier tail :=
  fun c hc => ⟨(kind_of_isQuote (h c hc)).1, (kind_of_isQuote (h c hc)).2.1⟩

namespace IsBarrier

variable (htail : IsBarrier tail)

include htail

lemma closesWord : closesWord tail = true := by
  cases tail with
  | nil => rfl
  | cons c tail => simp [Sql.closesWord, (htail c rfl).1]

lemma letters?_append {ks : List Char} (hks : ∀ k ∈ ks, k.isUpper = true) (cs : List Char) :
    letters? ks (cs ++ tail) = (letters? ks cs).map (· ++ tail) := by
  induction ks generalizing cs with
  | nil => rfl
  | cons k ks ih =>
    obtain ⟨hk, hrest⟩ := List.forall_mem_cons.mp hks
    cases cs with
    | nil =>
      -- The barrier itself is no letter of the keyword.
      cases tail with
      | nil => rfl
      | cons c tail =>
        have hc : foldCase c ≠ k := by
          rintro rfl
          exact Bool.false_ne_true ((htail c rfl).1.symm.trans (isWord_of_foldCase hk))
        simp [letters?, hc]
    | cons c cs =>
      rw [List.cons_append, letters?, letters?]
      split
      · exact ih hrest cs
      · rfl

lemma read?_append (k : Keyword) (cs : List Char) :
    k.read? (cs ++ tail) = (k.read? cs).map (· ++ tail) :=
  htail.letters?_append (fun _ hc => isUpper_of_mem_letters hc) cs

lemma skipBlanks_append (cs : List Char) : skipBlanks (cs ++ tail) = skipBlanks cs ++ tail := by
  rw [skipBlanks, List.dropWhile_append, skipBlanks]
  split
  · rename_i hnil
    rw [List.isEmpty_iff.mp hnil, dropWhile_of_head fun c hc => (htail c hc).2, List.nil_append]
  · rfl

lemma skipSomeBlanks?_append (cs : List Char) :
    skipSomeBlanks? (cs ++ tail) = (skipSomeBlanks? cs).map (· ++ tail) := by
  cases cs with
  | nil =>
    cases tail with
    | nil => rfl
    | cons c tail => simp [skipSomeBlanks?, (htail c rfl).2]
  | cons c cs =>
    rw [List.cons_append, skipSomeBlanks?, skipSomeBlanks?, htail.skipBlanks_append]
    split <;> rfl

lemma phrase?_append (ks : List Keyword) (cs : List Char) :
    phrase? ks (cs ++ tail) = (phrase? ks cs).map (· ++ tail) := by
  induction ks generalizing cs with
  | nil => rfl
  | cons k ks ih =>
    cases ks with
    | nil => exact htail.read?_append k cs
    | cons k' ks =>
      have hphrase : ∀ cs, phrase? (k :: k' :: ks) cs =
          (k.read? cs).bind fun mid => (skipSomeBlanks? mid).bind (phrase? (k' :: ks)) :=
        fun _ => rfl
      rw [hphrase, hphrase, htail.read?_append]
      cases k.read? cs with
      | none => rfl
      | some mid =>
        rw [Option.map_some, Option.bind_some, Option.bind_some, htail.skipSomeBlanks?_append]
        cases skipSomeBlanks? mid with
        | none => rfl
        | some after => exact ih after

lemma closesWord_append (cs : List Char) : Sql.closesWord (cs ++ tail) = Sql.closesWord cs := by
  cases cs with
  | nil => exact htail.closesWord
  | cons c cs => rfl

lemma filter_closesWord (found : Option (List Char)) :
    (found.map (· ++ tail)).filter Sql.closesWord =
      (found.filter Sql.closesWord).map (· ++ tail) := by
  cases found with
  | none => rfl
  | some rest =>
    rw [Option.map_some, Option.filter_some, Option.filter_some, htail.closesWord_append]
    split <;> rfl

/-- **Phrases that stand alone** end at a barrier. -/
lemma wordPhrase?_append (ks : List Keyword) (prev : Option Char) (cs : List Char) :
    wordPhrase? ks prev (cs ++ tail) = (wordPhrase? ks prev cs).map (· ++ tail) := by
  rw [wordPhrase?, wordPhrase?, htail.phrase?_append, htail.filter_closesWord]
  split <;> rfl

lemma connective?_append (prev : Option Char) (cs : List Char) :
    connective? prev (cs ++ tail) = (connective? prev cs).map (· ++ tail) := by
  rw [connective?, connective?, htail.wordPhrase?_append, htail.wordPhrase?_append]
  cases wordPhrase? [.AND] prev cs <;> rfl

lemma standsAt_append (phrases : List (List Keyword)) (prev : Option Char) (cs : List Char) :
    standsAt phrases prev (cs ++ tail) = standsAt phrases prev cs := by
  simp only [standsAt, htail.wordPhrase?_append, Option.isSome_map]

lemma joinModifier?_append (cs : List Char) :
    joinModifier? (cs ++ tail) = (joinModifier? cs).map (· ++ tail) := by
  rw [joinModifier?, joinModifier?, List.map_findSome?]
  congr 1
  funext k
  rw [Function.comp_apply, htail.read?_append]
  cases k.read? cs with
  | none => rfl
  | some mid => exact htail.skipSomeBlanks?_append mid

/-- By induction on the modifiers that are read. -/
lemma joinPhrase?_append (cs : List Char) :
    joinPhrase? (cs ++ tail) = (joinPhrase? cs).map (· ++ tail) := by
  induction cs using joinPhrase?.induct with
  | case1 cs rest hmodifier ih =>
    have hmore : joinModifier? (cs ++ tail) = some (rest ++ tail) := by
      rw [htail.joinModifier?_append, hmodifier, Option.map_some]
    rw [joinPhrase?_of_modifier hmore, joinPhrase?_of_modifier hmodifier, ih]
  | case2 cs hmodifier =>
    have hmore : joinModifier? (cs ++ tail) = none := by
      rw [htail.joinModifier?_append, hmodifier, Option.map_none]
    rw [joinPhrase?_of_no_modifier hmore, joinPhrase?_of_no_modifier hmodifier, htail.read?_append]

/-- **Clauses and joins** begin in front of a barrier whatever follows it. -/
lemma closesPredicate_append (prev : Option Char) (cs : List Char) :
    closesPredicate prev (cs ++ tail) = closesPredicate prev cs := by
  rw [closesPredicate, closesPredicate, htail.standsAt_append, htail.joinPhrase?_append,
    htail.filter_closesWord, Option.isSome_map]

end IsBarrier

end SqlAdvice.Sql
