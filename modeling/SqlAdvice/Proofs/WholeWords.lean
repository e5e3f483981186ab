import SqlAdvice.Sql.Keyword
import SqlAdvice.Proofs.Cutting
import Mathlib.Data.List.Nodup
import Mathlib.Data.List.TakeWhile
import Mathlib.Tactic.Common

/-!
# Keywords as whole words

A keyword stands at a position exactly where a word begins and that word, the whole run of word
characters, spells it (`wordPhrase?_singleton_isSome`).  So where a keyword can be found is a matter
of the words of a text, which are its pieces between the other characters:

* `Lacks ks cs` says that no word of `cs` spells one of the keywords `ks`;
* `Silent ks rest prev cs` says that none of them stands at a position of `cs`, where `rest` follows
  and `prev` stands before.

The first is a property of the text alone and goes through its parts.  The second is what the
extractors go by, and it follows where the text ends and begins with words of its own
(`silent_of_lacks`).

A phrase of several keywords has blanks after the first one, so it begins with a keyword that
stands there (`wordPhrase?_cons_eq_none`).
-/

namespace SqlAdvice.Sql

open SqlAdvice.Text

/-! ## Letters -/

lemma isUpper_of_mem_letters {k : Keyword} {c : Char} (hc : c ∈ k.letters) :
    c.isUpper = true := by
  have hall : k.letters.all Char.isUpper = true := by cases k <;> decide
  exact List.all_eq_true.mp hall c hc

/-- All keywords. -/
def Keyword.all : List Keyword :=
  [.SELECT, .INSERT, .UPDATE, .DELETE, .FROM, .JOIN, .ON, .WHERE, .GROUP, .BY, .HAVING, .ORDER,
    .AND, .OR, .NOT, .LIKE, .IN, .IS, .BETWEEN, .INNER, .LEFT, .RIGHT, .FULL, .CROSS, .OUTER,
    .NATURAL]

/-- No two keywords are spelled alike. -/
lemma letters_injective : Function.Injective Keyword.letters := by
  intro k k' h
  have hall : ∀ k, k ∈ Keyword.all := by
    intro k
    cases k <;> decide
  have hnodup : (Keyword.all.map Keyword.letters).Nodup := by decide +kernel
  exact List.inj_on_of_nodup_map hnodup (hall k) (hall k') h

@[simp] lemma map_foldCase_letters (k : Keyword) : k.letters.map foldCase = k.letters := by
  cases k <;> decide

lemma letters_ne_nil (k : Keyword) : k.letters ≠ [] := by
  cases k <;> exact List.cons_ne_nil _ _

lemma isAlpha_eq (c : Char) : c.isAlpha = (c.isUpper || c.isLower) :=
  rfl

lemma isAlpha_of_toUpper {c : Char} (h : c.toUpper.isUpper = true) : c.isAlpha = true := by
  by_cases hlower : c.isLower = true
  · rw [isAlpha_eq, hlower, Bool.or_true]
  · have hsame : c.toUpper = c := by
      refine dif_neg fun hrange => hlower ?_
      have hc : (decide ('a'.val ≤ c.val) && decide (c.val ≤ 'z'.val)) = true := by
        simpa using hrange
      exact hc
    rw [hsame] at h
    rw [isAlpha_eq, h, Bool.true_or]

/-- What reads as a letter when case is ignored is a word character. -/
lemma isWord_of_foldCase {c : Char} (h : (foldCase c).isUpper = true) : isWord c = true := by
  rw [foldCase] at h
  split at h
  · rename_i hc
    obtain rfl | rfl : c = 'İ' ∨ c = 'ı' := by simpa using hc
    all_goals decide +kernel
  · split at h
    · rename_i hc
      rw [eq_of_beq hc]
      decide +kernel
    · split at h
      · rename_i hc
        rw [eq_of_beq hc]
        decide +kernel
      · exact isWord_of_isAlphanum (by rw [Char.isAlphanum, isAlpha_of_toUpper h, Bool.true_or])

/-- No blank belongs to a word. -/
lemma isWord_of_isBlank {c : Char} (h : isBlank c = true) : isWord c = false := by
  have hcode : c.toNat ∈ List.range' 0x09 5 ++ List.range' 0x1C 5 ++ List.range' 0x2000 11 ++
      [0x85, 0xA0, 0x1680, 0x2028, 0x2029, 0x202F, 0x205F, 0x3000] := by
    simp only [isBlank, Bool.or_eq_true, Bool.and_eq_true, decide_eq_true_eq, beq_iff_eq] at h
    simp only [List.mem_append, List.mem_range'_1, List.mem_cons, List.not_mem_nil, or_false]
    omega
  have hcodes : ∀ n ∈ List.range' 0x09 5 ++ List.range' 0x1C 5 ++ List.range' 0x2000 11 ++
      [0x85, 0xA0, 0x1680, 0x2028, 0x2029, 0x202F, 0x205F, 0x3000],
      isWord (Char.ofNat n) = false := by decide +kernel
  have hword := hcodes _ hcode
  rwa [Char.ofNat_toNat] at hword

/-- Nor to an identifier. -/
lemma isNameRest_of_isBlank {c : Char} (h : isBlank c = true) : isNameRest c = false := by
  have hdollar : c ≠ '$' := ne_of_apply h (by decide)
  simp [isNameRest, isWord_of_isBlank h, hdollar]

lemma isBlank_of_isWord {c : Char} (h : isWord c = true) : isBlank c = false := by
  by_contra hblank
  rw [isWord_of_isBlank (eq_true_of_ne_false hblank)] at h
  exact Bool.false_ne_true h

lemma isBlank_of_isNameRest {c : Char} (h : isNameRest c = true) : isBlank c = false := by
  by_contra hblank
  rw [isNameRest_of_isBlank (eq_true_of_ne_false hblank)] at h
  exact Bool.false_ne_true h

lemma isWord_of_isNameStart {c : Char} (h : isNameStart c = true) : isWord c = true := by
  rw [isNameStart, Bool.or_eq_true] at h
  obtain h | h := h
  · exact isWord_of_isAlphanum (by rw [Char.isAlphanum, h, Bool.true_or])
  · rw [isWord, h, Bool.or_true]

lemma isNameRest_of_isNameStart {c : Char} (h : isNameStart c = true) : isNameRest c = true := by
  rw [isNameRest, isWord_of_isNameStart h, Bool.true_or]

/-- An identifier is a first character with all those behind it that it goes on with. -/
lemma identifier?_eq_some_iff {start : Char → Bool} {cs name rest : List Char} :
    identifier? start cs = some (name, rest) ↔
      cs = name ++ rest ∧
        (∃ c more, name = c :: more ∧ start c = true ∧ ∀ d ∈ more, isNameRest d = true) ∧
        ∀ d ∈ rest.head?, isNameRest d = false := by
  constructor
  · intro h
    cases cs with
    | nil => exact nomatch h
    | cons c cs =>
      obtain ⟨hc, hfound⟩ := Option.ite_none_right_eq_some.mp h
      obtain ⟨rfl, rfl⟩ := Prod.mk.inj (Option.some.inj hfound)
      refine ⟨?_, ⟨c, _, rfl, hc, fun d hd => List.mem_takeWhile_imp hd⟩, fun d hd => ?_⟩
      · rw [List.cons_append, List.takeWhile_append_dropWhile]
      · have hnot := List.head?_dropWhile_not isNameRest cs
        rw [Option.mem_def.mp hd] at hnot
        exact hnot
  · rintro ⟨rfl, ⟨c, more, rfl, hc, hmore⟩, hrest⟩
    rw [List.cons_append, identifier?, if_pos hc, takeWhile_append_of_head hmore hrest,
      dropWhile_append_of_head hmore hrest]

lemma letters?_eq_some_iff {ks cs rest : List Char} :
    letters? ks cs = some rest ↔ ∃ w, cs = w ++ rest ∧ w.map foldCase = ks := by
  induction ks generalizing cs with
  | nil => simp [letters?, eq_comm]
  | cons k ks ih =>
    cases cs with
    | nil => simp [letters?]
    | cons c cs =>
      rw [letters?]
      by_cases hc : foldCase c = k
      · rw [if_pos (beq_iff_eq.mpr hc), ih]
        constructor
        · rintro ⟨w, rfl, hw⟩
          exact ⟨c :: w, rfl, by rw [List.map_cons, hc, hw]⟩
        · rintro ⟨w, hcs, hw⟩
          cases w with
          | nil => simp at hw
          | cons d w =>
            obtain ⟨rfl, rfl⟩ := List.cons_eq_cons.mp hcs
            exact ⟨w, rfl, (List.cons_eq_cons.mp hw).2⟩
      · rw [if_neg (by simpa using hc)]
        refine iff_of_false (by simp) ?_
        rintro ⟨w, hcs, hw⟩
        cases w with
        | nil => simp at hw
        | cons d w =>
          obtain ⟨rfl, rfl⟩ := List.cons_eq_cons.mp hcs
          exact hc (List.cons_eq_cons.mp hw).1

/-! ## A keyword stands where the word is the keyword -/

lemma isWord_of_closesWord {rest : List Char} (hrest : closesWord rest = true) :
    ∀ c ∈ rest.head?, isWord c = false := by
  cases rest with
  | nil => simp
  | cons c rest => simpa [closesWord] using hrest

/-- No word goes on into a text that begins none. -/
lemma takeWhile_append_of_closesWord {rest : List Char} (hrest : closesWord rest = true)
    (cs : List Char) : (cs ++ rest).takeWhile isWord = cs.takeWhile isWord := by
  induction cs with
  | nil => exact takeWhile_append_of_head (w := []) (by simp) (isWord_of_closesWord hrest)
  | cons c cs ih => rw [List.cons_append, List.takeWhile_cons, List.takeWhile_cons, ih]

/-- A phrase only minds whether a word may begin where it does. -/
lemma wordPhrase?_congr {p q : Option Char} (hopens : opensWord p = opensWord q)
    (ks : List Keyword) (cs : List Char) : wordPhrase? ks p cs = wordPhrase? ks q cs := by
  rw [wordPhrase?, wordPhrase?, hopens]

lemma wordPhrase?_singleton_eq_some {k : Keyword} {prev : Option Char} {cs rest : List Char} :
    wordPhrase? [k] prev cs = some rest ↔
      opensWord prev = true ∧ k.read? cs = some rest ∧ closesWord rest = true := by
  rw [wordPhrase?]
  by_cases hprev : opensWord prev = true <;> simp [hprev, phrase?, Option.filter_eq_some_iff]

/-- **Where a keyword stands**: a word may begin there, and the word that does is the keyword, when
case is ignored. -/
lemma wordPhrase?_singleton_isSome {k : Keyword} {prev : Option Char} {cs : List Char} :
    (wordPhrase? [k] prev cs).isSome = true ↔
      opensWord prev = true ∧ (cs.takeWhile isWord).map foldCase = k.letters := by
  rw [Option.isSome_iff_exists]
  constructor
  · rintro ⟨rest, hrest⟩
    obtain ⟨hprev, hread, hclose⟩ := wordPhrase?_singleton_eq_some.mp hrest
    obtain ⟨w, rfl, hw⟩ := letters?_eq_some_iff.mp hread
    have hword : ∀ c ∈ w, isWord c = true := fun c hc =>
      isWord_of_foldCase (isUpper_of_mem_letters (hw ▸ List.mem_map_of_mem hc))
    have htake : w.takeWhile isWord = w := List.takeWhile_eq_self_iff.mpr hword
    exact ⟨hprev, by rw [takeWhile_append_of_closesWord hclose, htake, hw]⟩
  · rintro ⟨hprev, hw⟩
    refine ⟨cs.dropWhile isWord, wordPhrase?_singleton_eq_some.mpr ⟨hprev, ?_, ?_⟩⟩
    · exact letters?_eq_some_iff.mpr ⟨_, List.takeWhile_append_dropWhile.symm, hw⟩
    · have hnot := List.head?_dropWhile_not isWord cs
      cases hhead : (cs.dropWhile isWord).head? with
      | none => simp [closesWord, hhead]
      | some c =>
        rw [hhead] at hnot
        simpa [closesWord, hhead] using hnot

/-- What follows a keyword that stands somewhere is what follows the word there. -/
lemma eq_dropWhile_of_wordPhrase? {k : Keyword} {prev : Option Char} {cs rest : List Char}
    (h : wordPhrase? [k] prev cs = some rest) : rest = cs.dropWhile isWord := by
  obtain ⟨-, hread, hclose⟩ := wordPhrase?_singleton_eq_some.mp h
  obtain ⟨w, rfl, hw⟩ := letters?_eq_some_iff.mp hread
  have hword : ∀ c ∈ w, isWord c = true := fun c hc =>
    isWord_of_foldCase (isUpper_of_mem_letters (hw ▸ List.mem_map_of_mem hc))
  exact (dropWhile_append_of_head hword (isWord_of_closesWord hclose)).symm

/-- A keyword that is written out stands there. -/
lemma wordPhrase?_letters {k : Keyword} {prev : Option Char} {rest : List Char}
    (hprev : opensWord prev = true) (hrest : closesWord rest = true) :
    wordPhrase? [k] prev (k.letters ++ rest) = some rest := by
  exact wordPhrase?_singleton_eq_some.mpr
    ⟨hprev, letters?_eq_some_iff.mpr ⟨k.letters, rfl, map_foldCase_letters k⟩, hrest⟩

/-- A keyword with blanks after it stands alone. -/
lemma wordPhrase?_of_blanks {k : Keyword} {prev : Option Char} {cs mid after : List Char}
    (hprev : opensWord prev = true) (hread : k.read? cs = some mid)
    (hblanks : skipSomeBlanks? mid = some after) : wordPhrase? [k] prev cs = some mid := by
  refine wordPhrase?_singleton_eq_some.mpr ⟨hprev, hread, ?_⟩
  cases mid with
  | nil => rfl
  | cons c mid =>
    rw [skipSomeBlanks?] at hblanks
    split at hblanks
    · rename_i hc
      simp [closesWord, isWord_of_isBlank hc]
    · simp at hblanks

/-- Blanks follow the first keyword of a longer phrase, so that it stands there as a word. -/
lemma wordPhrase?_cons_eq_none {k : Keyword} {ks : List Keyword} {prev : Option Char}
    {cs : List Char} (h : wordPhrase? [k] prev cs = none) :
    wordPhrase? (k :: ks) prev cs = none := by
  cases ks with
  | nil => exact h
  | cons k' ks =>
    by_contra hne
    obtain ⟨rest, hrest⟩ := Option.ne_none_iff_exists'.mp hne
    rw [wordPhrase?] at hrest
    split at hrest
    · rename_i hprev
      obtain ⟨hphrase, -⟩ := Option.filter_eq_some_iff.mp hrest
      obtain ⟨mid, hread, hphrase⟩ := Option.bind_eq_some_iff.mp hphrase
      obtain ⟨after, hblanks, -⟩ := Option.bind_eq_some_iff.mp hphrase
      rw [wordPhrase?_of_blanks hprev hread hblanks] at h
      exact Option.some_ne_none mid h
    · exact Option.some_ne_none rest hrest.symm

/-! ## Texts without some keywords -/

/-- None of the words of a text is one of the keywords. -/
def Lacks (ks : List Keyword) (cs : List Char) : Prop :=
  ∀ w ∈ pieces (fun c => !isWord c) cs, ∀ k ∈ ks, w.map foldCase ≠ k.letters

section Lacks

variable {ks : List Keyword}

lemma Lacks.mono {ks' : List Keyword} {cs : List Char} (h : Lacks ks cs) (hsub : ks' ⊆ ks) :
    Lacks ks' cs :=
  fun w hw k hk => h w hw k (hsub hk)

lemma lacks_append_cons {m : Char} (hm : isWord m = false) {a b : List Char} :
    Lacks ks (a ++ m :: b) ↔ Lacks ks a ∧ Lacks ks b := by
  rw [Lacks, pieces_append_cons (by simp [hm])]
  exact List.forall_mem_append

lemma lacks_word {w : List Char} (hw : ∀ c ∈ w, isWord c = true) :
    Lacks ks w ↔ ∀ k ∈ ks, w.map foldCase ≠ k.letters := by
  rw [Lacks, pieces_of_none (by simpa using hw)]
  exact List.forall_mem_singleton

@[simp] lemma lacks_nil : Lacks ks [] :=
  (lacks_word (by simp)).mpr fun k _ h => letters_ne_nil k h.symm

lemma lacks_cons {m : Char} (hm : isWord m = false) {b : List Char} :
    Lacks ks (m :: b) ↔ Lacks ks b := by
  have h : Lacks ks ([] ++ m :: b) ↔ Lacks ks [] ∧ Lacks ks b := lacks_append_cons hm
  exact h.trans (and_iff_right lacks_nil)

/-- Two texts put together where the second begins no word keep their words. -/
lemma lacks_append {a b : List Char} (hb : closesWord b = true) :
    Lacks ks (a ++ b) ↔ Lacks ks a ∧ Lacks ks b := by
  cases b with
  | nil => simp
  | cons m b =>
    have hm : isWord m = false := by simpa [closesWord] using hb
    rw [lacks_append_cons hm, lacks_cons hm]

lemma isWord_of_mem_letters {k : Keyword} : ∀ c ∈ k.letters, isWord c = true :=
  fun _ hc => isWord_of_isAlphanum (by
    rw [Char.isAlphanum, isAlpha_eq, isUpper_of_mem_letters hc, Bool.true_or, Bool.true_or])

@[simp] lemma lacks_letters {k : Keyword} : Lacks ks k.letters ↔ k ∉ ks := by
  rw [lacks_word isWord_of_mem_letters, map_foldCase_letters]
  constructor
  · exact fun h hk => h k hk rfl
  · rintro hk k' hk' h
    exact hk (letters_injective h ▸ hk')

end Lacks

/-! ## Positions where no keyword stands -/

/-- None of the keywords stands at a position of a text that goes on with `rest`, where the
character before the text is given. -/
def Silent (ks : List Keyword) (rest : List Char) : Option Char → List Char → Prop
  | _, [] => True
  | prev, c :: cs =>
    (∀ k ∈ ks, wordPhrase? [k] prev (c :: cs ++ rest) = none) ∧ Silent ks rest (some c) cs

/-- The character before what follows a text. -/
def lastChar (prev : Option Char) (cs : List Char) : Option Char :=
  cs.foldl (fun _ c => some c) prev

/-- Words that are no keywords make a text silent, if its last word ends with it and its first one
begins with it.  The induction is on the text; inside a word only the words that are still to come
matter. -/
lemma silent_of_words {ks : List Keyword} {rest : List Char} (hrest : closesWord rest = true)
    {prev : Option Char} {cs : List Char}
    (h : ∀ w ∈ if opensWord prev then pieces (fun c => !isWord c) cs
      else (pieces (fun c => !isWord c) cs).tail, ∀ k ∈ ks, w.map foldCase ≠ k.letters) :
    Silent ks rest prev cs := by
  induction cs generalizing prev with
  | nil => trivial
  | cons c cs ih =>
    have hhead := pieces_eq_takeWhile_cons (fun c => !isWord c) cs
    by_cases hc : isWord c = true
    · have hpieces : pieces (fun c => !isWord c) (c :: cs) =
          (c :: cs.takeWhile isWord) :: (pieces (fun c => !isWord c) cs).tail := by
        rw [pieces, hhead]
        simp [hc]
      refine ⟨fun k hk => ?_, ih fun w hw => h w ?_⟩
      · by_contra hstands
        obtain ⟨hprev, hword⟩ :=
          wordPhrase?_singleton_isSome.mp (Option.isSome_iff_ne_none.mpr hstands)
        rw [List.cons_append, List.takeWhile_cons, if_pos hc,
          takeWhile_append_of_closesWord hrest] at hword
        rw [if_pos hprev, hpieces] at h
        exact h _ List.mem_cons_self k hk hword
      · have hw : w ∈ (pieces (fun c => !isWord c) cs).tail := by simpa [opensWord, hc] using hw
        rw [hpieces]
        split
        · exact List.mem_cons_of_mem _ hw
        · exact hw
    · have hpieces : pieces (fun c => !isWord c) (c :: cs) =
          [] :: pieces (fun c => !isWord c) cs := by
        rw [pieces]
        simp [hc]
      refine ⟨fun k _ => ?_, ih fun w hw => h w ?_⟩
      · by_contra hstands
        obtain ⟨-, hword⟩ := wordPhrase?_singleton_isSome.mp (Option.isSome_iff_ne_none.mpr hstands)
        rw [List.cons_append, List.takeWhile_cons, if_neg hc] at hword
        exact letters_ne_nil k hword.symm
      · have hw : w ∈ pieces (fun c => !isWord c) cs := by simpa [opensWord, hc] using hw
        rw [hpieces]
        split
        · exact List.mem_cons_of_mem _ hw
        · exact hw

/-- A text that lacks keywords is silent about them, where no word goes on into it or out of it. -/
lemma silent_of_lacks {ks : List Keyword} {prev : Option Char} {cs rest : List Char}
    (h : Lacks ks cs) (hrest : closesWord rest = true) : Silent ks rest prev cs := by
  refine silent_of_words hrest fun w hw => h w ?_
  split at hw
  · exact hw
  · exact List.mem_of_mem_tail hw

section Silent

variable {ks : List Keyword} {prev : Option Char} {rest : List Char}

lemma silent_append {a b : List Char} :
    Silent ks rest prev (a ++ b) ↔
      Silent ks (b ++ rest) prev a ∧ Silent ks rest (lastChar prev a) b := by
  induction a generalizing prev with
  | nil => simp [Silent, lastChar]
  | cons c a ih =>
    rw [List.cons_append, Silent, Silent, ih, and_assoc, ← List.cons_append, List.append_assoc]
    rfl

/-- No keyword begins with a character that belongs to no word. -/
lemma silent_mark {m : Char} (hm : isWord m = false) : Silent ks rest prev [m] := by
  refine ⟨fun k _ => ?_, trivial⟩
  by_contra hstands
  obtain ⟨-, hword⟩ := wordPhrase?_singleton_isSome.mp (Option.isSome_iff_ne_none.mpr hstands)
  rw [List.cons_append, List.takeWhile_cons, hm] at hword
  exact letters_ne_nil k hword.symm

/-- A text that lacks keywords is silent about them as well where its last word has ended. -/
lemma silent_of_lacks_of_last {cs : List Char} (h : Lacks ks cs)
    (hlast : ∀ c ∈ cs.getLast?, isWord c = false) : Silent ks rest prev cs := by
  obtain rfl | ⟨cs, c, rfl⟩ := List.eq_nil_or_concat' cs
  · trivial
  · have hc : isWord c = false := hlast c List.getLast?_concat
    have hfront : closesWord ([c] ++ rest) = true := by simp [closesWord, hc]
    exact silent_append.mpr
      ⟨silent_of_lacks ((lacks_append_cons hc).mp h).1 hfront, silent_mark hc⟩

lemma lastChar_append (cs cs' : List Char) :
    lastChar prev (cs ++ cs') = lastChar (lastChar prev cs) cs' :=
  List.foldl_append

@[simp] lemma lastChar_concat (cs : List Char) (c : Char) : lastChar prev (cs ++ [c]) = some c := by
  simp [lastChar]

lemma lastChar_eq_getLast? (cs : List Char) : lastChar prev cs = cs.getLast?.or prev := by
  obtain rfl | ⟨cs, c, rfl⟩ := List.eq_nil_or_concat' cs
  · rfl
  · rw [lastChar_concat, List.getLast?_concat, Option.some_or]

end Silent

end SqlAdvice.Sql
