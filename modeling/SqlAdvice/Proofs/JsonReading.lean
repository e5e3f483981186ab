import SqlAdvice.Json.Reader
import SqlAdvice.Proofs.Cutting
import SqlAdvice.Proofs.JsonGrammar

/-!
# Reading JSON

The reader follows the grammar (`read?_followsGrammar`): whatever stands for a value is read as that
value, whichever of its texts it is.  The proof goes from production to production.

A reader takes a value off the front of a longer text, so every lemma has the rest next to the text
of the value.  Most values end with a character of their own.  A number ends where the rest does not
go on with it (`EndsNumber`), and nothing that can stand behind a value does.

The recursion of the readers is bounded, and the three of them call each other.  They are proved
right together, by induction on the bound (`reads`): the length of the text is enough for a value,
and one more for items and members, whose bracket is already gone.
-/

namespace SqlAdvice.Json

open SqlAdvice.Number SqlAdvice.Text

variable {cs rest : List Char}

/-! ## Spaces -/

lemma isSpace_iff (c : Char) : isSpace c = true ↔ c ∈ [' ', '\t', '\n', '\r'] := by
  simp [isSpace, or_assoc]

lemma skipSpaces_append {ws : List Char} (h : Spaces ws) (cs : List Char) :
    skipSpaces (ws ++ cs) = skipSpaces cs := by
  rw [skipSpaces, skipSpaces, List.dropWhile_append_of_pos]
  exact fun c hc => (isSpace_iff c).mpr (h c hc)

lemma skipSpaces_cons {c : Char} (h : isSpace c = false) (cs : List Char) :
    skipSpaces (c :: cs) = c :: cs := by
  rw [skipSpaces, List.dropWhile_cons_of_neg (by simp [h])]

/-! ## Numbers -/

/-- Holds of the texts that do not go on with a number. -/
def EndsNumber (rest : List Char) : Prop :=
  ∀ c ∈ rest.head?, isDigit c = false ∧ c ≠ '.' ∧ c ≠ 'e' ∧ c ≠ 'E'

lemma endsNumber_nil : EndsNumber [] :=
  fun _ h => absurd h (Option.not_mem_none _)

/-- What may stand behind a value and the spaces that follow it. -/
lemma of_mem_closers {c : Char} (h : c ∈ [',', ']', '}']) :
    isSpace c = false ∧ isDigit c = false ∧ c ≠ '.' ∧ c ≠ 'e' ∧ c ≠ 'E' := by
  simp only [List.mem_cons, List.not_mem_nil, or_false] at h
  rcases h with rfl | rfl | rfl <;> decide

lemma endsNumber_cons {c : Char} (h : c ∈ [',', ']', '}']) (cs : List Char) :
    EndsNumber (c :: cs) := by
  intro c' hc'
  rw [← Option.some.inj hc']
  exact (of_mem_closers h).2

lemma Spaces.endsNumber {ws : List Char} (h : Spaces ws) (hrest : EndsNumber rest) :
    EndsNumber (ws ++ rest) := by
  cases ws with
  | nil => exact hrest
  | cons c ws =>
    have hc := h c List.mem_cons_self
    simp only [List.mem_cons, List.not_mem_nil, or_false] at hc
    intro c' hc'
    rw [← Option.some.inj hc']
    rcases hc with rfl | rfl | rfl | rfl <;> decide

lemma asciiDigit?_digitChar : ∀ {d : Nat}, d < 10 → asciiDigit? (digitChar d) = some d := by
  decide

lemma isDigit_digitChar {d : Nat} (hd : d < 10) : isDigit (digitChar d) = true := by
  rw [isDigit, asciiDigit?_digitChar hd]
  rfl

lemma NatText.isDigit {n : Nat} (h : NatText n cs) : ∀ c ∈ cs, isDigit c = true := by
  induction h with
  | digit hd =>
    intro c hc
    rw [List.mem_singleton.mp hc]
    exact isDigit_digitChar hd
  | more hn hd h ih =>
    intro c hc
    rcases List.mem_append.mp hc with hc | hc
    · exact ih c hc
    · rw [List.mem_singleton.mp hc]
      exact isDigit_digitChar hd

lemma NatText.ofDigits {n : Nat} (h : NatText n cs) :
    ofDigits 10 (cs.filterMap asciiDigit?) = n := by
  induction h with
  | digit hd =>
    rw [List.filterMap_cons_some (asciiDigit?_digitChar hd)]
    simp [Number.ofDigits]
  | more hn hd h ih =>
    rw [List.filterMap_append, List.filterMap_cons_some (asciiDigit?_digitChar hd)]
    simp only [Number.ofDigits, List.filterMap_nil, List.foldl_append, List.foldl_cons,
      List.foldl_nil] at ih ⊢
    rw [ih]

/-- A zero stands alone, and no other number begins with one. -/
lemma NatText.eq_or_head {n : Nat} (h : NatText n cs) :
    (n = 0 ∧ cs = ['0']) ∨ ∃ d ds, cs = digitChar d :: ds ∧ 0 < d ∧ d < 10 := by
  induction h with
  | @digit d hd =>
    rcases Nat.eq_zero_or_pos d with rfl | hpos
    · exact .inl ⟨rfl, rfl⟩
    · exact .inr ⟨d, [], rfl, hpos, hd⟩
  | @more n d cs hn hd h ih =>
    rcases ih with ⟨hzero, -⟩ | ⟨first, ds, rfl, hpos, hfirst⟩
    · exact absurd hzero (Nat.ne_of_gt hn)
    · exact .inr ⟨first, ds ++ [digitChar d], rfl, hpos, hfirst⟩

lemma digitChar_ne_zero : ∀ {d : Nat}, d < 10 → 0 < d → (digitChar d == '0') = false := by
  decide

lemma takeWhole?_append {n : Nat} (h : NatText n cs) (hrest : EndsNumber rest) :
    takeWhole? (cs ++ rest) = some (cs, rest) := by
  rcases h.eq_or_head with ⟨-, rfl⟩ | ⟨d, ds, rfl, hpos, hd⟩
  · rfl
  · have hdigits : ∀ c ∈ ds, Json.isDigit c = true := fun c hc =>
      h.isDigit c (List.mem_cons_of_mem _ hc)
    have hother : ∀ c ∈ rest.head?, Json.isDigit c = false := fun c hc => (hrest c hc).1
    rw [List.cons_append, takeWhole?, digitChar_ne_zero hd hpos, if_neg Bool.false_ne_true,
      if_pos (isDigit_digitChar hd), takeWhile_append_of_head hdigits hother,
      dropWhile_append_of_head hdigits hother]

lemma takeFraction_of_endsNumber (h : EndsNumber rest) : takeFraction rest = ([], rest) := by
  cases rest with
  | nil => rfl
  | cons c rest =>
    obtain ⟨-, hpoint, -, -⟩ := h c rfl
    rw [takeFraction]
    simpa using hpoint

lemma takeExponent_of_endsNumber (h : EndsNumber rest) : takeExponent rest = ([], rest) := by
  cases rest with
  | nil => rfl
  | cons c rest =>
    obtain ⟨-, -, hsmall, hlarge⟩ := h c rfl
    unfold takeExponent
    exact if_neg (by simp [hsmall, hlarge])

lemma NatText.exists_head {n : Nat} (h : NatText n cs) :
    ∃ d ds, cs = digitChar d :: ds ∧ d < 10 := by
  rcases h.eq_or_head with ⟨-, rfl⟩ | ⟨d, ds, rfl, -, hd⟩
  · exact ⟨0, [], rfl, by decide⟩
  · exact ⟨d, ds, rfl, hd⟩

/-- The characters with which a value begins that is no integer, and those that stand behind one,
are no digits. -/
lemma digitChar_ne : ∀ {d : Nat}, d < 10 →
    ∀ c ∈ ['-', '"', '[', '{', ']', '}', 'n', 't', 'f', 'N', 'I', ' ', '\t', '\n', '\r'],
      c ≠ digitChar d := by
  simp only [List.mem_cons, List.not_mem_nil, or_false, forall_eq_or_imp, forall_eq]
  decide

/-- An integer is read up to where it ends. -/
lemma readNumber?_append {i : Int} (h : IntText i cs) (hrest : EndsNumber rest) :
    readNumber? (cs ++ rest) = some (int i, rest) := by
  cases h with
  | @nonneg n cs hn =>
    have hsign : ∀ body, cs ++ rest ≠ '-' :: body := by
      obtain ⟨d, ds, rfl, hd⟩ := hn.exists_head
      intro body hbody
      exact digitChar_ne hd '-' (by decide) (List.cons.inj hbody).1.symm
    rw [readNumber?]
    · simp only [takeWhole?_append hn hrest, takeFraction_of_endsNumber hrest,
        takeExponent_of_endsNumber hrest, hn.ofDigits, bind, Option.bind]
      rfl
    · exact hsign
  | @neg n cs hpos hn =>
    rw [List.cons_append, readNumber?]
    simp only [takeWhole?_append hn hrest, takeFraction_of_endsNumber hrest,
      takeExponent_of_endsNumber hrest, hn.ofDigits, bind, Option.bind]
    rfl

/-! ## Characters between quotes -/

lemma hexDigit?_of_mem {c : Char} {n : Nat} (h : (c, n) ∈ hexDigits) : hexDigit? c = some n := by
  have hall : ∀ p ∈ hexDigits, hexDigit? p.1 = some p.2 := by decide
  exact hall _ h

lemma unescape?_of_mem {e c : Char} (h : (e, c) ∈ shortEscapes) :
    e ≠ 'u' ∧ unescape? e = some c := by
  have hall : ∀ p ∈ shortEscapes, p.1 ≠ 'u' ∧ unescape? p.1 = some p.2 := by decide
  exact hall _ h

/-- An escaped code unit is read and added to what is pending. -/
lemma readText?_unit {u : Nat} {ds : List Char} (h : UnitText u ds) (pending : Option Nat)
    (cs : List Char) :
    readText? pending ('\\' :: 'u' :: ds ++ cs) =
      (readText? (addUnit pending u).2 cs).map fun p => ((addUnit pending u).1 ++ p.1, p.2) := by
  cases h with
  | @mk a b c d i j k l ha hb hc hd =>
    have hvalue : hexValue? a b c d = some (((i * 16 + j) * 16 + k) * 16 + l) := by
      simp only [hexValue?, hexDigit?_of_mem ha, hexDigit?_of_mem hb, hexDigit?_of_mem hc,
        hexDigit?_of_mem hd, ofDigits, List.foldl, bind, Option.bind, pure]
      congr 1
      omega
    simp only [List.cons_append, List.nil_append]
    rw [readText?]
    simp only [hvalue, bind, Option.bind]
    rcases readText? _ cs with _ | ⟨more, rest⟩ <;> rfl

lemma addUnit_of_plane {u : Nat} (h : u < 0xD800 ∨ 0xDFFF < u) (pending : Option Nat) :
    addUnit pending u = (unpaired pending ++ [Char.ofNat u], none) := by
  unfold addUnit
  rw [if_neg (by simp; omega), if_neg (by simp; omega)]

lemma addUnit_of_high {u : Nat} (h : 0xD800 ≤ u ∧ u ≤ 0xDBFF) (pending : Option Nat) :
    addUnit pending u = (unpaired pending, some u) := by
  unfold addUnit
  rw [if_pos (by simp; omega)]

lemma addUnit_of_low {u : Nat} (h : 0xDC00 ≤ u ∧ u ≤ 0xDFFF) (high : Nat) :
    addUnit (some high) u =
      ([Char.ofNat (0x10000 + (high - 0xD800) * 0x400 + (u - 0xDC00))], none) := by
  rw [addUnit, if_neg (by simp; omega), if_pos (by simp; omega)]

/-- **Between quotes** the characters are read that the grammar says.  What is pending comes to
nothing, since no text begins with the second half of a pair. -/
lemma readText?_append {s : List Char} (h : CharsText s cs) (pending : Option Nat)
    (rest : List Char) :
    readText? pending (cs ++ '"' :: rest) = some (unpaired pending ++ s, rest) := by
  induction h generalizing pending with
  | nil => simp [readText?]
  | @plain c s cs hc hquote hbackslash h ih =>
    rw [List.cons_append, readText?]
    · rw [if_neg (by simp [hbackslash]; omega), ih]
      simp [unpaired]
    · exact hquote
    · exact fun _ _ _ _ _ hc => absurd hc hbackslash
    · exact fun _ _ hc => absurd hc hbackslash
  | @short e c s cs he h ih =>
    obtain ⟨hunit, hescape⟩ := unescape?_of_mem he
    rw [List.cons_append, List.cons_append, readText?]
    · rw [hescape, Option.bind_eq_bind, Option.bind_some, ih]
      simp [unpaired]
    · exact fun _ _ _ _ _ he => absurd he hunit
  | unit hu hplane h ih =>
    rw [List.append_assoc, readText?_unit hu, addUnit_of_plane hplane, ih]
    simp [unpaired]
  | pair hhigh hlow hfirst hsecond h ih =>
    rw [List.append_assoc, List.append_assoc]
    rw [readText?_unit hhigh, addUnit_of_high hfirst, readText?_unit hlow,
      addUnit_of_low hsecond, ih]
    simp [unpaired]

/-! ## Values -/

/-- No word begins like an integer. -/
lemma readScalar?_append {i : Int} (h : IntText i cs) (hrest : EndsNumber rest) :
    readScalar? (cs ++ rest) = some (int i, rest) := by
  have hwords : ∀ word ∈ words, dropText? word.1 (cs ++ rest) = none := by
    cases h with
    | nonneg h =>
      obtain ⟨d, ds, rfl, hd⟩ := h.exists_head
      have hne := digitChar_ne hd
      simp only [List.forall_mem_cons] at hne
      simp [words, dropText?, hne]
    | neg hpos h =>
      obtain ⟨d, ds, rfl, hd⟩ := h.exists_head
      have hne := digitChar_ne hd 'I' (by decide)
      simp [words, dropText?, hne]
  rw [readScalar?, List.findSome?_eq_none_iff.mpr, Option.none_or, readNumber?_append h hrest]
  intro word hword
  rw [Option.map_eq_none_iff, hwords word hword]

lemma IntText.exists_head {i : Int} (h : IntText i cs) :
    ∃ c ds, cs = c :: ds ∧
      c ∉ ['"', '[', '{', ']', '}', 'n', 't', 'f', 'N', 'I', ' ', '\t', '\n', '\r'] := by
  cases h with
  | nonneg h =>
    obtain ⟨d, ds, rfl, hd⟩ := h.exists_head
    refine ⟨_, ds, rfl, fun hmem => ?_⟩
    exact digitChar_ne hd _ (List.mem_cons_of_mem _ hmem) rfl
  | neg hn h => exact ⟨'-', _, rfl, by decide⟩

/-- The characters with which a value may begin neither close anything nor are spaces. -/
lemma ValueText.exists_head {j : Json} (h : ValueText j cs) :
    ∃ c ds, cs = c :: ds ∧ c ∉ [']', '}', ' ', '\t', '\n', '\r'] := by
  cases h with
  | null => exact ⟨_, _, rfl, by decide⟩
  | true => exact ⟨_, _, rfl, by decide⟩
  | false => exact ⟨_, _, rfl, by decide⟩
  | int h =>
    obtain ⟨c, ds, rfl, hc⟩ := h.exists_head
    exact ⟨c, ds, rfl, by simp_all⟩
  | text h => exact ⟨_, _, rfl, by decide⟩
  | emptyList h => exact ⟨_, _, rfl, by decide⟩
  | list h => exact ⟨_, _, rfl, by decide⟩
  | emptyObject h => exact ⟨_, _, rfl, by decide⟩
  | object hnames h => exact ⟨_, _, rfl, by decide⟩

lemma isSpace_eq_false {c : Char} (h : c ∉ [']', '}', ' ', '\t', '\n', '\r']) :
    isSpace c = false := by
  rw [Bool.eq_false_iff, Ne, isSpace_iff]
  exact fun hspace => h (List.mem_cons_of_mem _ (List.mem_cons_of_mem _ hspace))

/-- What a reader of values with a bound has to do. -/
def ReadsValues (n : Nat) : Prop :=
  ∀ {j : Json} {cs rest : List Char}, ValueText j cs → EndsNumber rest → cs.length ≤ n →
    readValue? n (cs ++ rest) = some (j, rest)

/-- The spaces around a value are dropped before it and behind it. -/
lemma readValue?_element {n : Nat} (hread : ReadsValues n) {j : Json} (h : ElementText j cs)
    (hlength : cs.length ≤ n) {c : Char} (hc : c ∈ [',', ']', '}']) (rest : List Char) :
    ∃ after, readValue? n (skipSpaces (cs ++ c :: rest)) = some (j, after) ∧
      skipSpaces after = c :: rest := by
  cases h with
  | @mk j before cs after hbefore h hafter =>
    have hends : EndsNumber (after ++ c :: rest) := hafter.endsNumber (endsNumber_cons hc rest)
    obtain ⟨first, ds, rfl, hfirst⟩ := h.exists_head
    refine ⟨after ++ c :: rest, ?_, ?_⟩
    · rw [List.append_assoc, List.append_assoc, skipSpaces_append hbefore, List.cons_append,
        skipSpaces_cons (isSpace_eq_false hfirst), ← List.cons_append]
      exact hread h hends (by simp at hlength ⊢; omega)
    · rw [skipSpaces_append hafter, skipSpaces_cons (of_mem_closers hc).1]

/-- The parts of a member, one after another. -/
lemma readValue?_member {n : Nat} (hread : ReadsValues n) {name : String} {j : Json}
    (h : MemberText (name, j) cs) (hlength : cs.length ≤ n) {c : Char} (hc : c ∈ [',', ']', '}'])
    (rest : List Char) :
    ∃ quoted, skipSpaces (cs ++ c :: rest) = '"' :: quoted ∧
      ∃ after, readText? none quoted = some (name.toList, after) ∧
        ∃ value, skipSpaces after = ':' :: value ∧
          ∃ after', readValue? n (skipSpaces value) = some (j, after') ∧
            skipSpaces after' = c :: rest := by
  cases h with
  | @mk _ _ before ns after es hbefore hname hafter h =>
    have hvalue := readValue?_element hread h (by simp at hlength; omega) hc rest
    refine ⟨ns ++ '"' :: (after ++ ':' :: (es ++ c :: rest)), ?_,
      after ++ ':' :: (es ++ c :: rest), readText?_append hname none _, es ++ c :: rest, ?_, hvalue⟩
    · simp only [List.append_assoc, List.cons_append]
      rw [skipSpaces_append hbefore, skipSpaces_cons (by decide)]
    · rw [skipSpaces_append hafter, skipSpaces_cons (by decide)]

/-- What a reader of items has to do, behind an opening bracket. -/
def ReadsItems (n : Nat) : Prop :=
  ∀ {items : List Json} {cs : List Char} (rest : List Char), ItemsText items cs → cs.length < n →
    readItems? n (skipSpaces (cs ++ ']' :: rest)) = some (items, rest)

/-- What a reader of members has to do, behind an opening brace. -/
def ReadsMembers (n : Nat) : Prop :=
  ∀ {members : List (String × Json)} {cs : List Char} (rest : List Char), MembersText members cs →
    cs.length < n → readMembers? n (skipSpaces (cs ++ '}' :: rest)) = some (members, rest)

lemma readsItems_succ {n : Nat} (hvalues : ReadsValues n) (hitems : ReadsItems n) :
    ReadsItems (n + 1) := by
  intro items cs rest h hlength
  cases h with
  | last h =>
    obtain ⟨after, hread, hafter⟩ :=
      readValue?_element hvalues h (by omega) (c := ']') (by decide) rest
    simp only [readItems?, hread, bind, Option.bind, hafter]
    rfl
  | @more j items cs ds h hmore =>
    simp only [List.length_append, List.length_cons] at hlength
    obtain ⟨after, hread, hafter⟩ :=
      readValue?_element hvalues h (by omega) (c := ',') (by decide) (ds ++ ']' :: rest)
    rw [List.append_assoc, List.cons_append]
    simp only [readItems?, hread, bind, Option.bind, hafter, hitems rest hmore (by omega)]
    rfl

lemma readsMembers_succ {n : Nat} (hvalues : ReadsValues n) (hmembers : ReadsMembers n) :
    ReadsMembers (n + 1) := by
  intro members cs rest h hlength
  cases h with
  | @last member cs h =>
    obtain ⟨quoted, hquote, after, hname, value, hcolon, after', hread, hafter⟩ :=
      readValue?_member hvalues h (by omega) (c := '}') (by decide) rest
    rw [hquote, readMembers?]
    simp only [hname, hcolon, hread, bind, Option.bind, hafter, String.ofList_toList]
    rfl
  | @more member members cs ds h hmore =>
    simp only [List.length_append, List.length_cons] at hlength
    obtain ⟨quoted, hquote, after, hname, value, hcolon, after', hread, hafter⟩ :=
      readValue?_member hvalues h (by omega) (c := ',') (by decide) (ds ++ '}' :: rest)
    rw [List.append_assoc, List.cons_append, hquote, readMembers?]
    simp only [hname, hcolon, hread, bind, Option.bind, hafter, hmembers rest hmore (by omega),
      String.ofList_toList]
    rfl

lemma ElementText.skipSpaces_ne {j : Json} (h : ElementText j cs) (tail more : List Char) :
    skipSpaces (cs ++ tail) ≠ ']' :: more := by
  cases h with
  | mk hbefore h hafter =>
    obtain ⟨c, ds, rfl, hc⟩ := h.exists_head
    rw [List.append_assoc, List.append_assoc, skipSpaces_append hbefore, List.cons_append,
      skipSpaces_cons (isSpace_eq_false hc)]
    intro heq
    exact hc (by rw [(List.cons.inj heq).1]; decide)

/-- Behind the bracket of a list that is not empty, and spaces, the list is not closed. -/
lemma ItemsText.skipSpaces_ne {items : List Json} (h : ItemsText items cs) (tail more : List Char) :
    skipSpaces (cs ++ tail) ≠ ']' :: more := by
  cases h with
  | last h => exact h.skipSpaces_ne tail more
  | more h hmore =>
    rw [List.append_assoc]
    exact h.skipSpaces_ne _ more

lemma MemberText.skipSpaces_ne {member : String × Json} (h : MemberText member cs)
    (tail more : List Char) : skipSpaces (cs ++ tail) ≠ '}' :: more := by
  cases h with
  | mk hbefore hname hafter h =>
    simp only [List.append_assoc, List.cons_append]
    rw [skipSpaces_append hbefore, skipSpaces_cons (by decide)]
    simp

lemma MembersText.skipSpaces_ne {members : List (String × Json)} (h : MembersText members cs)
    (tail more : List Char) : skipSpaces (cs ++ tail) ≠ '}' :: more := by
  cases h with
  | last h => exact h.skipSpaces_ne tail more
  | more h hmore =>
    rw [List.append_assoc]
    exact h.skipSpaces_ne _ more

lemma readsValues_succ {n : Nat} (hitems : ReadsItems n) (hmembers : ReadsMembers n) :
    ReadsValues (n + 1) := by
  intro j cs rest h hrest hlength
  cases h with
  | null => rfl
  | true => rfl
  | false => rfl
  | int h =>
    have hscalar := readScalar?_append h hrest
    obtain ⟨c, ds, rfl, hc⟩ := h.exists_head
    rw [List.cons_append] at hscalar ⊢
    rw [readValue?, hscalar]
    all_goals
      intro more heq
      exact hc (by rw [(List.cons.inj heq).1]; decide)
  | text h =>
    simp only [List.cons_append, List.append_assoc, List.nil_append]
    rw [readValue?, readText?_append h]
    simp [unpaired]
  | emptyList h =>
    simp only [List.cons_append, List.append_assoc, List.nil_append]
    rw [readValue?, skipSpaces_append h, skipSpaces_cons (by decide)]
    rfl
  | list h =>
    simp only [List.length_cons, List.length_append] at hlength
    simp only [List.cons_append, List.append_assoc, List.nil_append]
    have hread := hitems rest h (by omega)
    rw [readValue?]
    split
    · rename_i more heq
      exact absurd heq (h.skipSpaces_ne _ more)
    · rw [hread]
      rfl
  | emptyObject h =>
    simp only [List.cons_append, List.append_assoc, List.nil_append]
    rw [readValue?, skipSpaces_append h, skipSpaces_cons (by decide)]
    rfl
  | object hnames h =>
    simp only [List.length_cons, List.length_append] at hlength
    simp only [List.cons_append, List.append_assoc, List.nil_append]
    have hread := hmembers rest h (by omega)
    rw [readValue?]
    split
    · rename_i more heq
      exact absurd heq (h.skipSpaces_ne _ more)
    · rw [hread]
      rfl

/-- **A bound of the length** is enough, for lists and objects with their closing character. -/
lemma reads (n : Nat) : ReadsValues n ∧ ReadsItems n ∧ ReadsMembers n := by
  induction n with
  | zero =>
    refine ⟨fun {j cs rest} h _ hlength => ?_,
      fun _ _ hlength => absurd hlength (Nat.not_lt_zero _),
      fun _ _ hlength => absurd hlength (Nat.not_lt_zero _)⟩
    obtain ⟨c, ds, rfl, -⟩ := h.exists_head
    exact absurd hlength (Nat.not_succ_le_zero _)
  | succ n ih =>
    obtain ⟨hvalues, hitems, hmembers⟩ := ih
    exact ⟨readsValues_succ hitems hmembers, readsItems_succ hvalues hitems,
      readsMembers_succ hvalues hmembers⟩

/-- **The reader follows the grammar.** -/
lemma read?_followsGrammar : FollowsGrammar fun text => read? text.toList := by
  intro j text h
  change read? text.toList = some j
  generalize text.toList = cs at *
  cases h with
  | @mk _ before cs after hbefore h hafter =>
    obtain ⟨c, ds, hcs, hc⟩ := h.exists_head
    have hskip : skipSpaces (before ++ cs ++ after) = cs ++ after := by
      rw [List.append_assoc, skipSpaces_append hbefore, hcs, List.cons_append,
        skipSpaces_cons (isSpace_eq_false hc)]
    have hblank : skipSpaces after = [] := by
      rw [← List.append_nil after, skipSpaces_append hafter]
      rfl
    have hends : EndsNumber after := List.append_nil after ▸ hafter.endsNumber endsNumber_nil
    have hread := (reads (2 * (before ++ cs ++ after).length + 1)).1 h hends
      (by simp only [List.length_append]; omega)
    simp only [read?, hskip, hread, bind, Option.bind, hblank]
    rfl

end SqlAdvice.Json
