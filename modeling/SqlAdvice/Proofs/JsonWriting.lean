import SqlAdvice.Json.Writer
import SqlAdvice.Proofs.JsonGrammar

/-!
# Written JSON

A value is portable when it holds no double and no object of it has two members of one name.  The
written form of a portable value is a text of that value (`valueText_writeAt`), so every reader that
follows the grammar reads it back (`reader_write`).  The proof follows the writer: the characters of
a text are escaped one by one, digits are those of the integer, and the lines of a list or an object
are its items and members with spaces in front.
-/

namespace SqlAdvice.Json

open SqlAdvice.Number SqlAdvice.Text

/-! ## Portable values -/

mutual

/-- Tells whether a value holds no double and no two members of one name. -/
def isPortable : Json → Bool
  | null => true
  | bool _ => true
  | int _ => true
  | float _ => false
  | text _ => true
  | list items => arePortable items
  | object members => decide (members.map Prod.fst).Nodup && arePortableMembers members

/-- Tells whether some items are portable. -/
def arePortable : List Json → Bool
  | [] => true
  | item :: items => isPortable item && arePortable items

/-- Tells whether the values of some members are portable. -/
def arePortableMembers : List (String × Json) → Bool
  | [] => true
  | (_, item) :: members => isPortable item && arePortableMembers members

end

lemma arePortable_eq_all (items : List Json) : arePortable items = items.all isPortable := by
  induction items with
  | nil => rfl
  | cons item items ih => rw [arePortable, List.all_cons, ih]

lemma isPortable_texts (items : List String) : isPortable (texts items) = true := by
  rw [texts, isPortable, arePortable_eq_all, List.all_map, List.all_eq_true]
  intro s _
  rfl

/-! ## Numbers -/

lemma natText_natDigits (n : Nat) : NatText n (natDigits n) := by
  induction n using natDigits.induct with
  | case1 n hn =>
    rw [natDigits, if_pos hn]
    exact .digit hn
  | case2 n hn ih =>
    have hsplit : 10 * (n / 10) + n % 10 = n := Nat.div_add_mod n 10
    rw [natDigits, if_neg hn]
    nth_rewrite 1 [← hsplit]
    exact .more (by omega) (by omega) ih

lemma intText_intDigits (i : Int) : IntText i (intDigits i) := by
  cases i with
  | ofNat n => exact .nonneg (natText_natDigits n)
  | negSucc n => exact .neg n.succ_pos (natText_natDigits (n + 1))

/-! ## Texts -/

lemma hexDigit_mem_hexDigits : ∀ {n : Nat}, n < 16 → (hexDigit n, n) ∈ hexDigits := by
  decide

lemma unitText_hex {n : Nat} (h : n < 0x10000) : UnitText n (hex 4 n) := by
  have hsplit : ((n / 16 / 16 / 16 % 16 * 16 + n / 16 / 16 % 16) * 16 + n / 16 % 16) * 16 +
      n % 16 = n := by omega
  have hmod (m : Nat) : (hexDigit (m % 16), m % 16) ∈ hexDigits :=
    hexDigit_mem_hexDigits (Nat.mod_lt m (by decide))
  nth_rewrite 1 [← hsplit]
  exact .mk (hmod _) (hmod _) (hmod _) (hmod _)

/-- One character more, as it is written. -/
lemma charsText_escape (c : Char) {s cs : List Char} (h : CharsText s cs) :
    CharsText (c :: s) (escape c ++ cs) := by
  have hshort {e c' : Char} (hc : (c == c') = true) (he : (e, c') ∈ shortEscapes) :
      CharsText (c :: s) ('\\' :: e :: cs) := .short (beq_iff_eq.mp hc ▸ he) h
  rw [escape]
  split_ifs with hquote hbackslash hb hf hn hr ht hcontrol
  · exact hshort hquote (by decide)
  · exact hshort hbackslash (by decide)
  · exact hshort hb (by decide)
  · exact hshort hf (by decide)
  · exact hshort hn (by decide)
  · exact hshort hr (by decide)
  · exact hshort ht (by decide)
  · have hunit : UnitText c.toNat (hex 4 c.toNat) := unitText_hex (by omega)
    nth_rewrite 1 [← Char.ofNat_toNat c]
    exact .unit hunit (by omega) h
  · exact .plain (by omega) (by simpa using hquote) (by simpa using hbackslash) h

lemma charsText_escaped (s : List Char) : CharsText s (s.flatMap escape) := by
  induction s with
  | nil => exact .nil
  | cons c s ih => exact charsText_escape c ih

/-! ## Lists and objects -/

lemma spaces_newLine (level : Nat) : Spaces (newLine level) := by
  intro c hc
  rcases List.mem_cons.mp hc with rfl | hc
  · decide
  · rw [List.eq_of_mem_replicate hc]
    decide

lemma spaces_nil : Spaces [] :=
  fun _ h => absurd h List.not_mem_nil

lemma spaces_single : Spaces [' '] := by
  simp [Spaces]

/-- A member behind some spaces, as it is written. -/
lemma memberText_written {name : String} {j : Json} {before cs after : List Char}
    (hbefore : Spaces before) (h : ValueText j cs) (hafter : Spaces after) :
    MemberText (name, j) (before ++ writeText name ++ ':' :: ' ' :: cs ++ after) := by
  have hwritten := MemberText.mk hbefore (charsText_escaped name.toList) spaces_nil
    (ElementText.mk spaces_single h hafter)
  simpa [writeText] using hwritten

mutual

/-- **A written value** stands for the value. -/
theorem valueText_writeAt (level : Nat) : (j : Json) → isPortable j = true →
    ValueText j (writeAt level j)
  | null, _ => .null
  | bool .true, _ => .true
  | bool .false, _ => .false
  | int i, _ => .int (intText_intDigits i)
  | text s, _ => .text (charsText_escaped s.toList)
  | list [], _ => .emptyList spaces_nil
  | list (item :: items), h => by
    rw [isPortable, arePortable, Bool.and_eq_true] at h
    have hitem := valueText_writeAt (level + 1) item h.1
    have hitems := itemsText_writeItems (level + 1) items h.2 (spaces_newLine (level + 1)) hitem
      (spaces_newLine level)
    rw [writeAt]
    simpa using ValueText.list hitems
  | object [], _ => .emptyObject spaces_nil
  | object ((name, item) :: members), h => by
    rw [isPortable, arePortableMembers, Bool.and_eq_true, Bool.and_eq_true] at h
    obtain ⟨hnames, hitem, hmembers⟩ := h
    have hitem := valueText_writeAt (level + 1) item hitem
    have hmembers := membersText_writeMembers (level + 1) members hmembers name
      (spaces_newLine (level + 1)) hitem (spaces_newLine level)
    rw [writeAt]
    simpa using ValueText.object (of_decide_eq_true hnames) hmembers

/-- The items behind the first, which may stand behind any spaces; others follow the last. -/
theorem itemsText_writeItems (level : Nat) : (items : List Json) → arePortable items = true →
    ∀ {j : Json} {before cs after : List Char}, Spaces before → ValueText j cs → Spaces after →
      ItemsText (j :: items) (before ++ cs ++ writeItems level items ++ after)
  | [], _, _, _, _, _, hbefore, hj, hafter => by
    rw [writeItems, List.append_nil]
    exact .last (.mk hbefore hj hafter)
  | item :: items, h, _, _, _, _, hbefore, hj, hafter => by
    rw [arePortable, Bool.and_eq_true] at h
    have hitem := valueText_writeAt level item h.1
    have hitems := itemsText_writeItems level items h.2 (spaces_newLine level) hitem hafter
    rw [writeItems]
    simpa using ItemsText.more (.mk hbefore hj spaces_nil) hitems

/-- The members behind the first, which may stand behind any spaces; others follow the last. -/
theorem membersText_writeMembers (level : Nat) : (members : List (String × Json)) →
    arePortableMembers members = true →
    ∀ (name : String) {j : Json} {before cs after : List Char}, Spaces before → ValueText j cs →
      Spaces after → MembersText ((name, j) :: members)
        (before ++ writeText name ++ ':' :: ' ' :: cs ++ writeMembers level members ++ after)
  | [], _, _, _, _, _, _, hbefore, hj, hafter => by
    rw [writeMembers, List.append_nil]
    exact .last (memberText_written hbefore hj hafter)
  | (name, item) :: members, h, _, _, _, _, _, hbefore, hj, hafter => by
    rw [arePortableMembers, Bool.and_eq_true] at h
    have hitem := valueText_writeAt level item h.1
    have hmembers := membersText_writeMembers level members h.2 name (spaces_newLine level) hitem
      hafter
    rw [writeMembers]
    simpa using MembersText.more (memberText_written hbefore hj spaces_nil) hmembers

end

/-- A written value can be read back by every reader that follows the grammar. -/
lemma reader_write {reader : String → Option Json} (hreader : FollowsGrammar reader) {j : Json}
    (h : isPortable j = true) : reader (write j) = some j := by
  have helement := ElementText.mk spaces_nil (valueText_writeAt 0 j h) spaces_nil
  refine hreader j (write j) ?_
  rw [write, String.toList_ofList]
  simpa using helement

end SqlAdvice.Json
