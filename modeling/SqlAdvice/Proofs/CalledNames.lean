import SqlAdvice.Proofs.KeywordPlaces
import Mathlib.Data.Nat.Find

/-!
# Called names

A name is called at an opening parenthesis when it touches it.  Where the name begins is said here
without the search for it: in front of the parenthesis there is a run of word characters and dollar
signs, and the name begins at the first position of the run that has an ASCII letter or an
underscore and no word character before it (`IsCallee`).

The search goes from left to right and passes over what it finds, so that one name could hide
another.  That does not happen: all positions from which one parenthesis is reached (`Touches`) are
in one run, of which the search meets the first one first, and no run goes on behind a parenthesis.
So each parenthesis is settled on its own (`functionCalls_eq_callees`).
-/

namespace SqlAdvice.Sql

open SqlAdvice.Text

variable {a b name rest text : List Char} {p q i j : Nat}

/-! ## Callees -/

/-- An identifier can begin at a position: a letter or an underscore is there, and no word character
is before it. -/
structure OpensName (text : List Char) (p : Nat) : Prop where
  letter : text[p]?.any isNameStart = true
  fresh : p = 0 ∨ text[p - 1]?.any isWord = false

/-- From `r` up to `i` there are only characters that identifiers go on with, and there is no such
character before `r`. -/
structure IsRun (text : List Char) (r i : Nat) : Prop where
  le : r ≤ i
  inside : ∀ k, r ≤ k → k < i → text[k]?.any isNameRest = true
  maximal : r = 0 ∨ text[r - 1]?.any isNameRest = false

/-- The name from `p` up to `i` is called: a parenthesis opens at `i`, and `p` is the first position
in the run before it at which an identifier can begin. -/
structure IsCallee (text : List Char) (p i : Nat) : Prop where
  paren : text[i]? = some '('
  first : ∃ r, IsRun text r i ∧ r ≤ p ∧ p < i ∧ OpensName text p ∧
    ∀ q, r ≤ q → q < p → ¬OpensName text q

/-- What is between `p` and `i` is an identifier, and a parenthesis opens behind it. -/
structure Touches (text : List Char) (p i : Nat) : Prop where
  opens : OpensName text p
  lt : p < i
  inside : ∀ k, p ≤ k → k < i → text[k]?.any isNameRest = true
  paren : text[i]? = some '('

lemma isNameRest_paren : isNameRest '(' = false := by
  decide

/-- No run goes on behind a parenthesis. -/
lemma Touches.eq_of_le (h : Touches text p i) (h' : Touches text q j) (hpq : p ≤ q) (hqi : q ≤ i) :
    j = i := by
  rcases lt_trichotomy j i with hlt | heq | hlt
  · have hinside := h.inside j (hpq.trans h'.lt.le) hlt
    rw [h'.paren, Option.any_some, isNameRest_paren] at hinside
    exact absurd hinside Bool.false_ne_true
  · exact heq
  · have hinside := h'.inside i hqi hlt
    rw [h.paren, Option.any_some, isNameRest_paren] at hinside
    exact absurd hinside Bool.false_ne_true

lemma exists_isRun (hle : p ≤ i) (h : ∀ k, p ≤ k → k < i → text[k]?.any isNameRest = true) :
    ∃ r ≤ p, IsRun text r i := by
  induction p with
  | zero => exact ⟨0, le_rfl, hle, h, .inl rfl⟩
  | succ p ih =>
    cases hp : text[p]?.any isNameRest with
    | false => exact ⟨p + 1, le_rfl, hle, h, .inr hp⟩
    | true =>
      obtain ⟨r, hr, hrun⟩ := ih (by omega) fun k hk hki => by
        rcases hk.eq_or_lt with rfl | hlt
        · exact hp
        · exact h k hlt hki
      exact ⟨r, by omega, hrun⟩

/-- A callee is the first position from which a parenthesis is reached. -/
lemma isCallee_iff : IsCallee text p i ↔ Touches text p i ∧ ∀ q < p, ¬Touches text q i := by
  constructor
  · rintro ⟨hparen, r, hrun, hrp, hpi, hbegins, hfirst⟩
    refine ⟨⟨hbegins, hpi, fun k hk => hrun.inside k (hrp.trans hk), hparen⟩, fun q hqp hq => ?_⟩
    rcases le_or_gt r q with hrq | hqr
    · exact hfirst q hrq hqp hq.opens
    · have hinside := hq.inside (r - 1) (by omega) (by omega)
      rw [hrun.maximal.resolve_left (by omega)] at hinside
      exact Bool.false_ne_true hinside
  · rintro ⟨h, hfirst⟩
    obtain ⟨r, hrp, hrun⟩ := exists_isRun h.lt.le h.inside
    refine ⟨h.paren, r, hrun, hrp, h.lt, h.opens, fun q hrq hqp hq => hfirst q hqp ?_⟩
    exact ⟨hq, hqp.trans h.lt, fun k hk => hrun.inside k (hrq.trans hk), h.paren⟩

/-- A parenthesis has a callee when an identifier can begin in the run before it. -/
lemma exists_isCallee_iff : (∃ p, IsCallee text p i) ↔
    text[i]? = some '(' ∧ ∃ r p, IsRun text r i ∧ r ≤ p ∧ p < i ∧ OpensName text p := by
  constructor
  · rintro ⟨p, hparen, r, hrun, hrp, hpi, hbegins, -⟩
    exact ⟨hparen, r, p, hrun, hrp, hpi, hbegins⟩
  · rintro ⟨hparen, r, p, hrun, hrp, hpi, hbegins⟩
    have hexists : ∃ q, Touches text q i :=
      ⟨p, hbegins, hpi, fun k hk => hrun.inside k (hrp.trans hk), hparen⟩
    classical
    exact ⟨Nat.find hexists,
      isCallee_iff.mpr ⟨Nat.find_spec hexists, fun q hq => Nat.find_min hexists hq⟩⟩

/-! ## One step of the search -/

lemma opensName_append_iff : OpensName (a ++ b) a.length ↔
    opensWord (lastChar none a) = true ∧ b.head?.any isNameStart = true := by
  have hletter : (a ++ b)[a.length]? = b.head? := by
    rw [List.getElem?_append_right le_rfl, Nat.sub_self, List.head?_eq_getElem?]
  have hfresh : (a.length = 0 ∨ (a ++ b)[a.length - 1]?.any isWord = false) ↔
      opensWord (lastChar none a) = true := by
    rcases List.eq_nil_or_concat' a with rfl | ⟨a, c, rfl⟩
    · simp [lastChar, opensWord]
    · simp [opensWord]
  rw [← hfresh, ← hletter]
  exact ⟨fun h => ⟨h.fresh, h.letter⟩, fun h => ⟨h.2, h.1⟩⟩

lemma inside_append_iff {P : Char → Bool} : (∀ k, a.length ≤ k → k < (a ++ name).length →
    (a ++ (name ++ rest))[k]?.any P = true) ↔ ∀ c ∈ name, P c = true := by
  constructor
  · intro h c hc
    obtain ⟨n, hn, rfl⟩ := List.getElem_of_mem hc
    have hat := h (a.length + n) (Nat.le_add_right _ n) (by simpa using hn)
    simpa [List.getElem?_append_right, List.getElem?_append_left hn, hn] using hat
  · intro h k hk hlt
    obtain ⟨n, rfl⟩ := Nat.exists_eq_add_of_le hk
    have hn : n < name.length := by simpa using hlt
    simpa [List.getElem?_append_right, List.getElem?_append_left hn, hn] using
      h name[n] (List.getElem_mem hn)

/-- What it is for a name between the front of a text and a parenthesis to touch it. -/
lemma touches_append_iff : Touches (a ++ (name ++ '(' :: rest)) a.length (a ++ name).length ↔
    opensWord (lastChar none a) = true ∧ name.head?.any isNameStart = true ∧
      ∀ c ∈ name, isNameRest c = true := by
  have hparen : (a ++ (name ++ '(' :: rest))[(a ++ name).length]? = some '(' := by
    rw [← List.append_assoc, List.getElem?_append_right le_rfl, Nat.sub_self]
    rfl
  have hhead : (name ++ '(' :: rest).head?.any isNameStart = name.head?.any isNameStart := by
    cases name with
    | nil => rfl
    | cons c name => rfl
  constructor
  · rintro ⟨hbegins, -, hinside, -⟩
    obtain ⟨hopens, hstart⟩ := opensName_append_iff.mp hbegins
    exact ⟨hopens, hhead ▸ hstart, inside_append_iff.mp hinside⟩
  · rintro ⟨hopens, hstart, hrest⟩
    have hne : name ≠ [] := by
      rintro rfl
      exact Bool.false_ne_true hstart
    have hlt : a.length < (a ++ name).length := by simpa using List.length_pos_iff.mpr hne
    exact ⟨opensName_append_iff.mpr ⟨hopens, hhead.trans hstart⟩, hlt, inside_append_iff.mpr hrest,
      hparen⟩

lemma Touches.exists_append (h : Touches (a ++ b) a.length i) :
    ∃ name rest, b = name ++ '(' :: rest ∧ i = (a ++ name).length := by
  have hparen := h.paren
  rw [List.getElem?_append_right h.lt.le] at hparen
  obtain ⟨hlt, hget⟩ := List.getElem?_eq_some_iff.mp hparen
  refine ⟨b.take (i - a.length), b.drop (i - a.length + 1), ?_, ?_⟩
  · rw [← hget, List.getElem_cons_drop, List.take_append_drop]
  · have := h.lt
    rw [List.length_append, List.length_take]
    omega

/-- **The search** finds a name at a position exactly if it touches a parenthesis. -/
lemma call?_lastChar_eq_some_iff : call? (lastChar none a) b = some (name, rest) ↔
    b = name ++ '(' :: rest ∧ Touches (a ++ b) a.length (a ++ name).length := by
  rw [call?_eq_some_iff]
  constructor
  · rintro ⟨hopens, rfl, hname⟩
    exact ⟨rfl, touches_append_iff.mpr ⟨hopens, hname⟩⟩
  · rintro ⟨rfl, htouches⟩
    obtain ⟨hopens, hname⟩ := touches_append_iff.mp htouches
    exact ⟨hopens, rfl, hname⟩

/-! ## The whole search -/

/-- No parenthesis from a position on is reached from before it.  So it is wherever the search looks
for a name. -/
def IsClear (text : List Char) (start : Nat) : Prop :=
  ∀ q i, q < start → start ≤ i → ¬Touches text q i

namespace IsClear

variable {start : Nat}

lemma zero : IsClear text 0 :=
  fun q _ hq => absurd hq (Nat.not_lt_zero q)

lemma succ (h : IsClear text start) (hnot : ∀ i, ¬Touches text start i) :
    IsClear text (start + 1) := by
  intro q i hq hi
  rcases Nat.lt_succ_iff_lt_or_eq.mp hq with hlt | rfl
  · exact h q i hlt (by omega)
  · exact hnot i

/-- Behind a name and its parenthesis. -/
lemma behind (h : IsClear text start) (htouches : Touches text start i) :
    IsClear text (i + 1) := by
  intro q j hq hj hreaches
  have hlt := htouches.lt
  rcases Nat.lt_or_ge q start with hqs | hsq
  · exact h q j hqs (by omega) hreaches
  · have := htouches.eq_of_le hreaches hsq (Nat.le_of_lt_succ hq)
    omega

end IsClear

/-- The callees from a position of a text on, in the order of their parentheses. -/
structure AreCallees (text : List Char) (start : Nat) (spots : List (Nat × Nat)) : Prop where
  ordered : spots.Pairwise fun s t => s.2 < t.2
  mem_iff : ∀ p i, (p, i) ∈ spots ↔ start ≤ p ∧ IsCallee text p i

namespace AreCallees

variable {start : Nat} {spots : List (Nat × Nat)}

lemma nil : AreCallees text text.length [] := by
  refine ⟨.nil, fun p i => iff_of_false List.not_mem_nil ?_⟩
  rintro ⟨hp, hcallee⟩
  have hletter := (isCallee_iff.mp hcallee).1.opens.letter
  rw [List.getElem?_eq_none hp] at hletter
  exact Bool.false_ne_true hletter

lemma of_succ (hnot : ∀ i, ¬Touches text start i) (h : AreCallees text (start + 1) spots) :
    AreCallees text start spots := by
  refine ⟨h.ordered, fun p i => (h.mem_iff p i).trans (and_congr_left fun hcallee => ?_)⟩
  have hne : p ≠ start := by
    rintro rfl
    exact hnot i (isCallee_iff.mp hcallee).1
  omega

/-- One more callee in front of the others.  Whatever reaches the same parenthesis begins later. -/
lemma cons (htouches : Touches text start i) (hfirst : ∀ q < start, ¬Touches text q i)
    (h : AreCallees text (i + 1) spots) : AreCallees text start ((start, i) :: spots) := by
  have hlt := htouches.lt
  refine ⟨.cons (fun s hs => ?_) h.ordered, fun p j => ?_⟩
  · obtain ⟨hs, hcallee⟩ := (h.mem_iff s.1 s.2).mp hs
    have := (isCallee_iff.mp hcallee).1.lt
    omega
  · rw [List.mem_cons, h.mem_iff, Prod.mk.injEq]
    constructor
    · rintro (⟨rfl, rfl⟩ | ⟨hp, hcallee⟩)
      · exact ⟨le_rfl, isCallee_iff.mpr ⟨htouches, hfirst⟩⟩
      · exact ⟨by omega, hcallee⟩
    · rintro ⟨hp, hcallee⟩
      obtain ⟨hreaches, hnone⟩ := isCallee_iff.mp hcallee
      rcases Nat.lt_or_ge i p with hip | hpi
      · exact .inr ⟨hip, hcallee⟩
      · obtain rfl := htouches.eq_of_le hreaches hp hpi
        rcases hp.eq_or_lt with rfl | hsp
        · exact .inl ⟨rfl, rfl⟩
        · exact absurd htouches (hnone start hsp)

end AreCallees

/-- The search from a position on finds the callees from there on.  By induction on the length of
what is not read yet, since names are passed over. -/
lemma exists_callees (hclear : IsClear (a ++ b) a.length) :
    ∃ spots : List (Nat × Nat), AreCallees (a ++ b) a.length spots ∧
      callsFrom 0 (lastChar none a) b = spots.map fun s => (a ++ b).extract s.1 s.2 := by
  induction hlength : b.length using Nat.strong_induction_on generalizing a b with
  | h length ih =>
    subst hlength
    cases hcall : call? (lastChar none a) b with
    | some found =>
      obtain ⟨name, rest⟩ := found
      obtain ⟨rfl, htouches⟩ := call?_lastChar_eq_some_iff.mp hcall
      have hsplit : a ++ (name ++ '(' :: rest) = (a ++ name ++ ['(']) ++ rest := by simp
      have hbehind : (a ++ name ++ ['(']).length = (a ++ name).length + 1 := List.length_append
      obtain ⟨spots, hspots, hcalls⟩ := ih rest.length (by simp; omega) (a := a ++ name ++ ['('])
        (hsplit ▸ hbehind ▸ hclear.behind htouches) rfl
      rw [hbehind, ← hsplit] at hspots
      refine ⟨_, hspots.cons htouches fun q hq => hclear q _ hq htouches.lt.le, ?_⟩
      have hname : (a ++ (name ++ '(' :: rest)).extract a.length (a ++ name).length = name := by
        rw [← List.append_assoc, extract_length, List.drop_left]
      have hfront : name ++ '(' :: rest = (name ++ ['(']) ++ rest := by simp
      rw [hfront] at hcall
      rw [List.map_cons, hname, hsplit, ← hcalls, hfront, callsFrom_of_call? (by simp) hcall,
        lastChar_concat, lastChar_concat]
    | none =>
      have hnot : ∀ i, ¬Touches (a ++ b) a.length i := by
        intro i h
        obtain ⟨name, rest, hb, rfl⟩ := h.exists_append
        have hsome := call?_lastChar_eq_some_iff.mpr ⟨hb, h⟩
        rw [hcall] at hsome
        exact nomatch hsome
      cases b with
      | nil =>
        rw [List.append_nil]
        exact ⟨[], .nil, rfl⟩
      | cons c cs =>
        have hsplit : a ++ c :: cs = (a ++ [c]) ++ cs := by simp
        have hbehind : (a ++ [c]).length = a.length + 1 := List.length_append
        obtain ⟨spots, hspots, hcalls⟩ := ih cs.length (by simp) (a := a ++ [c])
          (hsplit ▸ hbehind ▸ hclear.succ hnot) rfl
        rw [hbehind, ← hsplit] at hspots
        refine ⟨spots, hspots.of_succ hnot, ?_⟩
        rw [callsFrom, hcall, hsplit, ← hcalls, lastChar_concat]

/-- **Called names** are those of the callees.  There is one for each parenthesis with a run before
it in which an identifier can begin, and none for any other; they are in the order of the
parentheses; and each is the text from the first position at which it can begin up to the
parenthesis. -/
theorem functionCalls_eq_callees (sql : List Char) :
    ∃ spots : List (Nat × Nat), spots.Pairwise (fun s t => s.2 < t.2) ∧
      (∀ p i, (p, i) ∈ spots ↔ IsCallee sql p i) ∧
      (∀ i, i ∈ spots.map (·.2) ↔
        sql[i]? = some '(' ∧ ∃ r p, IsRun sql r i ∧ r ≤ p ∧ p < i ∧ OpensName sql p) ∧
      functionCalls sql = spots.map fun s => sql.extract s.1 s.2 := by
  obtain ⟨spots, hspots, hcalls⟩ := exists_callees (a := []) (b := sql) .zero
  have hmem : ∀ p i, (p, i) ∈ spots ↔ IsCallee sql p i := fun p i =>
    (hspots.mem_iff p i).trans (and_iff_right (Nat.zero_le p))
  refine ⟨spots, hspots.ordered, hmem, fun i => ?_, hcalls⟩
  rw [← exists_isCallee_iff]
  simp [← hmem]

/-- An identifier that cannot begin at the first letter of its run begins behind a dollar sign. -/
example : functionCalls "1a$b(f(g (".toList = ["b".toList, "f".toList] := by
  decide +kernel

end SqlAdvice.Sql
