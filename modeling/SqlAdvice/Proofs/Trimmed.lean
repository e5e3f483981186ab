import SqlAdvice.Sql.Name
import Mathlib.Data.List.Basic
import Mathlib.Data.List.TakeWhile
import Mathlib.Tactic.Common

/-!
# Trimmed texts

`trim` takes the blanks off both ends of a text.  The texts that it leaves alone are those without
blanks at their ends (`NoBlankEnds`, `trim_of_noBlankEnds`), and its results are of that kind
(`noBlankEnds_trim`).  What it takes off is blank (`exists_trim`), so that only texts of blanks are
trimmed away (`trim_eq_nil_iff`).

The reported name of a table is of that kind too: it is put together from trimmed parts with dots
between them, and a dot is no blank (`noBlankEnds_undecorate`).
-/

namespace SqlAdvice.Text

/-- No blank at the front and none at the end. -/
structure NoBlankEnds (cs : List Char) : Prop where
  head : ∀ c ∈ cs.head?, isBlank c = false
  last : ∀ c ∈ cs.getLast?, isBlank c = false

/-! ## Trimming -/

lemma dropTailWhile_of_last {p : Char → Bool} {cs : List Char}
    (h : ∀ c ∈ cs.getLast?, p c = false) : dropTailWhile p cs = cs := by
  have hdrop : cs.reverse.dropWhile p = cs.reverse := by
    cases hrev : cs.reverse with
    | nil => rfl
    | cons c rest =>
      have hlast : cs.getLast? = some c := by rw [List.getLast?_eq_head?_reverse, hrev]; rfl
      rw [List.dropWhile_cons, h c hlast, if_neg Bool.false_ne_true]
  rw [dropTailWhile, hdrop, List.reverse_reverse]

lemma dropTailWhile_prefix (p : Char → Bool) (cs : List Char) : dropTailWhile p cs <+: cs := by
  rw [← List.reverse_suffix, dropTailWhile, List.reverse_reverse]
  exact List.dropWhile_suffix p

lemma getLast?_dropTailWhile {p : Char → Bool} {cs : List Char} {c : Char}
    (h : c ∈ (dropTailWhile p cs).getLast?) : p c = false := by
  rw [dropTailWhile, List.getLast?_reverse, Option.mem_def] at h
  have hhead := List.head?_dropWhile_not p cs.reverse
  rw [h] at hhead
  exact hhead

lemma dropWhile_of_head {p : Char → Bool} {cs : List Char} (h : ∀ c ∈ cs.head?, p c = false) :
    cs.dropWhile p = cs := by
  cases cs with
  | nil => rfl
  | cons c cs => rw [List.dropWhile_cons, h c rfl, if_neg Bool.false_ne_true]

lemma trim_of_noBlankEnds {cs : List Char} (h : NoBlankEnds cs) : trim cs = cs := by
  rw [trim, dropWhile_of_head h.head, dropTailWhile_of_last h.last]

lemma noBlankEnds_trim (cs : List Char) : NoBlankEnds (trim cs) where
  head c hc := by
    obtain ⟨rest, hrest⟩ := dropTailWhile_prefix isBlank (cs.dropWhile isBlank)
    have hhead : (cs.dropWhile isBlank).head? = some c := by
      rw [← hrest, List.head?_append, ← trim, Option.mem_def.mp hc]
      rfl
    have hnot := List.head?_dropWhile_not isBlank cs
    rw [hhead] at hnot
    exact hnot
  last _ hc := getLast?_dropTailWhile hc

/-- What is taken off is blank. -/
lemma exists_trim (cs : List Char) : ∃ x y, cs = x ++ (trim cs ++ y) ∧
    (∀ c ∈ x, isBlank c = true) ∧ ∀ c ∈ y, isBlank c = true := by
  have htail (ds : List Char) :
      dropTailWhile isBlank ds ++ (ds.reverse.takeWhile isBlank).reverse = ds := by
    rw [dropTailWhile, ← List.reverse_append, List.takeWhile_append_dropWhile, List.reverse_reverse]
  refine ⟨cs.takeWhile isBlank, ((cs.dropWhile isBlank).reverse.takeWhile isBlank).reverse, ?_,
    fun _ => List.mem_takeWhile_imp, fun c hc => List.mem_takeWhile_imp (List.mem_reverse.mp hc)⟩
  rw [trim, htail, List.takeWhile_append_dropWhile]

lemma isInfix_trim (cs : List Char) : trim cs <:+: cs := by
  obtain ⟨x, y, hcs, -, -⟩ := exists_trim cs
  exact ⟨x, y, by rw [List.append_assoc, ← hcs]⟩

lemma filter_trim (cs : List Char) :
    (trim cs).filter (fun c => !isBlank c) = cs.filter fun c => !isBlank c := by
  obtain ⟨x, y, hcs, hx, hy⟩ := exists_trim cs
  have hnone {z : List Char} (hz : ∀ c ∈ z, isBlank c = true) :
      z.filter (fun c => !isBlank c) = [] :=
    List.filter_eq_nil_iff.mpr fun c hc => by simp [hz c hc]
  conv_rhs => rw [hcs]
  rw [List.filter_append, List.filter_append, hnone hx, hnone hy, List.nil_append, List.append_nil]

/-- Nothing is left of a text of blanks, and of no other one. -/
lemma trim_eq_nil_iff {cs : List Char} : trim cs = [] ↔ ∀ c ∈ cs, isBlank c = true := by
  constructor
  · intro h
    have hfilter := filter_trim cs
    rw [h, List.filter_nil, eq_comm, List.filter_eq_nil_iff] at hfilter
    simpa using hfilter
  · intro h
    rw [trim, List.dropWhile_eq_nil_iff.mpr h]
    rfl

/-! ## Texts put together -/

@[simp] lemma joinPieces_singleton (sep : Char) (w : List Char) : joinPieces sep [w] = w := by
  simp [joinPieces, List.intercalate]

lemma joinPieces_cons_head (sep c : Char) (w : List Char) (ws : List (List Char)) :
    joinPieces sep ((c :: w) :: ws) = c :: joinPieces sep (w :: ws) := by
  cases ws <;> simp [joinPieces, List.intercalate]

lemma joinPieces_cons_cons (sep : Char) (w v : List Char) (ws : List (List Char)) :
    joinPieces sep (w :: v :: ws) = w ++ sep :: joinPieces sep (v :: ws) := by
  simp [joinPieces, List.intercalate]

lemma filter_joinPieces {sep : Char} {p : Char → Bool} (hsep : p sep = true)
    (ws : List (List Char)) :
    (joinPieces sep ws).filter p = joinPieces sep (ws.map (List.filter p)) := by
  induction ws with
  | nil => rfl
  | cons w ws ih =>
    cases ws with
    | nil => rw [List.map_singleton, joinPieces_singleton, joinPieces_singleton]
    | cons v ws =>
      rw [joinPieces_cons_cons, List.filter_append, List.filter_cons, if_pos hsep, ih]
      exact (joinPieces_cons_cons ..).symm

lemma joinPieces_concat (sep : Char) {ws : List (List Char)} (hne : ws ≠ []) (w : List Char) :
    joinPieces sep (ws ++ [w]) = joinPieces sep ws ++ sep :: w := by
  induction ws with
  | nil => exact absurd rfl hne
  | cons v ws ih =>
    cases ws with
    | nil => simp [joinPieces_cons_cons]
    | cons u ws =>
      rw [List.cons_append, List.cons_append, joinPieces_cons_cons, ← List.cons_append,
        ih (List.cons_ne_nil u ws), joinPieces_cons_cons, List.append_assoc, List.cons_append]

lemma eq_or_mem_of_mem_joinPieces {sep c : Char} {ws : List (List Char)}
    (h : c ∈ joinPieces sep ws) : c = sep ∨ ∃ w ∈ ws, c ∈ w := by
  induction ws with
  | nil => cases h
  | cons w ws ih =>
    cases ws with
    | nil => exact .inr ⟨w, List.mem_singleton_self w, by rwa [joinPieces_singleton] at h⟩
    | cons v ws =>
      rw [joinPieces_cons_cons, List.mem_append, List.mem_cons] at h
      obtain h | rfl | h := h
      · exact .inr ⟨w, List.mem_cons_self, h⟩
      · exact .inl rfl
      · exact (ih h).imp_right fun ⟨u, hu, hc⟩ => ⟨u, List.mem_cons_of_mem w hu, hc⟩

/-- Each part is found in the whole. -/
lemma infix_joinPieces {sep : Char} {w : List Char} {ws : List (List Char)} (h : w ∈ ws) :
    w <:+: joinPieces sep ws := by
  induction ws with
  | nil => cases h
  | cons v ws ih =>
    cases ws with
    | nil =>
      obtain rfl := List.mem_singleton.mp h
      simp
    | cons u ws =>
      rw [joinPieces_cons_cons]
      obtain rfl | hmem := List.mem_cons.mp h
      · exact (List.prefix_append _ _).isInfix
      · exact List.infix_append_of_infix_right (List.infix_cons (ih hmem))

/-- Parts without blanks at their ends are such a text when they are joined by something that is no
blank. -/
lemma noBlankEnds_joinPieces {sep : Char} (hsep : isBlank sep = false) {ws : List (List Char)}
    (h : ∀ w ∈ ws, NoBlankEnds w) : NoBlankEnds (joinPieces sep ws) := by
  induction ws with
  | nil => exact ⟨by simp [joinPieces], by simp [joinPieces]⟩
  | cons w ws ih =>
    have hw := h w List.mem_cons_self
    cases ws with
    | nil => simpa using hw
    | cons v ws =>
      have hrest := ih fun u hu => h u (List.mem_cons_of_mem w hu)
      rw [joinPieces_cons_cons]
      constructor
      · intro c hc
        cases w with
        | nil =>
          rw [List.nil_append, List.head?_cons, Option.mem_some] at hc
          exact hc ▸ hsep
        | cons d w => exact hw.head c (by simpa using hc)
      · intro c hc
        rw [List.getLast?_append_of_ne_nil _ (List.cons_ne_nil _ _), List.getLast?_cons] at hc
        cases hlast : (joinPieces sep (v :: ws)).getLast? with
        | none =>
          rw [hlast] at hc
          exact Option.mem_some.mp hc ▸ hsep
        | some d =>
          rw [hlast] at hc
          exact hrest.last c (Option.mem_some.mp hc ▸ hlast)

/-- So are parts that are not empty, whatever they are joined by. -/
lemma noBlankEnds_joinPieces_of_ne_nil {sep : Char} {ws : List (List Char)} (hne : ws ≠ [])
    (h : ∀ w ∈ ws, w ≠ [] ∧ NoBlankEnds w) :
    joinPieces sep ws ≠ [] ∧ NoBlankEnds (joinPieces sep ws) := by
  induction ws with
  | nil => exact absurd rfl hne
  | cons w ws ih =>
    obtain ⟨hw, hends⟩ := h w List.mem_cons_self
    cases ws with
    | nil => simpa using ⟨hw, hends⟩
    | cons v ws =>
      obtain ⟨hrest, hrestEnds⟩ :=
        ih (List.cons_ne_nil v ws) fun u hu => h u (List.mem_cons_of_mem w hu)
      rw [joinPieces_cons_cons]
      refine ⟨by simp, fun c hc => ?_, fun c hc => ?_⟩
      · rw [List.head?_append_of_ne_nil _ hw] at hc
        exact hends.head c hc
      · rw [List.getLast?_append_of_ne_nil _ (List.cons_ne_nil _ _),
          List.getLast?_cons_of_ne_nil hrest] at hc
        exact hrestEnds.last c hc

end SqlAdvice.Text

namespace SqlAdvice.Sql

open SqlAdvice.Text

/-- The reported form of a name has no blanks at its ends. -/
lemma noBlankEnds_undecorate (cs : List Char) : NoBlankEnds (undecorate cs) := by
  refine noBlankEnds_joinPieces (by decide) fun w hw => ?_
  obtain ⟨v, -, rfl⟩ := List.mem_map.mp hw
  exact noBlankEnds_trim v

end SqlAdvice.Sql
