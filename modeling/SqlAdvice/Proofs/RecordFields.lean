import SqlAdvice.Record.Reading
import Mathlib.Data.List.Forall2

/-!
# Fields of records

A record is read in parts, which are valid together exactly if they are valid one by one.  A field
is read from the value that its mapping has for it.
-/

namespace SqlAdvice.Record

/-! ## Parts of a record -/

namespace Checked

variable {α β : Type}

lemma map_eq_valid_iff {f : α → β} {c : Checked α} {b : β} :
    (f <$> c) = .valid b ↔ ∃ a, c = .valid a ∧ f a = b := by
  change c.map f = _ ↔ _
  cases c <;> simp [map]

lemma seq_eq_valid_iff {c : Checked (α → β)} {d : Checked α} {b : β} :
    (c <*> d) = .valid b ↔ ∃ f a, c = .valid f ∧ d = .valid a ∧ f a = b := by
  change c.apply d = _ ↔ _
  cases c <;> cases d <;> simp [apply]

lemma andThen_eq_valid_iff {c : Checked α} {f : α → Checked β} {b : β} :
    c.andThen f = .valid b ↔ ∃ a, c = .valid a ∧ f a = .valid b := by
  cases c <;> simp [andThen]

lemma under_eq_valid_iff {step : Step} {c : Checked α} {a : α} :
    c.under step = .valid a ↔ c = .valid a := by
  cases c <;> simp [under]

lemma toExcept_eq_ok_iff {c : Checked α} {a : α} : c.toExcept = .ok a ↔ c = .valid a := by
  cases c <;> simp [toExcept]

end Checked

/-! ## Fields -/

open Checked

variable {α : Type} {pairs : List (Value × Value)} {name : String} {v : Value} {a : α}
  {read : Value → Checked α}

lemma required_of_lookup? (hv : Value.lookup? pairs name = some v) (hread : read v = .valid a) :
    required pairs name read = .valid a := by
  rw [required, hv]
  simp only [hread]
  rfl

lemma withDefault_of_lookup? {default : α} (hv : Value.lookup? pairs name = some v)
    (hread : read v = .valid a) : withDefault pairs name default read = .valid a := by
  rw [withDefault, hv]
  simp only [hread]
  rfl

/-- A field that is not there is as good as one that reads as the default. -/
lemma withDefault_of_getD {default : α} {fallback : Value}
    (hdefault : read fallback = .valid default)
    (hread : read ((Value.lookup? pairs name).getD fallback) = .valid a) :
    withDefault pairs name default read = .valid a := by
  cases hv : Value.lookup? pairs name with
  | none =>
    rw [hv, Option.getD_none, hdefault] at hread
    rw [withDefault, hv, hread]
  | some v =>
    rw [hv, Option.getD_some] at hread
    exact withDefault_of_lookup? hv hread

lemma withDefault_optional {β : Type} {f : β → Value} {g : β → α} {x : Option β}
    (hv : (Value.lookup? pairs name).getD .null = x.elim .null f)
    (hread : ∀ b, read (f b) = .valid (g b)) (hnull : ∀ b, f b ≠ .null) :
    withDefault pairs name none (readOptional read) = .valid (x.map g) := by
  rw [withDefault]
  cases hlookup : Value.lookup? pairs name with
  | none =>
    rw [hlookup] at hv
    cases x with
    | none => rfl
    | some b => exact absurd hv.symm (hnull b)
  | some v =>
    rw [hlookup, Option.getD_some] at hv
    subst hv
    cases x with
    | none => rfl
    | some b =>
      have hsome : readOptional read (f b) = .valid (some (g b)) := by
        rw [readOptional]
        · rw [hread]
          rfl
        · exact hnull b
      simp only [Option.elim, hsome]
      rfl

lemma readNat_int {minimum n : Nat} (h : minimum ≤ n) :
    readNat minimum (.int n) = .valid n := by
  have hbound : (minimum : Int) ≤ n := Int.ofNat_le.mpr h
  rw [readNat, readInteger]
  simp only [Option.all_some, hbound, decide_true, if_true]
  rfl

lemma readItems_of_forall₂ {as : List α} {vs : List Value}
    (h : List.Forall₂ (fun a v => read v = .valid a) as vs) (i : Nat) :
    readItems read i vs = .valid as := by
  induction h generalizing i with
  | nil => rfl
  | cons hread _ ih =>
    rw [readItems, hread, ih]
    rfl

lemma read_of_required {read : Value → Checked α} (h : required pairs name read = .valid a)
    (hv : Value.lookup? pairs name = some v) : read v = .valid a := by
  rw [required, under_eq_valid_iff, hv] at h
  exact h

lemma read_of_withDefault {default : α} {read : Value → Checked α}
    (h : withDefault pairs name default read = .valid a) (hv : Value.lookup? pairs name = some v) :
    read v = .valid a := by
  rw [withDefault, hv] at h
  exact under_eq_valid_iff.mp h

end SqlAdvice.Record
