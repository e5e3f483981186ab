import SqlAdvice.Files.Basic
import SqlAdvice.Proofs.Fallible
import SqlAdvice.Proofs.JsonReading
import SqlAdvice.Proofs.JsonWriting

/-!
# Values in text files

What a file holds is found in steps: its bytes, their text, and the value of the text.  A file that
is written here goes through them without a change.  ASCII characters without carriage returns are
read as they are (`Files.readText_of_ascii`), and a JSON value that is written is read back
(`DocumentFormat.read?_writeAt`), its objects as mappings with the same pairs if their keys are
different (`Value.ofPairs_of_hasDistinctKeys`).
-/

namespace SqlAdvice

open SqlAdvice.Text

/-! ## Files of ASCII characters -/

namespace Text

lemma decodeFrom_of_ascii {cs : List Char} (h : ∀ c ∈ cs, c.toNat < 0x80) (position : Nat) :
    decodeFrom position .start (cs.map fun c => .ofNat c.toNat) = .ok cs := by
  induction cs generalizing position with
  | nil => rfl
  | cons c cs ih =>
    obtain ⟨hc, hcs⟩ := List.forall_mem_cons.mp h
    have hbyte : (UInt8.ofNat c.toNat).toNat = c.toNat :=
      UInt8.toNat_ofNat_of_lt (hc.trans (by decide))
    rw [List.map_cons, decodeFrom, ih hcs, hbyte, if_pos hc, Char.ofNat_toNat]
    rfl

lemma unifyNewlines_of_not_mem {cs : List Char} (h : '\r' ∉ cs) : unifyNewlines cs = cs := by
  induction cs with
  | nil => rfl
  | cons c cs ih =>
    have hc : c ≠ '\r' := fun heq => h (heq ▸ List.mem_cons_self)
    have hcs : '\r' ∉ cs := fun hmem => h (List.mem_cons_of_mem c hmem)
    rw [unifyNewlines, ih hcs, if_neg (by simpa using hc)]
    rintro rest rfl
    exact fun _ => hc rfl

end Text

/-- Bytes of ASCII characters are their text, if no carriage return is among them. -/
lemma decodeText_of_ascii {cs : List Char} (h : ∀ c ∈ cs, c.toNat < 0x80 ∧ c ≠ '\r') :
    decodeText (cs.map fun c => .ofNat c.toNat) = .ok cs := by
  have hreturn : '\r' ∉ cs := fun hmem => (h '\r' hmem).2 rfl
  rw [decodeText, decodeUtf8, decodeFrom_of_ascii fun c hc => (h c hc).1]
  exact congrArg Except.ok (unifyNewlines_of_not_mem hreturn)

/-! ## Texts of files -/

namespace Files

variable {files : Files} {path : Path}

lemma readText_eq_ok_iff {cs : List Char} :
    files.readText path = .ok cs ↔
      ∃ bytes, files path = .file bytes ∧ decodeText bytes = .ok cs := by
  simp only [readText, Except.bind_eq_ok_iff, Except.mapError_eq_ok_iff]
  unfold readBytes
  cases files path <;> simp

/-- A file of ASCII characters without carriage returns is read as they are. -/
lemma readText_of_ascii {cs : List Char}
    (hfile : files path = .file (cs.map fun c => .ofNat c.toNat))
    (h : cs.all (fun c => c.toNat < 0x80 && c != '\r') = true) : files.readText path = .ok cs := by
  have hascii : ∀ c ∈ cs, c.toNat < 0x80 ∧ c ≠ '\r' := by
    simpa only [List.all_eq_true, Bool.and_eq_true, decide_eq_true_eq, bne_iff_ne] using h
  exact readText_eq_ok_iff.mpr ⟨_, hfile, decodeText_of_ascii hascii⟩

end Files

/-! ## Values of texts -/

namespace Value

variable {pairs : List (Value × Value)}

/-- A mapping whose keys are all different. -/
def HasDistinctKeys (pairs : List (Value × Value)) : Prop :=
  (pairs.map Prod.fst).Pairwise fun k k' => k.sameKey k' = false

lemma foldl_insert_of_hasDistinctKeys {added : List (Value × Value)}
    (h : HasDistinctKeys (pairs ++ added)) :
    added.foldl (fun acc p => insert acc p.1 p.2) pairs = pairs ++ added := by
  induction added generalizing pairs with
  | nil => rw [List.foldl_nil, List.append_nil]
  | cons p added ih =>
    have hnew : (pairs.any fun q => q.1.sameKey p.1) = false := by
      rw [HasDistinctKeys, List.map_append, List.pairwise_append] at h
      simp only [List.any_eq_false, Bool.not_eq_true]
      exact fun q hq => h.2.2 q.1 (List.mem_map_of_mem hq) p.1 List.mem_cons_self
    have hkeys : HasDistinctKeys (pairs ++ [p] ++ added) := by rwa [List.append_assoc]
    rw [List.foldl_cons, insert, hnew, if_neg Bool.false_ne_true, ih hkeys, List.append_assoc]
    rfl

/-- Pairs whose keys are all different are a mapping as they stand. -/
lemma ofPairs_of_hasDistinctKeys (h : HasDistinctKeys pairs) : ofPairs pairs = .mapping pairs :=
  congrArg mapping (foldl_insert_of_hasDistinctKeys h)

end Value

/-- A document is found where there is a text that stands for a value. -/
lemma document_eq_ok_iff {ε ε' : Type} {x : Except ε (List Char)} {f : ε → ε'}
    {read? : List Char → Option Value} {fault : ε'} {v : Value} :
    (do
      let text ← x.mapError f
      match read? text with
      | some v => return v
      | none => throw fault : Except ε' Value) = .ok v ↔
      ∃ cs, x = .ok cs ∧ read? cs = some v := by
  rw [Except.bind_eq_ok_iff]
  refine exists_congr fun cs => and_congr Except.mapError_eq_ok_iff ?_
  cases read? cs <;> simp [pure, Except.pure, throw, throwThe, MonadExceptOf.throw]

/-- A value that is written as JSON is read as what it stands for, unless a number in it is too long.
-/
lemma DocumentFormat.read?_writeAt {j : Json} (h : Json.isPortable j = true)
    (hshort : j.isShort = true) : DocumentFormat.json.read? (Json.writeAt 0 j) = some j.toValue := by
  have hread := Json.reader_write Json.read?_followsGrammar h
  rw [Json.write, String.toList_ofList] at hread
  rw [DocumentFormat.read?, hread]
  exact if_pos hshort

end SqlAdvice
