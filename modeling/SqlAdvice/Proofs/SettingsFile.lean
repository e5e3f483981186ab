import SqlAdvice.Failure
import SqlAdvice.Proofs.Fallible
import SqlAdvice.Proofs.SettingsSources

/-!
# Settings from a file of any content

A file that is there is loaded by its content alone, and there are three ways for it to be wrong: it
cannot be read, its text is no document of its format, or the document holds no settings.  A caller
should be told of each of them as a problem of the settings, and is, with two exceptions: bytes that
are no UTF-8 (`IsUndecodable`), and a mapping with a key that is no text (`HasOtherKey`).  These two
failures escape.  There is no third exception (`loadFile_of_isPresent`), and both occur
(`loadFile_escapes`).

Settings that are loaded keep the bounds of their fields, in the strong sense that a field of the
document is taken over as the integer that it reads as, which is in bounds (`Settings.AreBounded`).
-/

namespace SqlAdvice

open SqlAdvice.Text SqlAdvice.Record

/-! ## Integers of a record -/

namespace Record

open Checked

variable {α : Type} {pairs : List (Value × Value)} {name : String} {a : α} {v : Value}

/-- A bound is checked on the integer that is read without it. -/
lemma readInteger_eq (minimum : Option Int) (v : Value) :
    readInteger minimum v = (readInteger none v).andThen fun i =>
      if minimum.all (· ≤ i) then .valid i else .fail .belowMinimum := by
  cases v with
  | text s =>
    simp only [readInteger]
    cases Number.readFieldInteger? s.toList <;> rfl
  | bytes bs =>
    simp only [readInteger]
    cases decodeUtf8 bs with
    | error fault => rfl
    | ok cs =>
      dsimp only
      cases Number.readFieldInteger? cs <;> rfl
  | float x =>
    simp only [readInteger]
    cases Number.Double.floor x with
    | error fault => rfl
    | ok i =>
      dsimp only
      cases Number.Double.isIntegral x <;> rfl
  | _ => rfl

lemma readInteger_of_minimum {least i : Int} (h : readInteger (some least) v = .valid i) :
    readInteger none v = .valid i ∧ least ≤ i := by
  rw [readInteger_eq, andThen_eq_valid_iff] at h
  obtain ⟨j, hread, hbound⟩ := h
  split at hbound
  case isTrue hle =>
    rw [Checked.valid.injEq] at hbound
    exact ⟨hbound ▸ hread, hbound ▸ of_decide_eq_true hle⟩
  case isFalse => exact nomatch hbound

/-- A number is read as the integer that it is, and is large enough. -/
lemma readInteger_of_readNat {least n : Nat} (h : readNat least v = .valid n) :
    readInteger none v = .valid (n : Int) ∧ least ≤ n := by
  obtain ⟨i, hi, rfl⟩ := map_eq_valid_iff.mp h
  obtain ⟨hread, hle⟩ := readInteger_of_minimum hi
  have hnat : (i.toNat : Int) = i := Int.toNat_of_nonneg (by omega)
  exact ⟨by rw [hnat, hread], by omega⟩

end Record

/-! ## Bounds -/

/-- A field of a mapping, where it is there, reads as the integer `n`, which is at least `least`. -/
def HoldsNumber (pairs : List (Value × Value)) (name : String) (least n : Nat) : Prop :=
  ∀ v, Value.lookup? pairs name = some v → readInteger none v = .valid (n : Int) ∧ least ≤ n

/-- A cost range is in bounds, and is what the fields of a mapping hold. -/
structure CostRange.IsBounded (r : CostRange) (pairs : List (Value × Value)) : Prop where
  base : HoldsNumber pairs "base" 0 r.base
  spread : HoldsNumber pairs "spread" 1 r.spread

/-- Settings are in bounds: the threshold and the cost ranges are what the fields of a mapping hold,
where it has them. -/
structure Settings.AreBounded (s : Settings) (pairs : List (Value × Value)) : Prop where
  costThreshold : HoldsNumber pairs "high_cost_threshold" 0 s.costThreshold
  costs : ∀ ranges, Value.lookup? pairs "costs" = some (.mapping ranges) →
    ∀ kind range, Value.lookup? ranges (Choice.rangeKey kind) = some (.mapping range) →
      (s.costs.range kind).IsBounded range
  spread : ∀ kind, 1 ≤ (s.costs.range kind).spread

lemma CostRange.isBounded_of_ofFields {pairs : List (Value × Value)} {r : CostRange}
    (h : ofFields pairs = .valid r) : r.IsBounded pairs := by
  obtain ⟨⟨base, spread⟩, hfields, hpos⟩ := Checked.andThen_eq_valid_iff.mp h
  obtain ⟨_, _, hfirst, hspread, hpair⟩ := Checked.seq_eq_valid_iff.mp hfields
  obtain ⟨_, hbase, rfl⟩ := Checked.map_eq_valid_iff.mp hfirst
  obtain ⟨rfl, rfl⟩ := Prod.mk.inj hpair
  dsimp only at hpos
  split at hpos
  case isTrue =>
    rw [Checked.valid.injEq] at hpos
    subst hpos
    constructor
    · intro v hv
      exact readInteger_of_readNat (read_of_required hbase hv)
    · intro v hv
      exact readInteger_of_readNat (read_of_required hspread hv)
  case isFalse => exact nomatch hpos

lemma CostModel.isBounded_of_ofFields {ranges range : List (Value × Value)} {m : CostModel}
    (h : ofFields ranges = .valid m) (kind : OperationKind)
    (hrange : Value.lookup? ranges (Choice.rangeKey kind) = some (.mapping range)) :
    (m.range kind).IsBounded range := by
  obtain ⟨_, sort, hthree, hsort, rfl⟩ := Checked.seq_eq_valid_iff.mp h
  obtain ⟨_, filter, htwo, hfilter, rfl⟩ := Checked.seq_eq_valid_iff.mp hthree
  obtain ⟨_, join, hone, hjoin, rfl⟩ := Checked.seq_eq_valid_iff.mp htwo
  obtain ⟨scan, hscan, rfl⟩ := Checked.map_eq_valid_iff.mp hone
  apply CostRange.isBounded_of_ofFields
  cases kind with
  | scan => exact read_of_withDefault hscan hrange
  | join => exact read_of_withDefault hjoin hrange
  | filter => exact read_of_withDefault hfilter hrange
  | sort => exact read_of_withDefault hsort hrange

namespace Settings

lemma areBounded_of_ofFields {pairs : List (Value × Value)} {s : Settings}
    (h : ofFields pairs = .valid s) : s.AreBounded pairs := by
  obtain ⟨_, file, hfour, -, rfl⟩ := Checked.seq_eq_valid_iff.mp h
  obtain ⟨_, costs, hthree, hcosts, rfl⟩ := Checked.seq_eq_valid_iff.mp hfour
  obtain ⟨_, seed, htwo, -, rfl⟩ := Checked.seq_eq_valid_iff.mp hthree
  obtain ⟨_, threshold, hone, hthreshold, rfl⟩ := Checked.seq_eq_valid_iff.mp htwo
  obtain ⟨profile, -, rfl⟩ := Checked.map_eq_valid_iff.mp hone
  constructor
  case costThreshold =>
    intro v hv
    exact readInteger_of_readNat (read_of_withDefault hthreshold hv)
  case costs =>
    intro ranges hranges kind range hrange
    exact CostModel.isBounded_of_ofFields (read_of_withDefault hcosts hranges) kind hrange
  case spread =>
    intro kind
    exact (costs.range kind).spread_pos

end Settings

/-! ## Failures -/

/-- A fault that a caller is told about as a problem of the settings. -/
def SettingsFault.IsReported (fault : SettingsFault) : Prop :=
  fault.problem? = some (.settings fault.message none)

instance (fault : SettingsFault) : Decidable fault.IsReported :=
  inferInstanceAs (Decidable (fault.problem? = some (.settings fault.message none)))

namespace Settings

/-- A loading ends with settings, or with a fault that is reported. -/
def EndsWell (outcome : Except SettingsFault Settings) : Prop :=
  (∃ s, outcome = .ok s) ∨ ∃ fault, outcome = .error fault ∧ fault.IsReported

/-- The file that a path leads to is no UTF-8. -/
def IsUndecodable (files : Files) (path : Path) : Prop :=
  ∃ bytes fault, files path = .file bytes ∧ decodeUtf8 bytes = .error fault

/-- A mapping with a key that is no text. -/
def HasOtherKey : Value → Prop
  | .mapping pairs => ∃ p ∈ pairs, ∀ s, p.1 ≠ .text s
  | _ => False

variable {files : Files} {path : Path}

lemma endsWell_ok (s : Settings) : EndsWell (.ok s) :=
  .inl ⟨s, rfl⟩

lemma endsWell_error_iff {fault : SettingsFault} : EndsWell (.error fault) ↔ fault.IsReported := by
  simp [EndsWell]

instance : (outcome : Except SettingsFault Settings) → Decidable (EndsWell outcome)
  | .ok s => isTrue (endsWell_ok s)
  | .error _ => decidable_of_iff _ endsWell_error_iff.symm

lemma hasTextKeys_iff {pairs : List (Value × Value)} :
    hasTextKeys pairs = true ↔ ¬ HasOtherKey (.mapping pairs) := by
  simp only [hasTextKeys, List.all_eq_true, HasOtherKey, not_exists, not_and, not_forall, not_not]
  refine forall₂_congr fun p _ => ?_
  obtain ⟨key, v⟩ := p
  cases key <;> simp

/-- The issues of the fields of a document are reported. -/
lemma endsWell_ofDocumentFields_iff {pairs : List (Value × Value)} :
    EndsWell (ofDocumentFields path pairs) ↔ ¬ HasOtherKey (.mapping pairs) := by
  rw [← hasTextKeys_iff, ofDocumentFields]
  split
  case isTrue hkeys =>
    refine iff_of_true ?_ hkeys
    cases ofFields pairs with
    | valid s => exact endsWell_ok s
    | invalid issues => exact endsWell_error_iff.mpr rfl
  case isFalse hkeys =>
    refine iff_of_false ?_ hkeys
    rw [endsWell_error_iff]
    simp [SettingsFault.IsReported, SettingsFault.problem?]

/-- **A document** of any shape makes settings or is reported, unless it is a mapping with a key that
is no text. -/
lemma endsWell_ofDocument_iff (v : Value) : EndsWell (ofDocument path v) ↔ ¬ HasOtherKey v := by
  cases v with
  | null =>
    rw [ofDocument, endsWell_ofDocumentFields_iff]
    simp [HasOtherKey]
  | mapping pairs => exact endsWell_ofDocumentFields_iff
  | _ => exact iff_of_true (endsWell_error_iff.mpr rfl) not_false

/-- The fields of a document: those of a mapping, and none where it is empty. -/
def fieldsOf : Value → List (Value × Value)
  | .mapping pairs => pairs
  | _ => []

/-- The settings that a document of any shape makes are in bounds. -/
lemma areBounded_of_ofDocument {v : Value} {s : Settings} (h : ofDocument path v = .ok s) :
    s.AreBounded (fieldsOf v) := by
  have hfields : ∀ pairs, ofDocumentFields path pairs = .ok s → s.AreBounded pairs := by
    intro pairs hpairs
    rw [ofDocumentFields] at hpairs
    split at hpairs
    case isTrue =>
      rw [Except.mapError_eq_ok_iff, Checked.toExcept_eq_ok_iff] at hpairs
      exact areBounded_of_ofFields hpairs
    case isFalse => simp at hpairs
  cases v with
  | null => exact hfields [] h
  | mapping pairs => exact hfields pairs h
  | _ => simp [ofDocument] at h

/-- **A file** that is there holds a document or is reported, unless it is no UTF-8. -/
lemma readDocument_cases (files : Files) (path : Path) :
    (IsUndecodable files path ∧ ∃ e, readDocument files path = .error (.encoding e)) ∨
      (¬ IsUndecodable files path ∧ ((∃ v, readDocument files path = .ok v) ∨
        ∃ fault, readDocument files path = .error fault ∧ fault.IsReported)) := by
  have hnoFile : (∀ bytes, files path ≠ .file bytes) → ¬ IsUndecodable files path := by
    rintro hother ⟨bytes, _, hfile, -⟩
    exact hother bytes hfile
  rw [readDocument, Files.readText, Files.readBytes]
  cases hplace : files path with
  | missing => exact .inr ⟨hnoFile (by simp [hplace]), .inr ⟨_, rfl, rfl⟩⟩
  | behindFile => exact .inr ⟨hnoFile (by simp [hplace]), .inr ⟨_, rfl, rfl⟩⟩
  | directory => exact .inr ⟨hnoFile (by simp [hplace]), .inr ⟨_, rfl, rfl⟩⟩
  | file bytes =>
    cases hdecode : decodeUtf8 bytes with
    | error e =>
      refine .inl ⟨⟨bytes, e, hplace, hdecode⟩, e, ?_⟩
      simp [Except.mapError, bind, Except.bind, decodeText, hdecode, Except.map]
    | ok cs =>
      refine .inr ⟨?_, ?_⟩
      · rintro ⟨bytes', e, hfile, he⟩
        rw [hplace, Place.file.injEq] at hfile
        simp [← hfile, hdecode] at he
      · simp only [Except.mapError, bind, Except.bind, decodeText, hdecode, Except.map]
        cases (formatOf path).read? (unifyNewlines cs) with
        | some v => exact .inl ⟨v, rfl⟩
        | none => exact .inr ⟨_, rfl, rfl⟩

/-- **A file of any content makes settings or is reported, with two exceptions.**  A file that is
there is loaded without a warning.  The settings that it makes are in bounds.  The loading ends with
settings or with a problem of the settings, unless the bytes are no UTF-8 or the document is a mapping
with a key that is no text.  The same holds of a document of any shape, wherever it comes from. -/
theorem loadFile_of_isPresent (files : Files) (vars : Variables) (path : Path)
    (hpresent : files.isPresent path = true) :
    let loaded := loadFile files vars path
    loaded.log = [] ∧
      (∀ s, loaded.outcome = .ok s →
        ∃ v, readDocument files path = .ok v ∧ s.AreBounded (fieldsOf v)) ∧
      (EndsWell loaded.outcome ↔
        ¬ IsUndecodable files path ∧ ∀ v, readDocument files path = .ok v → ¬ HasOtherKey v) ∧
      ∀ v, (∀ s, ofDocument path v = .ok s → s.AreBounded (fieldsOf v)) ∧
        (EndsWell (ofDocument path v) ↔ ¬ HasOtherKey v) := by
  intro loaded
  have hloaded : loaded = ⟨readDocument files path >>= ofDocument path, []⟩ := if_pos hpresent
  rw [hloaded]
  refine ⟨rfl, ?_, ?_, fun v => ⟨fun s => areBounded_of_ofDocument, endsWell_ofDocument_iff v⟩⟩
  · intro s hs
    obtain ⟨v, hread, hv⟩ := Except.bind_eq_ok_iff.mp hs
    exact ⟨v, hread, areBounded_of_ofDocument hv⟩
  · obtain ⟨hbytes, e, hread⟩ | ⟨hbytes, ⟨v, hread⟩ | ⟨fault, hread, hreported⟩⟩ :=
      readDocument_cases files path
    · rw [hread]
      exact iff_of_false (endsWell_error_iff.not.mpr nofun) fun h => h.1 hbytes
    · rw [hread]
      change EndsWell (ofDocument path v) ↔ _
      rw [endsWell_ofDocument_iff]
      simp [hbytes]
    · rw [hread]
      exact iff_of_true (endsWell_error_iff.mpr hreported) ⟨hbytes, fun v hv => nomatch hv⟩

/-- One file in a directory that is empty otherwise. -/
def onlyFile (name : String) (bytes : List UInt8) : Files := fun path =>
  if path.text == name then .file bytes else .missing

/-- Settings with a spread of zero, deep in the document. -/
def zeroSpread : Files :=
  onlyFile "s.yaml" ("costs: \x7bsort: \x7bbase: 4, spread: 0\x7d\x7d".toList.map fun c =>
    .ofNat c.toNat)

/-- The spread is reported, and without a warning. -/
theorem loadFile_zeroSpread :
    zeroSpread.isPresent (.ofText "s.yaml") = true ∧
      (loadFile zeroSpread {} (.ofText "s.yaml")).log = [] ∧
      EndsWell (loadFile zeroSpread {} (.ofText "s.yaml")).outcome ∧
      ¬ IsUndecodable zeroSpread (.ofText "s.yaml") ∧
      ∀ v, readDocument zeroSpread (.ofText "s.yaml") = .ok v → ¬ HasOtherKey v := by
  have hpresent : zeroSpread.isPresent (.ofText "s.yaml") = true := by decide
  have hends : EndsWell (loadFile zeroSpread {} (.ofText "s.yaml")).outcome := by decide +kernel
  obtain ⟨hlog, -, hwell, -⟩ := loadFile_of_isPresent zeroSpread {} (.ofText "s.yaml") hpresent
  exact ⟨hpresent, hlog, hends, hwell.mp hends⟩

/-- A file that is a single byte, which is no UTF-8. -/
def loneByte : Files :=
  onlyFile "s.json" [0xff]

/-- A file whose only key is a number. -/
def numberKey : Files :=
  onlyFile "s.yaml" ("1: x".toList.map fun c => .ofNat c.toNat)

/-- **Both exceptions occur.**  The file is there, and its fault is not reported. -/
theorem loadFile_escapes :
    (loneByte.isPresent (.ofText "s.json") = true ∧
        ¬ EndsWell (loadFile loneByte {} (.ofText "s.json")).outcome) ∧
      numberKey.isPresent (.ofText "s.yaml") = true ∧
        ¬ EndsWell (loadFile numberKey {} (.ofText "s.yaml")).outcome := by
  refine ⟨⟨by decide, ?_⟩, by decide, ?_⟩
  · decide +kernel
  · decide +kernel

end Settings

end SqlAdvice
