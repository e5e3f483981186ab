import SqlAdvice.Settings.Load
import SqlAdvice.Proofs.RecordFields
import SqlAdvice.Proofs.TextFiles

/-!
# Settings from variables and from a file

Variables and files describe the same settings.  What is chosen (`Choice`) can be spelled in
variables, with integers in decimal (`Choice.IsSpelled`), and it can be held by the mapping that a
file is decoded to (`Choice.IsHeld`); either way it is loaded without a warning, and as the settings
with exactly these fields (`ofVariables_loadFile`).

* Variables are texts, so this rests on integers being read as they are written
  (`readInteger?_intDigits`), as long as their digits are not too many to be read.
* A file rests on its fields being accepted one by one (`Choice.IsHeld.ofFields`).  There is such a
  file for every choice: one with its document as JSON (`exists_readDocument_of_write`).
-/

namespace SqlAdvice

open SqlAdvice.Number SqlAdvice.Text

/-! ## Integers in decimal -/

namespace Number

open SqlAdvice.Json (isDigit)

variable {cs : List Char}

lemma digit?_of_asciiDigit? {c : Char} {d : Nat} (h : asciiDigit? c = some d) :
    digit? c = some d := by
  rw [digit?, h]

lemma exists_of_isDigit {c : Char} (h : isDigit c = true) : ∃ d, asciiDigit? c = some d :=
  Option.isSome_iff_exists.mp h

/-- Digits without underscores have their values one by one. -/
lemma groupedDigits?_of_isDigit (hne : cs ≠ []) (h : ∀ c ∈ cs, isDigit c = true) :
    groupedDigits? digit? cs = some (cs.filterMap asciiDigit?) := by
  induction cs with
  | nil => exact absurd rfl hne
  | cons c cs ih =>
    obtain ⟨hc, hcs⟩ := List.forall_mem_cons.mp h
    obtain ⟨d, hd⟩ := exists_of_isDigit hc
    rw [List.filterMap_cons_some hd]
    cases cs with
    | nil => rw [groupedDigits?, digit?_of_asciiDigit? hd, List.filterMap_nil, Option.map_some]
    | cons e cs =>
      have he : e ≠ '_' := ne_of_apply (hcs e List.mem_cons_self) (by decide)
      rw [groupedDigits?]
      · rw [digit?_of_asciiDigit? hd, ih (List.cons_ne_nil e cs) hcs]
        rfl
      · exact fun hnil => List.cons_ne_nil e cs hnil
      · rintro rest hrest
        exact he (List.cons.inj hrest).1

lemma length_filterMap_asciiDigit? (h : ∀ c ∈ cs, isDigit c = true) :
    (cs.filterMap asciiDigit?).length = cs.length := by
  induction cs with
  | nil => rfl
  | cons c cs ih =>
    obtain ⟨hc, hcs⟩ := List.forall_mem_cons.mp h
    obtain ⟨d, hd⟩ := exists_of_isDigit hc
    rw [List.filterMap_cons_some hd, List.length_cons, List.length_cons, ih hcs]

lemma isWhiteSpace_of_isDigit {c : Char} (h : isDigit c = true) : isWhiteSpace c = false := by
  have hcode : 0x30 ≤ c.toNat ∧ c.toNat ≤ 0x39 := by
    obtain ⟨d, hd⟩ := exists_of_isDigit h
    rw [asciiDigit?] at hd
    split at hd
    · rename_i hrange
      obtain ⟨hlow, hhigh⟩ : '0' ≤ c ∧ c ≤ '9' := by simpa using hrange
      exact ⟨UInt32.le_iff_toNat_le.mp hlow, UInt32.le_iff_toNat_le.mp hhigh⟩
    · exact nomatch hd
  have hblank : isBlank c = false := by
    simp only [isBlank, Bool.or_eq_false_iff, Bool.and_eq_false_iff, decide_eq_false_iff_not,
      beq_eq_false_iff_ne]
    omega
  rw [isWhiteSpace, hblank, Bool.false_and]

lemma trimSpace_of_none (h : ∀ c ∈ cs, isWhiteSpace c = false) : trimSpace cs = cs := by
  rw [trimSpace, dropWhile_of_head fun c hc => h c (List.mem_of_mem_head? hc),
    dropTailWhile_of_last fun c hc => h c (List.mem_of_getLast? hc)]

lemma takeSign_of_isDigit (h : ∀ c ∈ cs, isDigit c = true) : takeSign cs = (false, cs) := by
  cases cs with
  | nil => rfl
  | cons c cs =>
    have hc := h c List.mem_cons_self
    rw [takeSign]
    · exact fun rest hrest => ne_of_apply hc (by decide) (List.cons.inj hrest).1
    · exact fun rest hrest => ne_of_apply hc (by decide) (List.cons.inj hrest).1

/-- The digits of a number are read as the number, behind its sign. -/
lemma readInteger?_of_takeSign {n : Nat} {negative : Bool} (hn : IsShort n)
    (hspaces : ∀ c ∈ cs, isWhiteSpace c = false) (hsign : takeSign cs = (negative, natDigits n)) :
    readInteger? cs = some (withSign negative n) := by
  have htext := Json.natText_natDigits n
  obtain ⟨d, ds, hcons, -⟩ := htext.exists_head
  have hdigits := groupedDigits?_of_isDigit (by simp [hcons]) htext.isDigit
  have hlength : ((natDigits n).filterMap asciiDigit?).length ≤ digitLimit :=
    (length_filterMap_asciiDigit? htext.isDigit).trans_le hn
  rw [readInteger?, trimSpace_of_none hspaces, hsign]
  simp only [hdigits, Option.bind_eq_bind, Option.bind_some, if_pos hlength, htext.ofDigits]
  rfl

/-- **Integers are read as they are written**, unless they are too long. -/
lemma readInteger?_intDigits {i : Int} (h : IsShort i.natAbs) :
    readInteger? (intDigits i) = some i := by
  have hdigits : ∀ n, ∀ c ∈ natDigits n, isDigit c = true := fun n =>
    (Json.natText_natDigits n).isDigit
  have hspaces : ∀ n, ∀ c ∈ natDigits n, isWhiteSpace c = false := fun n c hc =>
    isWhiteSpace_of_isDigit (hdigits n c hc)
  cases i with
  | ofNat n => exact readInteger?_of_takeSign h (hspaces n) (takeSign_of_isDigit (hdigits n))
  | negSucc n =>
    have hsign : takeSign ('-' :: natDigits (n + 1)) = (true, natDigits (n + 1)) := rfl
    exact readInteger?_of_takeSign h (List.forall_mem_cons.mpr ⟨by decide, hspaces (n + 1)⟩) hsign

end Number

/-! ## Settings as they are chosen -/

/-- What is chosen for the settings, with the registry file as it is spelled. -/
structure Choice where
  profile : Profile
  costThreshold : Nat
  seed : Option Int
  costs : CostModel
  registryFile : Option String
  registryFile_ne : ∀ s ∈ registryFile, s.isEmpty = false

namespace Choice

/-- The settings with exactly these fields. -/
def settings (c : Choice) : Settings where
  profile := c.profile
  costThreshold := c.costThreshold
  seed := c.seed
  costs := c.costs
  registryFile := c.registryFile.map .ofText

/-- No integer is too long to be read. -/
structure HasShortIntegers (c : Choice) : Prop where
  costThreshold : IsShort c.costThreshold
  seed : ∀ i ∈ c.seed, IsShort i.natAbs
  base : ∀ kind, IsShort (c.costs.range kind).base
  spread : ∀ kind, IsShort (c.costs.range kind).spread

/-- Variables that spell what is chosen, and are not set where nothing is. -/
structure IsSpelled (c : Choice) (vars : Variables) : Prop where
  profile : vars.get? "ENVIRONMENT" = some c.profile.name
  costThreshold : vars.get? "HIGH_COST_THRESHOLD" = some (decimal c.costThreshold)
  seed : vars.get? "RANDOM_SEED" = c.seed.map decimal
  base : ∀ kind, vars.get? (kind.name ++ "_COST_BASE") = some (decimal (c.costs.range kind).base)
  spread : ∀ kind,
    vars.get? (kind.name ++ "_COST_SPREAD") = some (decimal (c.costs.range kind).spread)
  registryFile : vars.get? "REGISTRY_FILE" = c.registryFile

/-- The key of a kind of operation in a mapping of cost ranges. -/
def rangeKey : OperationKind → String
  | .scan => "scan"
  | .join => "join"
  | .filter => "filter"
  | .sort => "sort"

/-- A mapping that holds a cost range. -/
structure HoldsRange (pairs : List (Value × Value)) (r : CostRange) : Prop where
  base : Value.lookup? pairs "base" = some (.int r.base)
  spread : Value.lookup? pairs "spread" = some (.int r.spread)

/-- A mapping that holds what is chosen, and null or nothing where nothing is. -/
structure IsHeld (c : Choice) (pairs : List (Value × Value)) : Prop where
  textKeys : Record.hasTextKeys pairs = true
  profile : Value.lookup? pairs "environment" = some (.text c.profile.name)
  costThreshold : Value.lookup? pairs "high_cost_threshold" = some (.int c.costThreshold)
  seed : (Value.lookup? pairs "random_seed").getD .null = c.seed.elim .null .int
  costs : ∃ ranges, Value.lookup? pairs "costs" = some (.mapping ranges) ∧ ∀ kind,
    ∃ range, Value.lookup? ranges (rangeKey kind) = some (.mapping range) ∧
      HoldsRange range (c.costs.range kind)
  registryFile :
    (Value.lookup? pairs "default_registry_file").getD .null = c.registryFile.elim .null .text

end Choice

/-! ## Variables -/

namespace Logged

/-- A value without lines goes on as it is. -/
lemma pure_bind_eq {ε α β : Type} (a : α) (f : α → Logged ε β) : (pure a >>= f) = f a :=
  rfl

end Logged

lemma Profile.ofText_name (p : Profile) : Profile.ofText p.name = p := by
  cases p <;> decide +kernel

namespace Variables

variable {vars : Variables} {name : String}

lemma decimal_isEmpty (i : Int) : (decimal i).isEmpty = false := by
  have hne : intDigits i ≠ [] := by
    have hdigits : ∀ n, natDigits n ≠ [] := fun n => by
      obtain ⟨d, ds, hcons, -⟩ := (Json.natText_natDigits n).exists_head
      simp [hcons]
    cases i with
    | ofNat n => exact hdigits n
    | negSucc n => exact List.cons_ne_nil _ _
  simpa [decimal] using hne

lemma readInteger_of_decimal {α : Type} {default : α} {shown : String} {ofInteger : Int → α}
    {i : Int} (hvar : vars.get? name = some (decimal i)) (hi : IsShort i.natAbs) :
    vars.readInteger name default shown ofInteger = pure (ofInteger i) := by
  have hvalue : vars.nonEmpty? name = some (decimal i) := by
    rw [nonEmpty?, hvar, Option.filter_some, decimal_isEmpty]
    rfl
  rw [readInteger, hvalue]
  simp only [decimal, String.toList_ofList, readInteger?_intDigits hi]

lemma readInteger_of_unset {α : Type} {default : α} {shown : String} {ofInteger : Int → α}
    (hvar : vars.get? name = none) : vars.readInteger name default shown ofInteger = pure default := by
  rw [readInteger, nonEmpty?, hvar, Option.filter_none]

lemma checkedOutcome_valid {α : Type} (a : α) : checkedOutcome (.valid a) = pure a :=
  rfl

end Variables

open Record

/-! ## Ranges of costs -/

lemma CostRange.ofFields_of_holdsRange {pairs : List (Value × Value)} {r : CostRange}
    (h : Choice.HoldsRange pairs r) : CostRange.ofFields pairs = .valid r := by
  rw [CostRange.ofFields, required_of_lookup? h.base (readNat_int (Nat.zero_le _)),
    required_of_lookup? h.spread (readNat_int r.spread_pos)]
  exact dif_pos r.spread_pos

lemma CostRange.ofIntegers_eq (r : CostRange) :
    CostRange.ofIntegers r.base r.spread = .valid r :=
  CostRange.ofFields_of_holdsRange ⟨rfl, rfl⟩

lemma Variables.readRange_of_decimal {vars : Variables} {kind : OperationKind} {r : CostRange}
    (hbase : vars.get? (kind.name ++ "_COST_BASE") = some (decimal r.base))
    (hspread : vars.get? (kind.name ++ "_COST_SPREAD") = some (decimal r.spread))
    (hshort : IsShort r.base ∧ IsShort r.spread) : vars.readRange kind = pure r := by
  rw [readRange, readNumber, readNumber, readInteger_of_decimal hbase hshort.1,
    Logged.pure_bind_eq, readInteger_of_decimal hspread hshort.2, Logged.pure_bind_eq]
  change checkedOutcome (CostRange.ofIntegers r.base r.spread) = _
  rw [CostRange.ofIntegers_eq, checkedOutcome_valid]

/-! ## From variables -/

namespace Choice

variable {c : Choice}

/-- **Variables** that spell what is chosen make the settings. -/
lemma IsSpelled.ofVariables {vars : Variables} (h : c.IsSpelled vars) (hshort : c.HasShortIntegers) :
    Settings.ofVariables vars = pure c.settings := by
  have hthreshold : vars.readNumber "HIGH_COST_THRESHOLD" ({} : Settings).costThreshold =
      pure (c.costThreshold : Int) :=
    Variables.readInteger_of_decimal h.costThreshold hshort.costThreshold
  have hseed : vars.readInteger "RANDOM_SEED" ({} : Settings).seed "None" some = pure c.seed := by
    have hvar := h.seed
    cases hseed : c.seed with
    | none =>
      rw [hseed] at hvar
      exact Variables.readInteger_of_unset hvar
    | some i =>
      rw [hseed] at hvar
      exact Variables.readInteger_of_decimal hvar (hshort.seed i hseed)
  have hrange : ∀ kind, vars.readRange kind = pure (c.costs.range kind) := fun kind =>
    Variables.readRange_of_decimal (h.base kind) (h.spread kind)
      ⟨hshort.base kind, hshort.spread kind⟩
  have hpath : vars.nonEmpty? "REGISTRY_FILE" = c.registryFile := by
    rw [Variables.nonEmpty?, h.registryFile]
    cases hfile : c.registryFile with
    | none => rfl
    | some s => rw [Option.filter_some, c.registryFile_ne s hfile, Bool.not_false, if_pos rfl]
  rw [Settings.ofVariables, hthreshold, Logged.pure_bind_eq, hseed, Logged.pure_bind_eq, hrange,
    Logged.pure_bind_eq, hrange, Logged.pure_bind_eq, hrange, Logged.pure_bind_eq, hrange,
    Logged.pure_bind_eq, readNat_int (Nat.zero_le _), hpath, h.profile]
  simp only [Option.map_some, Option.getD_some, Profile.ofText_name]
  rfl

/-! ## From a mapping -/

lemma readNamed_profile (p : Profile) :
    readNamed Profile.ofName? (.text p.name) = .valid p := by
  cases p <;> rfl

lemma ofFields_costs {ranges : List (Value × Value)} {m : CostModel}
    (h : ∀ kind, ∃ range, Value.lookup? ranges (rangeKey kind) = some (.mapping range) ∧
      HoldsRange range (m.range kind)) : CostModel.ofFields ranges = .valid m := by
  have hrange : ∀ kind fallback, withDefault ranges (rangeKey kind) fallback
      (readRecord CostRange.ofFields) = .valid (m.range kind) := by
    intro kind fallback
    obtain ⟨range, hlookup, hholds⟩ := h kind
    exact withDefault_of_lookup? hlookup (CostRange.ofFields_of_holdsRange hholds)
  rw [CostModel.ofFields]
  change CostModel.mk <$> withDefault ranges (rangeKey .scan) _ _ <*>
    withDefault ranges (rangeKey .join) _ _ <*> withDefault ranges (rangeKey .filter) _ _ <*>
    withDefault ranges (rangeKey .sort) _ _ = _
  rw [hrange, hrange, hrange, hrange]
  rfl

/-- **A mapping** that holds what is chosen makes the settings. -/
lemma IsHeld.ofFields {pairs : List (Value × Value)} (h : c.IsHeld pairs) :
    Settings.ofFields pairs = .valid c.settings := by
  obtain ⟨ranges, hcosts, hranges⟩ := h.costs
  rw [Settings.ofFields]
  dsimp only
  rw [withDefault_of_lookup? h.profile (readNamed_profile c.profile),
    withDefault_of_lookup? h.costThreshold (readNat_int (Nat.zero_le _)),
    withDefault_optional (g := id) h.seed (fun _ => rfl) (by simp),
    withDefault_of_lookup? hcosts (ofFields_costs hranges),
    withDefault_optional (g := .ofText) h.registryFile (fun _ => rfl) (by simp), Option.map_id]
  rfl

end Choice

/-! ## Documents in files -/

namespace Settings

variable {files : Files} {path : Path} {v : Value}

lemma readDocument_eq_ok_iff :
    readDocument files path = .ok v ↔
      ∃ cs, files.readText path = .ok cs ∧ (formatOf path).read? cs = some v :=
  document_eq_ok_iff

/-- A file whose document can be read is there. -/
lemma isPresent_of_readDocument (h : readDocument files path = .ok v) :
    files.isPresent path = true := by
  obtain ⟨cs, hread, -⟩ := readDocument_eq_ok_iff.mp h
  obtain ⟨bytes, hfile, -⟩ := Files.readText_eq_ok_iff.mp hread
  rw [Files.isPresent, hfile]

/-- A file that is there is loaded by its document alone. -/
lemma loadFile_of_readDocument (vars : Variables) (h : readDocument files path = .ok v) :
    loadFile files vars path = .ofExcept (ofDocument path v) := by
  rw [loadFile, if_pos (isPresent_of_readDocument h), h]
  rfl

/-- The document of a JSON file is what was written to it. -/
lemma readDocument_of_written {j : Json} (hformat : formatOf path = .json)
    (hread : files.readText path = .ok (Json.writeAt 0 j)) (hj : Json.isPortable j = true)
    (hshort : j.isShort = true) : readDocument files path = .ok j.toValue := by
  apply readDocument_eq_ok_iff.mpr
  refine ⟨_, hread, ?_⟩
  rw [hformat, DocumentFormat.read?_writeAt hj hshort]

end Settings

/-! ## A document of what is chosen -/

namespace Choice

variable {c : Choice}

/-- A range of costs in a document. -/
def rangeDocument (r : CostRange) : Json :=
  .object [("base", .int r.base), ("spread", .int r.spread)]

/-- A document of what is chosen. -/
def document (c : Choice) : Json :=
  .object [
    ("environment", .text c.profile.name), ("high_cost_threshold", .int c.costThreshold),
    ("random_seed", c.seed.elim .null .int),
    ("costs", .object (OperationKind.all.map fun kind =>
      (rangeKey kind, rangeDocument (c.costs.range kind)))),
    ("default_registry_file", c.registryFile.elim .null .text)]

lemma isPortable_document (c : Choice) : Json.isPortable c.document = true := by
  have hseed : Json.isPortable (c.seed.elim .null .int) = true := by cases c.seed <;> rfl
  have hfile : Json.isPortable (c.registryFile.elim .null .text) = true := by
    cases c.registryFile <;> rfl
  simp [document, rangeDocument, OperationKind.all, rangeKey, Json.isPortable,
    Json.arePortableMembers, hseed, hfile]

/-- No integer of the document is too long where none of the choice is. -/
lemma HasShortIntegers.isShort_document (h : c.HasShortIntegers) : c.document.isShort = true := by
  have hseed : Json.isShort (c.seed.elim .null .int) = true := by
    cases hc : c.seed with
    | none => rfl
    | some i => exact decide_eq_true (h.seed i hc)
  have hfile : Json.isShort (c.registryFile.elim .null .text) = true := by
    cases c.registryFile <;> rfl
  simp [document, rangeDocument, OperationKind.all, rangeKey, Json.isShort, Json.areShortMembers,
    hseed, hfile, h.costThreshold, h.base, h.spread]

lemma exists_toValue_rangeDocument (r : CostRange) :
    ∃ range, (rangeDocument r).toValue = .mapping range ∧ HoldsRange range r := by
  have hkeys : [Value.text "base", .text "spread"].Pairwise (fun k k' => k.sameKey k' = false) := by
    decide +kernel
  exact ⟨_, Value.ofPairs_of_hasDistinctKeys hkeys, rfl, rfl⟩

/-- The document holds what is chosen. -/
lemma exists_toValue_document (c : Choice) :
    ∃ pairs, c.document.toValue = .mapping pairs ∧ c.IsHeld pairs := by
  have hkeys : [Value.text "environment", .text "high_cost_threshold", .text "random_seed",
      .text "costs", .text "default_registry_file"].Pairwise (fun k k' => k.sameKey k' = false) := by
    decide +kernel
  have hkinds : (OperationKind.all.map fun kind => Value.text (rangeKey kind)).Pairwise
      (fun k k' => k.sameKey k' = false) := by
    decide +kernel
  refine ⟨_, Value.ofPairs_of_hasDistinctKeys hkeys, ?_⟩
  constructor
  case textKeys => rfl
  case profile => rfl
  case costThreshold => rfl
  case seed =>
    change (c.seed.elim Json.null .int).toValue = _
    cases c.seed <;> rfl
  case costs =>
    refine ⟨_, congrArg some (Value.ofPairs_of_hasDistinctKeys hkinds), fun kind => ?_⟩
    obtain ⟨range, hvalue, hholds⟩ := exists_toValue_rangeDocument (c.costs.range kind)
    refine ⟨range, ?_, hholds⟩
    cases kind <;> exact congrArg some hvalue
  case registryFile =>
    change (c.registryFile.elim Json.null .text).toValue = _
    cases c.registryFile <;> rfl

end Choice

/-! ## From a file -/

namespace Settings

variable {c : Choice} {files : Files} {path : Path}

/-- A file whose document holds what is chosen makes the settings. -/
lemma loadFile_of_isHeld {pairs : List (Value × Value)} (vars : Variables)
    (hdoc : readDocument files path = .ok (.mapping pairs)) (h : c.IsHeld pairs) :
    loadFile files vars path = ⟨.ok c.settings, []⟩ := by
  rw [loadFile_of_readDocument vars hdoc, ofDocument, ofDocumentFields, if_pos h.textKeys,
    h.ofFields]
  rfl

/-- The document of what is chosen, written to a JSON file, is read as it is. -/
lemma exists_readDocument_of_write (hshort : c.HasShortIntegers) (hformat : formatOf path = .json)
    (hread : files.readText path = .ok (Json.writeAt 0 c.document)) :
    ∃ pairs, readDocument files path = .ok (.mapping pairs) ∧ c.IsHeld pairs := by
  obtain ⟨pairs, hvalue, hheld⟩ := c.exists_toValue_document
  have hdoc := readDocument_of_written hformat hread c.isPortable_document hshort.isShort_document
  exact ⟨pairs, hvalue ▸ hdoc, hheld⟩

end Settings

/-- **Variables and files describe the same settings.**  Whatever is chosen, with integers that can
be read, the variables that spell it and a file whose document holds it are both loaded without a
warning, and the settings are those with exactly these fields.  The variables do not matter to the
file, nor what else its document holds. -/
theorem ofVariables_loadFile (c : Choice) (hshort : c.HasShortIntegers) :
    (∀ vars, c.IsSpelled vars → Settings.ofVariables vars = ⟨.ok c.settings, []⟩) ∧
      ∀ files vars path pairs, Settings.readDocument files path = .ok (.mapping pairs) →
        c.IsHeld pairs → Settings.loadFile files vars path = ⟨.ok c.settings, []⟩ :=
  ⟨fun _ hvars => hvars.ofVariables hshort,
    fun _ vars _ _ hdoc hheld => Settings.loadFile_of_isHeld vars hdoc hheld⟩

/-- What is chosen for a staging system. -/
def stagingChoice : Choice where
  profile := .staging
  costThreshold := 250
  seed := some (-7)
  costs := { scan := ⟨40, 5, by decide⟩, sort := ⟨0, 1, by decide⟩ }
  registryFile := some "data//indexes.yaml"
  registryFile_ne := by decide

/-- The variables of a staging system. -/
def stagingVariables : Variables where
  values := [
    ("ENVIRONMENT", "staging"), ("HIGH_COST_THRESHOLD", "250"), ("RANDOM_SEED", "-7"),
    ("SCAN_COST_BASE", "40"), ("SCAN_COST_SPREAD", "5"), ("JOIN_COST_BASE", "20"),
    ("JOIN_COST_SPREAD", "20"), ("FILTER_COST_BASE", "10"), ("FILTER_COST_SPREAD", "10"),
    ("SORT_COST_BASE", "0"), ("SORT_COST_SPREAD", "1"), ("REGISTRY_FILE", "data//indexes.yaml")]

/-- Nothing but one file, with the document of a staging system in ASCII. -/
def stagingFiles (path : Path) : Place :=
  if path.text == "settings.json" then
    .file ((Json.writeAt 0 stagingChoice.document).map fun c => .ofNat c.toNat)
  else .missing

theorem ofVariables_loadFile_staging :
    Settings.ofVariables stagingVariables = ⟨.ok stagingChoice.settings, []⟩ ∧
      Settings.loadFile stagingFiles {} (.ofText "settings.json") =
        ⟨.ok stagingChoice.settings, []⟩ := by
  have hshort : stagingChoice.HasShortIntegers := by
    refine ⟨by decide +kernel, ?_, ?_, ?_⟩
    · rintro _ ⟨⟩
      decide +kernel
    · rintro ⟨⟩ <;> decide +kernel
    · rintro ⟨⟩ <;> decide +kernel
  have hspelled : stagingChoice.IsSpelled stagingVariables := by
    refine ⟨by decide +kernel, by decide +kernel, by decide +kernel, ?_, ?_, by decide +kernel⟩
    · rintro ⟨⟩ <;> decide +kernel
    · rintro ⟨⟩ <;> decide +kernel
  have hascii : (Json.writeAt 0 stagingChoice.document).all
      (fun c => c.toNat < 0x80 && c != '\r') = true := by
    decide +kernel
  have hjson : Settings.formatOf (.ofText "settings.json") = .json := by decide +kernel
  have hdocument : ∃ pairs, Settings.readDocument stagingFiles (.ofText "settings.json") =
      .ok (.mapping pairs) ∧ stagingChoice.IsHeld pairs :=
    Settings.exists_readDocument_of_write hshort hjson (Files.readText_of_ascii rfl hascii)
  obtain ⟨pairs, hdoc, hheld⟩ := hdocument
  obtain ⟨hvariables, hfile⟩ := ofVariables_loadFile stagingChoice hshort
  exact ⟨hvariables stagingVariables hspelled, hfile stagingFiles {} _ pairs hdoc hheld⟩

end SqlAdvice
