import SqlAdvice.Failure
import SqlAdvice.Proofs.SettingsSources

/-!
# What variables decide

Every variable decides its own setting and nothing else, whatever texts the variables hold.

Nine variables hold integers that have to be large enough and one holds any integer, and they are all
of one kind (`IntegerVariable`): a name, a default, and a least value.  Reading one of them gives the
integer that its text spells, or its default, and a warning where the text is there and spells none
(`Variables.readNumber_eq`).  Everything else follows the reading in its order:

* a cost range is read as a pair of variables (`Variables.readRange_cases`), and is refused when one
  of the two is out of range;
* the cost ranges are read one after another, up to the first that is refused
  (`Variables.readCosts_cases`);
* the settings as a whole are refused when a range is, or when the threshold is
  (`Settings.ofVariables_cases`).

The threshold is read first and checked last, so the variables that are read do not depend on it.
-/

namespace SqlAdvice

open SqlAdvice.Number SqlAdvice.Text

/-! ## Variables that hold integers -/

/-- A variable that holds an integer, with what it stands for where it holds none, and the least
integer that it may hold. -/
structure IntegerVariable where
  name : String
  default : Option Int
  minimum : Option Int

namespace IntegerVariable

/-- The variable of the cost above which a plan is worth a review. -/
def threshold : IntegerVariable :=
  ⟨"HIGH_COST_THRESHOLD", some ({} : Settings).costThreshold, some 0⟩

/-- The variable of the seed. -/
def seed : IntegerVariable :=
  ⟨"RANDOM_SEED", ({} : Settings).seed, none⟩

/-- The variable of the base of a cost range. -/
def base (kind : OperationKind) : IntegerVariable :=
  ⟨kind.name ++ "_COST_BASE", some (({} : Settings).costs.range kind).base, some 0⟩

/-- The variable of the spread of a cost range. -/
def spread (kind : OperationKind) : IntegerVariable :=
  ⟨kind.name ++ "_COST_SPREAD", some (({} : Settings).costs.range kind).spread, some 1⟩

/-- The two variables of a cost range, in the order in which they are read. -/
def ofRange (kind : OperationKind) : List IntegerVariable :=
  [base kind, spread kind]

/-- All variables that hold integers. -/
def all : List IntegerVariable :=
  threshold :: seed :: OperationKind.all.flatMap ofRange

/-- The integer that the text of a variable spells, if it is set and spells one. -/
def spelled? (text : Option String) : Option Int :=
  text.bind fun s => readInteger? s.toList

/-- What a variable stands for when it has a text or none. -/
def meaning (v : IntegerVariable) (text : Option String) : Option Int :=
  (spelled? text).or v.default

/-- Tells whether a variable spells an integer that is too small. -/
def isOutOfRange (v : IntegerVariable) (vars : Variables) : Bool :=
  (spelled? (vars.get? v.name)).any fun i => v.minimum.any fun least => i < least

/-- A text that is not empty and spells no integer. -/
def isUnreadable (s : String) : Bool :=
  !s.isEmpty && (readInteger? s.toList).isNone

/-- The warning for a variable, where its text is unreadable. -/
def warning? (v : IntegerVariable) (vars : Variables) : Option LogLine :=
  ((vars.get? v.name).filter isUnreadable).map fun s =>
    ⟨.warning, Variables.unreadableWarning v.name s (v.default.elim "None" decimal)⟩

/-- Tells whether one of the two variables of a cost range is out of range. -/
def isRangeRefused (vars : Variables) (kind : OperationKind) : Bool :=
  (ofRange kind).any (·.isOutOfRange vars)

/-- The kinds of operation whose cost ranges are read: none in front of them is refused. -/
def kindsRead (vars : Variables) : List OperationKind :=
  OperationKind.all.filter fun kind =>
    OperationKind.all.all fun earlier => kind.rank ≤ earlier.rank || !isRangeRefused vars earlier

/-- The variables that are read, in order. -/
def allRead (vars : Variables) : List IntegerVariable :=
  threshold :: seed :: (kindsRead vars).flatMap ofRange

/-- An integer is out of range when it is the threshold or belongs to a range that is refused. -/
lemma exists_mem_all_iff {vars : Variables} :
    (∃ v ∈ all, v.isOutOfRange vars = true) ↔
      threshold.isOutOfRange vars = true ∨ ∃ kind, isRangeRefused vars kind = true := by
  have hkinds : ∀ kind, kind ∈ OperationKind.all := by
    intro kind
    cases kind <;> decide
  have hseed : seed.isOutOfRange vars = false := by
    rw [isOutOfRange]
    cases spelled? (vars.get? seed.name) <;> rfl
  simp only [all, List.mem_cons, List.mem_flatMap, isRangeRefused, List.any_eq_true]
  constructor
  · rintro ⟨v, rfl | rfl | ⟨kind, -, hv⟩, hout⟩
    · exact .inl hout
    · rw [hseed] at hout
      exact absurd hout Bool.false_ne_true
    · exact .inr ⟨kind, v, hv, hout⟩
  · rintro (hout | ⟨kind, v, hv, hout⟩)
    · exact ⟨threshold, .inl rfl, hout⟩
    · exact ⟨v, .inr (.inr ⟨kind, hkinds kind, hv⟩), hout⟩

end IntegerVariable

open IntegerVariable

/-! ## Reading one variable -/

namespace Variables

variable (vars : Variables)

lemma readInteger?_of_isEmpty {s : String} (h : s.isEmpty = true) :
    readInteger? s.toList = none := by
  rw [String.isEmpty_iff.mp h]
  rfl

/-- An integer is read as it is spelled, and a text that spells none is worth a warning. -/
lemma readInteger_eq {α : Type} (v : IntegerVariable) (default : α) (ofInteger : Int → α) :
    vars.readInteger v.name default (v.default.elim "None" decimal) ofInteger =
      ⟨.ok (((spelled? (vars.get? v.name)).map ofInteger).getD default),
        (v.warning? vars).toList⟩ := by
  rw [readInteger, nonEmpty?, warning?]
  cases vars.get? v.name with
  | none => rfl
  | some s =>
    cases hempty : s.isEmpty with
    | true =>
      simp only [spelled?, isUnreadable, Option.filter_some, Option.bind_some, hempty,
        readInteger?_of_isEmpty hempty]
      rfl
    | false =>
      simp only [spelled?, isUnreadable, Option.filter_some, Option.bind_some, hempty]
      cases hread : readInteger? s.toList <;> simp [hread] <;> rfl

/-- The seed is what its variable stands for. -/
lemma readInteger_seed :
    vars.readInteger seed.name ({} : Settings).seed "None" some =
      ⟨.ok (seed.meaning (vars.get? seed.name)), (seed.warning? vars).toList⟩ := by
  have hmeaning : ((spelled? (vars.get? seed.name)).map some).getD none =
      seed.meaning (vars.get? seed.name) := by
    rw [meaning]
    cases spelled? (vars.get? seed.name) <;> rfl
  rw [← hmeaning]
  exact vars.readInteger_eq seed none some

/-- A variable whose default is a number stands for a number. -/
lemma readNumber_eq {v : IntegerVariable} {n : Nat} (hdefault : v.default = some (n : Int)) :
    ∃ i : Int, v.meaning (vars.get? v.name) = some i ∧
      vars.readNumber v.name n = ⟨.ok i, (v.warning? vars).toList⟩ := by
  have hread := vars.readInteger_eq v (n : Int) id
  rw [hdefault, Option.map_id] at hread
  refine ⟨_, ?_, hread⟩
  rw [meaning, hdefault]
  cases spelled? (vars.get? v.name) <;> rfl

/-- A variable whose default is large enough is out of range when what it stands for is. -/
lemma isOutOfRange_eq {v : IntegerVariable} {least d i : Int} (hminimum : v.minimum = some least)
    (hdefault : v.default = some d) (hd : least ≤ d)
    (hi : v.meaning (vars.get? v.name) = some i) : v.isOutOfRange vars = decide (i < least) := by
  rw [isOutOfRange, hminimum]
  rw [meaning, hdefault] at hi
  cases hspelled : spelled? (vars.get? v.name) with
  | some j =>
    rw [hspelled, Option.some_or, Option.some.injEq] at hi
    subst hi
    rfl
  | none =>
    rw [hspelled, Option.none_or, Option.some.injEq] at hi
    have hge : ¬ i < least := by omega
    simp [hge]

end Variables

/-! ## Reading a cost range -/

namespace Record

lemma readNat_of_lt (minimum : Nat) {i : Int} (h : i < minimum) :
    readNat minimum (.int i) = .fail .belowMinimum := by
  have hbound : ¬ (minimum : Int) ≤ i := by omega
  rw [readNat, readInteger]
  simp only [Option.all_some, hbound, decide_false, Bool.false_eq_true, if_false]
  rfl

end Record

/-- The threshold is checked as a number is read, and is kept as it is. -/
lemma Variables.checkedThreshold_cases (i : Int) :
    let checked := checkedOutcome ((Record.readNat 0 (.int i)).under (.field "high_cost_threshold"))
    (¬ i < 0 ∧ ∃ n : Nat, checked = pure n ∧ (n : Int) = i) ∨
      (i < 0 ∧ ∃ issues, checked = ⟨.error (.outOfRange issues), []⟩) := by
  by_cases hi : i < 0
  · refine .inr ⟨hi, [⟨[.field "high_cost_threshold"], .belowMinimum⟩], ?_⟩
    rw [Record.readNat_of_lt 0 hi]
    rfl
  · obtain ⟨n, rfl⟩ := Int.eq_ofNat_of_zero_le (Int.not_lt.mp hi)
    exact .inl ⟨hi, n, by rw [Record.readNat_int (Nat.zero_le n)]; rfl, rfl⟩

lemma CostRange.exists_ofIntegers {b n : Int} (hb : 0 ≤ b) (hn : 1 ≤ n) :
    ∃ r : CostRange, ofIntegers b n = .valid r ∧ (r.base : Int) = b ∧ (r.spread : Int) = n := by
  have hpos : 0 < n.toNat := by omega
  have hbase : ((b.toNat : Nat) : Int) = b := Int.toNat_of_nonneg hb
  have hspread : ((n.toNat : Nat) : Int) = n := Int.toNat_of_nonneg (by omega)
  have hvalid := ofIntegers_eq ⟨b.toNat, n.toNat, hpos⟩
  rw [hbase, hspread] at hvalid
  exact ⟨_, hvalid, hbase, hspread⟩

lemma CostRange.exists_ofIntegers_invalid {b n : Int} (h : b < 0 ∨ n < 1) :
    ∃ issues, ofIntegers b n = .invalid issues := by
  obtain ⟨build, hfields⟩ : ∃ build, ofIntegers b n =
      (Prod.mk <$> (Record.readNat 0 (.int b)).under (.field "base") <*>
        (Record.readNat 1 (.int n)).under (.field "spread")).andThen build := ⟨_, rfl⟩
  by_cases hb : b < 0
  · rw [hfields, Record.readNat_of_lt 0 hb]
    cases Record.readNat 1 (.int n) <;> exact ⟨_, rfl⟩
  · have hn : n < 1 := h.resolve_left hb
    rw [hfields, Record.readNat_of_lt 1 hn]
    cases Record.readNat 0 (.int b) <;> exact ⟨_, rfl⟩

/-- A cost range is what its two variables stand for. -/
structure CostRange.IsMeant (r : CostRange) (vars : Variables) (kind : OperationKind) : Prop where
  base : some (r.base : Int) =
    (IntegerVariable.base kind).meaning (vars.get? (IntegerVariable.base kind).name)
  spread : some (r.spread : Int) =
    (IntegerVariable.spread kind).meaning (vars.get? (IntegerVariable.spread kind).name)

namespace Variables

variable (vars : Variables)

/-- The warnings for some variables, in order. -/
def warnings (vs : List IntegerVariable) : List LogLine :=
  vs.filterMap (·.warning? vars)

/-- **One range**: it is what its variables stand for, or one of them is out of range. -/
lemma readRange_cases (kind : OperationKind) :
    (isRangeRefused vars kind = false ∧
        ∃ r, vars.readRange kind = ⟨.ok r, vars.warnings (ofRange kind)⟩ ∧ r.IsMeant vars kind) ∨
      (isRangeRefused vars kind = true ∧
        ∃ issues, vars.readRange kind =
          ⟨.error (.outOfRange issues), vars.warnings (ofRange kind)⟩) := by
  obtain ⟨b, hb, hreadb⟩ := vars.readNumber_eq (v := base kind) rfl
  obtain ⟨n, hn, hreadn⟩ := vars.readNumber_eq (v := spread kind) rfl
  have hdefault : (1 : Int) ≤ (({} : Settings).costs.range kind).spread := by
    exact_mod_cast (({} : Settings).costs.range kind).spread_pos
  have hrefused : isRangeRefused vars kind = (decide (b < 0) || decide (n < 1)) := by
    rw [isRangeRefused, ofRange, List.any_cons, List.any_cons, List.any_nil, Bool.or_false,
      vars.isOutOfRange_eq rfl rfl (Int.natCast_nonneg _) hb, vars.isOutOfRange_eq rfl rfl hdefault hn]
  have hlines : vars.warnings (ofRange kind) =
      ((base kind).warning? vars).toList ++ ((spread kind).warning? vars).toList := by
    rw [warnings, ofRange, List.filterMap_cons, List.filterMap_cons, List.filterMap_nil]
    cases (base kind).warning? vars <;> cases (spread kind).warning? vars <;> rfl
  have hread : vars.readRange kind =
      ⟨(CostRange.ofIntegers b n).toExcept.mapError .outOfRange, vars.warnings (ofRange kind)⟩ := by
    rw [readRange]
    change (vars.readNumber (base kind).name _ >>= fun b =>
      vars.readNumber (spread kind).name _ >>= fun n => _) = _
    rw [hreadb, Logged.ok_bind, hreadn, Logged.ok_bind, hlines]
    exact congrArg _ (by rw [checkedOutcome, Logged.ofExcept, List.append_nil])
  by_cases hin : b < 0 ∨ n < 1
  · obtain ⟨issues, hinvalid⟩ := CostRange.exists_ofIntegers_invalid hin
    exact .inr ⟨by simpa [hrefused] using hin, issues, by rw [hread, hinvalid]; rfl⟩
  · obtain ⟨hb₀, hn₁⟩ := not_or.mp hin
    obtain ⟨r, hvalid, hbase, hspread⟩ :=
      CostRange.exists_ofIntegers (Int.not_lt.mp hb₀) (Int.not_lt.mp hn₁)
    refine .inl ⟨by simp [hrefused, hb₀, hn₁], r, by rw [hread, hvalid]; rfl, ?_, ?_⟩
    · rw [hbase, hb]
    · rw [hspread, hn]

/-! ## Reading the cost ranges -/

/-- Reads the cost ranges one after another. -/
def readCosts : Logged SettingsFault CostModel := do
  let scan ← vars.readRange .scan
  let join ← vars.readRange .join
  let filter ← vars.readRange .filter
  let sort ← vars.readRange .sort
  return ⟨scan, join, filter, sort⟩

/-- **All ranges**: they are what their variables stand for, or the first that is refused ends the
reading. -/
lemma readCosts_cases :
    ((∀ kind, isRangeRefused vars kind = false) ∧
        ∃ costs, vars.readCosts = ⟨.ok costs, vars.warnings ((kindsRead vars).flatMap ofRange)⟩ ∧
          ∀ kind, (costs.range kind).IsMeant vars kind) ∨
      ((∃ kind, isRangeRefused vars kind = true) ∧
        ∃ issues, vars.readCosts =
          ⟨.error (.outOfRange issues), vars.warnings ((kindsRead vars).flatMap ofRange)⟩) := by
  have hlines : ∀ kinds : List OperationKind, vars.warnings (kinds.flatMap ofRange) =
      kinds.flatMap fun kind => vars.warnings (ofRange kind) := by
    intro kinds
    simp only [warnings, List.filterMap_flatMap]
  rw [readCosts, hlines]
  -- Each range that is refused ends the reading and settles which kinds are read.
  obtain ⟨hscan, scan, hreadScan, scanMeant⟩ | ⟨hscan, issues, hreadScan⟩ :=
    vars.readRange_cases .scan
  case inr =>
    have hkinds : kindsRead vars = [.scan] := by
      simp [kindsRead, OperationKind.all, OperationKind.rank, hscan]
    exact .inr ⟨⟨_, hscan⟩, issues, by simp [hreadScan, hkinds, Logged.error_bind]⟩
  obtain ⟨hjoin, join, hreadJoin, joinMeant⟩ | ⟨hjoin, issues, hreadJoin⟩ :=
    vars.readRange_cases .join
  case inr =>
    have hkinds : kindsRead vars = [.scan, .join] := by
      simp [kindsRead, OperationKind.all, OperationKind.rank, hscan, hjoin]
    exact .inr ⟨⟨_, hjoin⟩, issues, by
      simp [hreadScan, hreadJoin, hkinds, Logged.ok_bind, Logged.error_bind]⟩
  obtain ⟨hfilter, filter, hreadFilter, filterMeant⟩ | ⟨hfilter, issues, hreadFilter⟩ :=
    vars.readRange_cases .filter
  case inr =>
    have hkinds : kindsRead vars = [.scan, .join, .filter] := by
      simp [kindsRead, OperationKind.all, OperationKind.rank, hscan, hjoin, hfilter]
    exact .inr ⟨⟨_, hfilter⟩, issues, by
      simp [hreadScan, hreadJoin, hreadFilter, hkinds, Logged.ok_bind, Logged.error_bind]⟩
  have hkinds : kindsRead vars = [.scan, .join, .filter, .sort] := by
    simp [kindsRead, OperationKind.all, OperationKind.rank, hscan, hjoin, hfilter]
  obtain ⟨hsort, sort, hreadSort, sortMeant⟩ | ⟨hsort, issues, hreadSort⟩ :=
    vars.readRange_cases .sort
  case inr =>
    exact .inr ⟨⟨_, hsort⟩, issues, by
      simp [hreadScan, hreadJoin, hreadFilter, hreadSort, hkinds, Logged.ok_bind,
        Logged.error_bind]⟩
  refine .inl ⟨?_, ⟨scan, join, filter, sort⟩, ?_, ?_⟩
  · intro kind
    cases kind <;> assumption
  · simp [hreadScan, hreadJoin, hreadFilter, hreadSort, hkinds, Logged.ok_bind]
  · intro kind
    cases kind <;> assumption

end Variables

/-! ## Reading the settings -/

/-- The registry file that a text names, unless it is empty. -/
def registryFileOf (text : Option String) : Option Path :=
  (text.filter (!·.isEmpty)).map .ofText

/-- Settings are what variables stand for, each the one that its own variable stands for. -/
structure Settings.AreMeant (s : Settings) (vars : Variables) : Prop where
  profile : ∀ text p, vars.get? "ENVIRONMENT" = some text → lowered text = p.name → s.profile = p
  otherProfile : (∀ text ∈ vars.get? "ENVIRONMENT", ∀ p : Profile, lowered text ≠ p.name) →
    s.profile = .development
  costThreshold : some (s.costThreshold : Int) = threshold.meaning (vars.get? threshold.name)
  seed : s.seed = IntegerVariable.seed.meaning (vars.get? IntegerVariable.seed.name)
  costs : ∀ kind, (s.costs.range kind).IsMeant vars kind
  registryFile : s.registryFile = registryFileOf (vars.get? "REGISTRY_FILE")

lemma Profile.ofName?_name (p : Profile) : Profile.ofName? p.name = some p := by
  cases p <;> rfl

lemma Profile.name_of_ofName? {name : String} {p : Profile} (h : Profile.ofName? name = some p) :
    p.name = name :=
  by simpa [ofName?] using List.find?_some h

namespace Settings

variable (vars : Variables)

/-- The settings are read as the threshold, the seed and the cost ranges; the threshold is checked
last. -/
lemma ofVariables_eq :
    ofVariables vars = (do
      let i ← vars.readNumber threshold.name ({} : Settings).costThreshold
      let s ← vars.readInteger IntegerVariable.seed.name ({} : Settings).seed "None" some
      let costs ← vars.readCosts
      let n ← Variables.checkedOutcome
        ((Record.readNat 0 (.int i)).under (.field "high_cost_threshold"))
      return {
        profile := ((vars.get? "ENVIRONMENT").map Profile.ofText).getD .development
        costThreshold := n
        seed := s
        costs
        registryFile := registryFileOf (vars.get? "REGISTRY_FILE") }) := by
  simp only [ofVariables, Variables.readCosts, Logged.bind_assoc, Logged.pure_bind_eq]
  rfl

lemma profile_of_ofText {text : Option String} :
    (∀ s p, text = some s → lowered s = p.name →
        (text.map Profile.ofText).getD .development = p) ∧
      ((∀ s ∈ text, ∀ p : Profile, lowered s ≠ p.name) →
        (text.map Profile.ofText).getD .development = .development) := by
  constructor
  · rintro s p rfl hs
    rw [Option.map_some, Option.getD_some, Profile.ofText, hs, Profile.ofName?_name,
      Option.getD_some]
  · intro hother
    cases text with
    | none => rfl
    | some s =>
      rw [Option.map_some, Option.getD_some, Profile.ofText]
      cases hname : Profile.ofName? (lowered s) with
      | none => rfl
      | some p => exact absurd (Profile.name_of_ofName? hname).symm (hother s rfl p)

/-- **All variables**: the settings are what the variables stand for, or one of them is out of
range; either way the warnings are those for the variables that were read. -/
lemma ofVariables_cases :
    ((∀ v ∈ all, v.isOutOfRange vars = false) ∧
        ∃ s, ofVariables vars = ⟨.ok s, vars.warnings (allRead vars)⟩ ∧ s.AreMeant vars) ∨
      ((∃ v ∈ all, v.isOutOfRange vars = true) ∧
        ∃ issues, ofVariables vars =
          ⟨.error (.outOfRange issues), vars.warnings (allRead vars)⟩) := by
  obtain ⟨i, hi, hthreshold⟩ := vars.readNumber_eq (v := threshold) rfl
  have hrefused : threshold.isOutOfRange vars = decide (i < 0) :=
    vars.isOutOfRange_eq rfl rfl (Int.natCast_nonneg _) hi
  have hlines : vars.warnings (allRead vars) =
      (threshold.warning? vars).toList ++ ((IntegerVariable.seed.warning? vars).toList ++
        vars.warnings ((kindsRead vars).flatMap ofRange)) := by
    rw [Variables.warnings, allRead, List.filterMap_cons, List.filterMap_cons]
    cases threshold.warning? vars <;> cases IntegerVariable.seed.warning? vars <;> rfl
  rw [ofVariables_eq, hthreshold, Logged.ok_bind, vars.readInteger_seed, Logged.ok_bind,
    hlines]
  obtain ⟨hranges, costs, hcosts, hmeant⟩ | ⟨⟨kind, hkind⟩, issues, hcosts⟩ :=
    vars.readCosts_cases
  case inr =>
    refine .inr ⟨exists_mem_all_iff.mpr (.inr ⟨kind, hkind⟩), issues, ?_⟩
    rw [hcosts, Logged.error_bind]
  rw [hcosts, Logged.ok_bind]
  obtain ⟨hi₀, n, hchecked, hn⟩ | ⟨hi₀, issues, hchecked⟩ := Variables.checkedThreshold_cases i
  case inr =>
    refine .inr ⟨exists_mem_all_iff.mpr (.inl (by rw [hrefused, decide_eq_true hi₀])), issues, ?_⟩
    rw [hchecked, Logged.error_bind, List.append_nil]
  rw [hchecked, Logged.pure_bind_eq, Logged.log_pure, List.append_nil]
  refine .inl ⟨?_, _, rfl, ?_⟩
  · have hnone : ¬ ∃ v ∈ all, v.isOutOfRange vars = true := by
      rw [exists_mem_all_iff, hrefused]
      simp [hi₀, hranges]
    intro v hv
    exact Bool.eq_false_iff.mpr fun hout => hnone ⟨v, hv, hout⟩
  · constructor
    case profile => exact profile_of_ofText.1
    case otherProfile => exact profile_of_ofText.2
    case costThreshold => rw [hn, hi]
    case seed => rfl
    case costs => exact hmeant
    case registryFile => rfl

/-- Variables that are out of range are the only thing that is wrong with variables. -/
lemma exists_outOfRange_of_ofVariables {fault : SettingsFault}
    (h : (ofVariables vars).outcome = .error fault) : ∃ issues, fault = .outOfRange issues := by
  obtain ⟨-, s, hloaded, -⟩ | ⟨-, issues, hloaded⟩ := ofVariables_cases vars
  · rw [hloaded] at h
    exact nomatch h
  · rw [hloaded, Except.error.injEq] at h
    exact ⟨issues, h.symm⟩

/-- **Every variable decides its own setting and nothing else.**  The settings are refused, with a
problem of the settings, exactly when a variable spells an integer that is too small.  Otherwise each
of them is what its own variable stands for.  The variables that hold integers are read in a fixed
order, up to the first cost range that is refused, and there is one warning, in that order, for each
of them that has a text and spells no integer, and nothing else is noted. -/
theorem variables_decide (vars : Variables) :
    let loaded := ofVariables vars
    ((∃ fault, loaded.outcome = .error fault) ↔ ∃ v ∈ all, v.isOutOfRange vars = true) ∧
      (∀ fault, loaded.outcome = .error fault →
        ∃ message, fault.problem? = some (.settings message none)) ∧
      (∀ s, loaded.outcome = .ok s → s.AreMeant vars) ∧
      loaded.log = vars.warnings (allRead vars) := by
  intro loaded
  have hproblem : ∀ fault, loaded.outcome = .error fault →
      ∃ message, fault.problem? = some (.settings message none) := by
    intro fault h
    obtain ⟨issues, rfl⟩ := exists_outOfRange_of_ofVariables vars h
    exact ⟨_, rfl⟩
  obtain ⟨hall, s, hloaded, hmeant⟩ | ⟨hout, issues, hloaded⟩ := ofVariables_cases vars
  · have houtcome : loaded.outcome = .ok s := congrArg Logged.outcome hloaded
    refine ⟨?_, hproblem, ?_, congrArg Logged.log hloaded⟩
    · simp only [houtcome, reduceCtorEq, exists_false, false_iff]
      rintro ⟨v, hv, hout⟩
      rw [hall v hv] at hout
      exact Bool.false_ne_true hout
    · intro s' hs'
      rw [houtcome, Except.ok.injEq] at hs'
      exact hs' ▸ hmeant
  · have houtcome : loaded.outcome = .error (.outOfRange issues) := congrArg Logged.outcome hloaded
    refine ⟨?_, hproblem, ?_, congrArg Logged.log hloaded⟩
    · exact iff_of_true ⟨_, houtcome⟩ hout
    · intro s hs
      rw [houtcome] at hs
      exact nomatch hs

/-- The spread of scans ends the reading, so the text for joins is never looked at. -/
example :
    (ofVariables ⟨[("HIGH_COST_THRESHOLD", "many"), ("SCAN_COST_SPREAD", " 0 "),
      ("JOIN_COST_BASE", "few")]⟩).log =
      [⟨.warning, "Could not parse QUERYADVISOR_HIGH_COST_THRESHOLD=many, using 100"⟩] := by
  decide +kernel

end Settings

end SqlAdvice
