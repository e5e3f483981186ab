import SqlAdvice.Proofs.JsonReading
import SqlAdvice.Proofs.JsonWriting
import SqlAdvice.Report.Json

/-!
# What a JSON report tells

A report holds all of an analysis but the text of the statement.  It is portable: its numbers are
integers, and the names in each of its objects are fixed (`isPortable_analysisJson`).  So every
reader that follows the grammar reads it back as the value it was written from, and the value tells
the features, the plan, the advice and the statistics (`analysisJson_eq_iff`): kinds can be told by
their names, texts and numbers stand as they are, and lists keep their order.  Two analyses with one
report therefore differ in the text of the statement alone (`json_lossless`).
-/

namespace SqlAdvice

/-! ## Names -/

/-- Names that can be read back are different. -/
lemma injective_of_readBack {α : Type} {name : α → String} (ofName? : String → Option α)
    (h : ∀ a, ofName? (name a) = some a) : Function.Injective name := by
  intro a b heq
  rw [← Option.some.injEq, ← h a, heq, h b]

lemma Sql.StatementKind.name_injective : Function.Injective Sql.StatementKind.name :=
  injective_of_readBack Sql.StatementKind.ofName? fun kind => by cases kind <;> rfl

lemma OperationKind.name_injective : Function.Injective OperationKind.name :=
  injective_of_readBack OperationKind.ofName? fun kind => by cases kind <;> rfl

lemma Category.name_injective : Function.Injective Category.name :=
  injective_of_readBack Category.ofName? fun category => by cases category <;> rfl

lemma Severity.name_injective : Function.Injective Severity.name :=
  injective_of_readBack Severity.ofName? fun severity => by cases severity <;> rfl

namespace Report

/-! ## Values -/

lemma texts_injective : Function.Injective Json.texts := by
  intro items items' h
  have htext : Function.Injective Json.text := fun _ _ => Json.text.inj
  exact List.map_injective_iff.mpr htext (Json.list.inj h)

lemma jsonNat_injective : Function.Injective jsonNat :=
  fun _ _ h => Int.ofNat_inj.mp (Json.int.inj h)

lemma optionalText_injective :
    Function.Injective fun s : Option String => s.elim Json.null Json.text := by
  intro s s' h
  cases s <;> cases s' <;> simp_all

lemma featuresJson_injective : Function.Injective featuresJson := by
  intro f g h
  simp only [featuresJson, Json.object.injEq, List.cons.injEq, Prod.mk.injEq, true_and, and_true,
    Json.text.injEq, Json.bool.injEq, texts_injective.eq_iff,
    Sql.StatementKind.name_injective.eq_iff] at h
  obtain ⟨hkind, htables, hjoins, hconditions, horder, hcolumns, hwildcard, hcalls⟩ := h
  cases f
  cases g
  simp only at *
  rw [hkind, htables, hjoins, hconditions, optionalText_injective horder, hcolumns, hwildcard,
    hcalls]

lemma operationJson_injective : Function.Injective operationJson := by
  rintro ⟨id, kind, cost, description⟩ ⟨id', kind', cost', description'⟩ h
  simp only [operationJson, Json.object.injEq, List.cons.injEq, Prod.mk.injEq, true_and, and_true,
    Json.text.injEq, jsonNat_injective.eq_iff, OperationKind.name_injective.eq_iff] at h
  obtain ⟨rfl, rfl, rfl, rfl⟩ := h
  rfl

lemma planJson_injective : Function.Injective planJson := by
  rintro ⟨operations, total, warnings⟩ ⟨operations', total', warnings'⟩ h
  simp only [planJson, Json.object.injEq, List.cons.injEq, Prod.mk.injEq, true_and, and_true,
    Json.list.injEq, jsonNat_injective.eq_iff, texts_injective.eq_iff,
    (List.map_injective_iff.mpr operationJson_injective).eq_iff] at h
  obtain ⟨rfl, rfl, rfl⟩ := h
  rfl

lemma recommendationJson_injective : Function.Injective recommendationJson := by
  rintro ⟨category, severity, description, code⟩ ⟨category', severity', description', code'⟩ h
  simp only [recommendationJson, Json.object.injEq, List.cons.injEq, Prod.mk.injEq, true_and,
    and_true, Json.text.injEq, Category.name_injective.eq_iff, Severity.name_injective.eq_iff] at h
  obtain ⟨rfl, rfl, rfl, rfl⟩ := h
  rfl

lemma statisticsJson_injective : Function.Injective statisticsJson := by
  intro s t h
  simp only [statisticsJson, Json.object.injEq, List.cons.injEq, Prod.mk.injEq, true_and, and_true,
    jsonNat_injective.eq_iff] at h
  cases s
  cases t
  simp_all

/-- The value of a report tells all but the text of the statement. -/
lemma analysisJson_eq_iff (a b : Analysis) :
    analysisJson a = analysisJson b ↔ a.features = b.features ∧ a.plan = b.plan ∧
      a.recommendations = b.recommendations ∧ a.statistics = b.statistics := by
  simp only [analysisJson, Json.object.injEq, List.cons.injEq, Prod.mk.injEq, true_and, and_true,
    Json.list.injEq, featuresJson_injective.eq_iff, planJson_injective.eq_iff,
    (List.map_injective_iff.mpr recommendationJson_injective).eq_iff,
    statisticsJson_injective.eq_iff]

/-! ## Reports -/

lemma isPortable_featuresJson (f : Sql.Features) : (featuresJson f).isPortable = true := by
  have horder : (f.orderBy.elim Json.null Json.text).isPortable = true := by
    cases f.orderBy <;> rfl
  simp [featuresJson, Json.isPortable, Json.arePortableMembers, Json.isPortable_texts, horder]

lemma isPortable_operationJson (op : Operation) : (operationJson op).isPortable = true := rfl

lemma isPortable_planJson (p : Plan) : (planJson p).isPortable = true := by
  simp [planJson, Json.isPortable, Json.arePortableMembers, Json.isPortable_texts,
    Json.arePortable_eq_all, isPortable_operationJson, jsonNat]

lemma isPortable_recommendationJson (r : Recommendation) :
    (recommendationJson r).isPortable = true := rfl

lemma isPortable_statisticsJson (s : Statistics) : (statisticsJson s).isPortable = true := rfl

/-- Whatever the analysis is, its report is portable. -/
lemma isPortable_analysisJson (a : Analysis) : (analysisJson a).isPortable = true := by
  simp [analysisJson, Json.isPortable, Json.arePortableMembers, Json.arePortable_eq_all,
    isPortable_featuresJson, isPortable_planJson, isPortable_recommendationJson,
    isPortable_statisticsJson]

/-- **A report loses nothing.**  Every reader that follows the grammar reads the report on an
analysis as the value that it was made from.  Analyses with the same report have the same features,
the same plan, the same advice and the same statistics. -/
theorem json_lossless (a : Analysis) :
    (∀ reader : String → Option Json, Json.FollowsGrammar reader →
      reader (json a) = some (analysisJson a)) ∧
    ∀ b : Analysis, json b = json a → b.features = a.features ∧ b.plan = a.plan ∧
      b.recommendations = a.recommendations ∧ b.statistics = a.statistics := by
  have hread (c : Analysis) {reader : String → Option Json}
      (hreader : Json.FollowsGrammar reader) : reader (json c) = some (analysisJson c) :=
    Json.reader_write hreader (isPortable_analysisJson c)
  refine ⟨fun _ hreader => hread a hreader, fun b hjson => ?_⟩
  have hvalue := hread b Json.read?_followsGrammar
  rw [hjson, hread a Json.read?_followsGrammar] at hvalue
  exact (analysisJson_eq_iff b a).mp (Option.some.inj hvalue).symm

/-- A report with characters of every kind of escape, and with a number beyond a machine word. -/
theorem json_lossless_escapes :
    let a : Analysis := {
      sql := "SELECT a FROM t"
      features := { kind := .select, tables := ["t\"\\/"], conditions := ["a = 'é\x7f😀'"] }
      plan := { totalCost := 1000000000000000000000000000000, warnings := ["\x08\x0c\n\r\t\x01"] }
      recommendations := [⟨.index, .high, "\u2028", ""⟩]
      statistics := ⟨0, 1, 2, 3, 4, 5, 6⟩ }
    Json.read? (json a).toList = some (analysisJson a) ∧
      ∃ b : Analysis, b.sql ≠ a.sql ∧ json b = json a ∧ b.features = a.features ∧
        b.plan = a.plan ∧ b.recommendations = a.recommendations ∧ b.statistics = a.statistics := by
  intro a
  have hjson : json { a with sql := "" } = json a :=
    congrArg Json.write ((analysisJson_eq_iff _ a).mpr ⟨rfl, rfl, rfl, rfl⟩)
  have hread : Json.read? (json a).toList = some (analysisJson a) :=
    (json_lossless a).1 (fun text => Json.read? text.toList) Json.read?_followsGrammar
  have hsql : ({ a with sql := "" } : Analysis).sql ≠ a.sql := by decide
  exact ⟨hread, { a with sql := "" }, hsql, hjson, (json_lossless a).2 _ hjson⟩

end Report

end SqlAdvice
