import SqlAdvice.Draw.Source
import SqlAdvice.Proofs.Features
import SqlAdvice.Proofs.Stages
import SqlAdvice.Proofs.WholeWords
import Mathlib.Data.List.Forall2

/-!
# The texts without features

Features can be read off every text but one kind: a text whose first word is `INSERT` with a dotted
capital `İ` for its first letter (`OpensDottedInsert`).

The kind of a statement is told by its first word alone (`statementKind_eq_error_iff`).  Read
without regard to case the word is one of four keywords or none, and where it is one, its upper-case
form is that keyword too unless the dotted capital occurs in it.  Only `INSERT` has an `I`, and only
at its front, so there is one such word up to how the other letters are written
(`forall₂_dottedInsert_iff`).

The main statement (`extract_fails_iff_opensDottedInsert`) says which texts have no features, what
an analysis of such a text reports, and that the features of all other texts keep the rules of their
record.
-/

namespace SqlAdvice.Sql

open SqlAdvice.Text

/-! ## The spellings of a letter -/

/-- The characters outside ASCII that fold to an ASCII letter. -/
def foldedLetters : List Char :=
  ['İ', 'ı', 'ſ', '\u212A']

/-- The characters that stand for a capital letter when case is ignored. -/
def spellings (u : Char) : List Char :=
  [u, u.toLower] ++ foldedLetters.filter (foldCase · == u)

/-- Whatever reads as a capital letter is one of its spellings. -/
lemma mem_spellings {c : Char} (h : (foldCase c).isUpper = true) : c ∈ spellings (foldCase c) := by
  by_cases hc : c ∈ foldedLetters
  · exact List.mem_append_right _ (List.mem_filter.mpr ⟨hc, beq_self_eq_true _⟩)
  · have hfold : foldCase c = c.toUpper := by
      simp only [foldedLetters, List.mem_cons, List.not_mem_nil, or_false, not_or] at hc
      simp [foldCase, hc]
    have hcode : c.toNat ∈ List.range' 65 26 ++ List.range' 97 26 := by
      have halpha := isAlpha_iff.mp (isAlpha_of_toUpper (hfold ▸ h))
      simp only [List.mem_append, List.mem_range'_1]
      omega
    have hcodes : ∀ n ∈ List.range' 65 26 ++ List.range' 97 26,
        Char.ofNat n ∈ spellings (foldCase (Char.ofNat n)) := by decide +kernel
    have hmem := hcodes _ hcode
    rwa [Char.ofNat_toNat] at hmem

/-! ## The kind is told by the first word -/

/-- The first word of a text, behind the blanks at its front. -/
def firstWord (cs : List Char) : List Char :=
  (skipBlanks cs).takeWhile isWord

/-- A keyword opens a statement when the first word is the keyword, case aside. -/
lemma wordPhrase?_skipBlanks_isSome {k : Keyword} {cs : List Char} :
    (wordPhrase? [k] none (skipBlanks cs)).isSome = true ↔
      (firstWord cs).map foldCase = k.letters := by
  rw [wordPhrase?_singleton_isSome, firstWord]
  exact and_iff_right rfl

lemma take_skipBlanks {k : Keyword} {cs : List Char}
    (h : (firstWord cs).map foldCase = k.letters) :
    (skipBlanks cs).take k.letters.length = firstWord cs := by
  have hlength : (firstWord cs).length = k.letters.length := by rw [← h, List.length_map]
  have hprefix : firstWord cs <+: skipBlanks cs := List.takeWhile_prefix _
  rw [← hlength]
  exact (List.prefix_iff_eq_take.mp hprefix).symm

/-- The upper-case form of a word is how it reads, case aside, but for the dotted capital. -/
lemma map_upperLetter_eq_iff {w : List Char} :
    w.map upperLetter = w.map foldCase ↔ 'İ' ∉ w := by
  rw [List.map_inj_left]
  constructor
  · intro h hmem
    exact absurd (h _ hmem) (by decide)
  · intro h c hc
    have hne : c ≠ 'İ' := fun heq => h (heq ▸ hc)
    simp [upperLetter, hne]

/-- A statement has no kind when its first word reads as a keyword and has the dotted capital. -/
lemma statementKind_eq_error_iff {cs word : List Char} :
    statementKind cs = .error word ↔
      word = (firstWord cs).map upperLetter ∧ 'İ' ∈ firstWord cs ∧
        ∃ k ∈ leadingKeywords, (firstWord cs).map foldCase = k.1.letters := by
  rw [statementKind]
  cases hfind : leadingKeywords.find? fun k =>
      (wordPhrase? [k.1] none (skipBlanks cs)).isSome with
  | none =>
    rw [List.find?_eq_none] at hfind
    refine iff_of_false (by simp) ?_
    rintro ⟨-, -, k, hk, hletters⟩
    exact hfind k hk (wordPhrase?_skipBlanks_isSome.mpr hletters)
  | some p =>
    obtain ⟨k, kind⟩ := p
    have hk : (k, kind) ∈ leadingKeywords := List.mem_of_find?_eq_some hfind
    have hletters : (firstWord cs).map foldCase = k.letters :=
      wordPhrase?_skipBlanks_isSome.mp (List.find?_some hfind :)
    have hkeyword : (firstWord cs).map upperLetter = k.letters ↔ 'İ' ∉ firstWord cs := by
      rw [← hletters, map_upperLetter_eq_iff]
    simp only [take_skipBlanks hletters]
    by_cases hdot : 'İ' ∈ firstWord cs
    · rw [if_neg (by simp [hkeyword, hdot])]
      constructor
      · intro hword
        exact ⟨(Except.error.inj hword).symm, hdot, _, hk, hletters⟩
      · rintro ⟨rfl, -⟩
        rfl
    · rw [if_pos (beq_iff_eq.mpr (hkeyword.mpr hdot))]
      simp [hdot]

/-! ## The one word that is no kind -/

/-- The characters that spell `INSERT` with a dotted capital in front, place by place. -/
def dottedInsert : List (List Char) :=
  [['İ'], ['N', 'n'], ['S', 's', 'ſ'], ['E', 'e'], ['R', 'r'], ['T', 't']]

/-- The text begins, behind blanks, with `INSERT` spelled with a dotted capital, and the word ends
there. -/
def OpensDottedInsert (cs : List Char) : Prop :=
  ∃ word rest, skipBlanks cs = word ++ rest ∧ List.Forall₂ (· ∈ ·) word dottedInsert ∧
    ∀ c ∈ rest.head?, isWord c = false

/-- A word that reads as some capital letters is spelled with their spellings. -/
lemma forall₂_spellings {us w : List Char} (h : w.map foldCase = us)
    (hupper : ∀ u ∈ us, u.isUpper = true) : List.Forall₂ (· ∈ ·) w (us.map spellings) := by
  subst h
  rw [List.map_map, List.forall₂_map_right_iff, List.forall₂_same]
  exact fun c hc => mem_spellings (hupper _ (List.mem_map_of_mem hc))

/-- Whatever every spelling of a place goes to, the place goes to. -/
lemma map_of_forall₂ {g : Char → Char} {us w : List Char} {css : List (List Char)}
    (hw : List.Forall₂ (· ∈ ·) w css)
    (hcss : List.Forall₂ (fun cs u => cs.all (g · == u) = true) css us) : w.map g = us := by
  induction hw generalizing us with
  | nil =>
    cases hcss
    rfl
  | cons hc _ ih =>
    cases hcss with
    | cons hu hrest => rw [List.map_cons, eq_of_beq (List.all_eq_true.mp hu _ hc), ih hrest]

lemma map_foldCase_dottedInsert {w : List Char} (h : List.Forall₂ (· ∈ ·) w dottedInsert) :
    w.map foldCase = Keyword.INSERT.letters := by
  refine map_of_forall₂ h ?_
  simp only [dottedInsert, Keyword.letters, List.forall₂_cons, List.forall₂_nil_left_iff, and_true]
  decide

/-- The dotted capital is its own upper-case form. -/
lemma map_upperLetter_dottedInsert {w : List Char} (h : List.Forall₂ (· ∈ ·) w dottedInsert) :
    w.map upperLetter = ['İ', 'N', 'S', 'E', 'R', 'T'] := by
  refine map_of_forall₂ h ?_
  simp only [dottedInsert, List.forall₂_cons, List.forall₂_nil_left_iff, and_true]
  decide

/-- Among the words that read as a keyword in front of a statement, the ones with the dotted capital
are the spellings of `INSERT` that begin with it. -/
lemma forall₂_dottedInsert_iff {w : List Char} :
    List.Forall₂ (· ∈ ·) w dottedInsert ↔
      'İ' ∈ w ∧ ∃ k ∈ leadingKeywords, w.map foldCase = k.1.letters := by
  constructor
  · intro h
    refine ⟨?_, (.INSERT, .insert), by decide, map_foldCase_dottedInsert h⟩
    cases h with
    | cons hc _ => exact List.mem_cons.mpr (.inl (List.mem_singleton.mp hc).symm)
  · rintro ⟨hdot, k, hk, hletters⟩
    have hinsert : k.1 = .INSERT := by
      have hI : 'I' ∈ k.1.letters := by
        rw [← hletters]
        exact List.mem_map_of_mem (f := foldCase) hdot
      have hall : ∀ k ∈ leadingKeywords, 'I' ∈ k.1.letters → k.1 = .INSERT := by decide
      exact hall k hk hI
    rw [hinsert] at hletters
    have hspelled : List.Forall₂ (· ∈ ·) w (spellings 'I' :: dottedInsert.tail) :=
      forall₂_spellings hletters fun _ => isUpper_of_mem_letters
    obtain ⟨c, w, -, hrest, rfl⟩ := List.forall₂_cons_right_iff.mp hspelled
    -- no other letter of the word is an `I`, so the dotted capital is the first one
    have hnot : 'İ' ∉ w := fun hmem => by
      have hI := List.mem_map_of_mem (f := foldCase) hmem
      rw [(List.cons.inj hletters).2] at hI
      exact absurd hI (by decide)
    have hc : 'İ' = c := (List.mem_cons.mp hdot).resolve_right hnot
    exact .cons (List.mem_singleton.mpr hc.symm) hrest

lemma opensDottedInsert_iff {cs : List Char} :
    OpensDottedInsert cs ↔ List.Forall₂ (· ∈ ·) (firstWord cs) dottedInsert := by
  constructor
  · rintro ⟨word, rest, heq, hword, hrest⟩
    have hall : ∀ c ∈ word, isWord c = true := fun c hc => by
      refine isWord_of_foldCase (isUpper_of_mem_letters (k := .INSERT) ?_)
      rw [← map_foldCase_dottedInsert hword]
      exact List.mem_map_of_mem hc
    rwa [firstWord, heq, takeWhile_append_of_head hall hrest]
  · intro h
    refine ⟨_, (skipBlanks cs).dropWhile isWord, List.takeWhile_append_dropWhile.symm, h, ?_⟩
    intro c hc
    have hnot := List.head?_dropWhile_not isWord (skipBlanks cs)
    rw [hc] at hnot
    exact hnot

/-- Such a text is the only one without a kind. -/
lemma statementKind_eq_error_iff_opensDottedInsert {cs word : List Char} :
    statementKind cs = .error word ↔
      word = ['İ', 'N', 'S', 'E', 'R', 'T'] ∧ OpensDottedInsert cs := by
  rw [statementKind_eq_error_iff, ← forall₂_dottedInsert_iff, opensDottedInsert_iff]
  exact and_congr_left fun h => by rw [map_upperLetter_dottedInsert h]

/-! ## Texts with and without features -/

/-- The record of a text keeps its rules: tables are named once, and sort columns come with an
`ORDER BY` text. -/
lemma keeps_rules_of_checked {f : Features} (h : f.checked = .ok f) :
    f.tables.Nodup ∧ (f.orderBy = none → f.sortColumns = []) := by
  unfold Features.checked at h
  split_ifs at h with htables hcolumns
  constructor
  · exact length_eraseDups_eq_iff.mp (by simpa using htables)
  · intro hnone
    simpa [hnone] using hcolumns

lemma extract_eq_error_iff {sql : String} {fault : ExtractionFault} :
    extract sql = .error fault ↔
      fault = .unknownKind "İNSERT" ∧ OpensDottedInsert sql.toList := by
  rw [extract_eq]
  cases hkind : statementKind sql.toList with
  | error word =>
    obtain ⟨rfl, hopens⟩ := statementKind_eq_error_iff_opensDottedInsert.mp hkind
    simp only [Except.error.injEq, hopens, and_true]
    exact eq_comm
  | ok kind =>
    refine iff_of_false (by simp) ?_
    rintro ⟨-, hopens⟩
    have herror := statementKind_eq_error_iff_opensDottedInsert.mpr ⟨rfl, hopens⟩
    rw [hkind] at herror
    simp at herror

lemma checked_of_extract {sql : String} {f : Features} (h : extract sql = .ok f) :
    f.checked = .ok f := by
  rw [eq_read_of_extract h]
  exact checked_read _ _

/-- A text that opens with a word is not blank. -/
lemma queryText_of_opensDottedInsert {sql : String} (h : OpensDottedInsert sql.toList) :
    queryText (.text sql) = .ok sql := by
  have hblank : isBlankString sql = false := by
    refine Bool.eq_false_iff.mpr fun hall => ?_
    obtain ⟨word, rest, heq, hword, -⟩ := h
    have hskip : skipBlanks sql.toList = [] :=
      List.dropWhile_eq_nil_iff.mpr (List.all_eq_true.mp hall)
    obtain ⟨rfl, -⟩ := List.append_eq_nil_iff.mp (heq.symm.trans hskip)
    cases hword
  rw [queryText, hblank]
  rfl

/-- What a caller is told about such a text. -/
lemma report_unknownKind_dottedInsert :
    (AnalysisFault.extraction (.unknownKind "İNSERT")).problem.report = [
      ("error_type", .text "InternalExtractionError"),
      ("message",
        .text "Clause extraction failed: ValueError: 'İNSERT' is not a valid QueryType"),
      ("stage", .text "extract"),
      ("original_error_type", .text "ValueError"),
      ("original_error_message", .text "'İNSERT' is not a valid QueryType")] := by
  have htext : unknownKindMessage "İNSERT" = "'İNSERT' is not a valid QueryType" := by
    decide +kernel
  simp [AnalysisFault.problem, AnalysisFault.ofExtraction, Problem.report, Problem.kindName,
    Problem.message, Problem.details, Problem.stageDetails, Problem.optionalText, Cause.described,
    Cause.kind, Cause.text, htext]

/-- **Extraction fails on one kind of text only.**  The features of a text cannot be read exactly
when it opens with `INSERT` spelled with a dotted capital.  Every analysis of such a text, against
any registry that is accepted, draws nothing and fails in the extraction, and its report carries the
cause.  All other texts have features, and these keep the rules of their record. -/
theorem extract_fails_iff_opensDottedInsert (sql : String) :
    ((∃ fault, extract sql = .error fault) ↔ OpensDottedInsert sql.toList) ∧
      (OpensDottedInsert sql.toList →
        ∀ {σ : Type} (z : Analyzer σ) (registry : Value) (r : Registry) (s : σ),
          Registry.ofValue registry = .ok r →
          ∃ fault, z.outcome (.text sql) registry s = (.error fault, s) ∧
            fault.problem.report = [
              ("error_type", .text "InternalExtractionError"),
              ("message",
                .text "Clause extraction failed: ValueError: 'İNSERT' is not a valid QueryType"),
              ("stage", .text "extract"),
              ("original_error_type", .text "ValueError"),
              ("original_error_message", .text "'İNSERT' is not a valid QueryType")]) ∧
      (¬ OpensDottedInsert sql.toList →
        ∃ f, extract sql = .ok f ∧ f.checked = .ok f ∧ f.tables.Nodup ∧
          (f.orderBy = none → f.sortColumns = [])) := by
  refine ⟨?_, fun hopens σ z registry r s hregistry => ?_, fun hopens => ?_⟩
  · constructor
    · rintro ⟨fault, hfault⟩
      exact (extract_eq_error_iff.mp hfault).2
    · exact fun hopens => ⟨_, extract_eq_error_iff.mpr ⟨rfl, hopens⟩⟩
  · refine ⟨_, ?_, report_unknownKind_dottedInsert⟩
    have hread : readStatement (.text sql) = .error (.extraction (.unknownKind "İNSERT")) := by
      rw [readStatement_of_queryText (queryText_of_opensDottedInsert hopens),
        extract_eq_error_iff.mpr ⟨rfl, hopens⟩]
      rfl
    rw [Analyzer.outcome_of_accepted hregistry, hread]
  · cases hextract : extract sql with
    | error fault => exact absurd (extract_eq_error_iff.mp hextract).2 hopens
    | ok f =>
      have hchecked := checked_of_extract hextract
      exact ⟨f, rfl, hchecked, keeps_rules_of_checked hchecked⟩

/-- The long `s` and small letters spell the word too, and a parenthesis ends it.  One more letter
makes it a word that is no keyword. -/
theorem extract_fails_iff_opensDottedInsert_long_s :
    let sql := "\n İnſeRt(1)"
    let registry : Value := .stream [.tuple [.text "Orders", .text "INDEX ON Orders(ID)"]]
    let z : Analyzer (List Int) := { source := Script.source }
    OpensDottedInsert sql.toList ∧ (∃ fault, extract sql = .error fault) ∧
      (∃ fault, z.outcome (.text sql) registry [1, 2] = (.error fault, [1, 2]) ∧
        fault.problem.report = [
          ("error_type", .text "InternalExtractionError"),
          ("message",
            .text "Clause extraction failed: ValueError: 'İNSERT' is not a valid QueryType"),
          ("stage", .text "extract"),
          ("original_error_type", .text "ValueError"),
          ("original_error_message", .text "'İNSERT' is not a valid QueryType")]) ∧
      ∃ f, extract "İNSERTé" = .ok f ∧ f.checked = .ok f ∧ f.tables.Nodup ∧
        (f.orderBy = none → f.sortColumns = []) := by
  intro sql registry z
  have hopens : OpensDottedInsert sql.toList := by
    refine opensDottedInsert_iff.mpr ?_
    decide +kernel
  have hword : ¬ OpensDottedInsert "İNSERTé".toList := by
    rw [opensDottedInsert_iff]
    decide +kernel
  exact ⟨hopens, (extract_fails_iff_opensDottedInsert sql).1.mpr hopens,
    (extract_fails_iff_opensDottedInsert sql).2.1 hopens z registry
      ⟨[⟨"Orders", "INDEX ON Orders(ID)"⟩]⟩ [1, 2] (by decide +kernel),
    (extract_fails_iff_opensDottedInsert "İNSERTé").2.2 hword⟩

end SqlAdvice.Sql
