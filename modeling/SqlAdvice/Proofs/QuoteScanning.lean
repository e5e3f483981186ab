import SqlAdvice.Proofs.LiteralTemplate

/-!
# Flags of texts put together

Whether a character belongs to a literal is told from left to right, and all that the scan takes
along from one character to the next is the quote of the open literal.  So the flags of a text are
settled before what follows it is read, and what follows is flagged as if it stood alone, unless a
literal is still open there (`flags_compositional`).

The open literal is the state of the scan, but it shows in the flags as well: as long as one is
open, a character is flagged that is no quote (`openAfter_eq_none_iff_flags`).  A literal may hold
its own quote if it is doubled, and the other kind of quote in any way.

Put together slot by slot, the flags of a statement with closed literals are those of its template:
they tell its literals from everything else, whatever the literals hold (`flags_fill`).
-/

namespace SqlAdvice.Sql

open Literal

variable {a b x : List Char} {q : Char}

/-! ## An open literal -/

/-- No literal is open at the end of a text exactly if what comes next is not flagged, as long as it
opens none itself. -/
lemma openAfter_eq_none_iff_flags :
    openAfter none a = none ↔
      ∀ c, isQuote c = false → flags none (a ++ [c]) = flags none a ++ [false] := by
  have hlast : ∀ c, flags none (a ++ [c]) = flags none a ++ [covers (openAfter none a) c] :=
    fun c => flags_append none a [c]
  simp only [hlast, List.append_cancel_left_eq, List.cons.injEq, and_true]
  constructor
  · intro h c hc
    rw [h, covers, hc]
    rfl
  · intro h
    have hspace := h ' ' (by decide)
    rw [covers, Bool.or_eq_false_iff, Option.isSome_eq_false_iff, Option.isNone_iff_eq_none] at hspace
    exact hspace.1

/-- An open literal goes on to the end of a text that does not hold its quote. -/
lemma flags_of_not_mem (h : q ∉ b) : flags (some q) b = List.replicate b.length true := by
  induction b with
  | nil => rfl
  | cons c b ih =>
    obtain ⟨hc, hb⟩ := List.ne_and_not_mem_of_not_mem_cons h
    have hnext : next (some q) c = some q := by rw [next, if_neg (by simpa using hc.symm)]
    rw [flags, hnext, ih hb]
    rfl

/-! ## Statements with closed literals -/

lemma flags_of_isCovered {quote : Option Char} (h : IsCovered quote x) :
    flags quote x = List.replicate x.length true :=
  List.eq_replicate_iff.mpr ⟨length_flags quote x, h⟩

lemma Slot.flags_fill (σ : Filling) (s : Slot) :
    flags none (s.fill σ) = List.replicate (s.fill σ).length !s.isPlain := by
  cases s with
  | plain c hc =>
    change [covers none c] = [false]
    rw [covers, hc]
    rfl
  | literal q hq hole => exact flags_of_isCovered (Slot.isCovered_fill rfl)

/-- **Flags of a statement with closed literals.**  Every literal of its template is flagged as a
whole, whatever it has been filled with, and no other character is. -/
theorem flags_fill (σ : Filling) (t : Template) :
    flags none (fill σ t) = t.flatMap fun s => List.replicate (s.fill σ).length !s.isPlain := by
  induction t with
  | nil => rfl
  | cons s t ih =>
    rw [fill_cons, flags_append, Slot.openAfter_fill, ih, Slot.flags_fill, List.flatMap_cons]

/-! ## Any two texts -/

/-- **Scanning in parts.**  The flags of a text are the first flags of every text that begins with
it.  What follows is flagged on its own where no literal is left open, which is to say where the
next character is not flagged unless it is a quote; and it is flagged up to the quote of the literal
where one is left open.  A literal is closed by its quote, and all of it is flagged, if its quote is
only doubled in what it holds. -/
theorem flags_compositional (a b : List Char) :
    (openAfter none a = none ↔
      ∀ c, isQuote c = false → flags none (a ++ [c]) = flags none a ++ [false]) ∧
    (openAfter none a = none → flags none (a ++ b) = flags none a ++ flags none b) ∧
    (∀ q, openAfter none a = some q → q ∉ b →
      flags none (a ++ b) = flags none a ++ List.replicate b.length true) ∧
    flags none a <+: flags none (a ++ b) ∧
    ∀ q, isQuote q = true → ∀ x, OnlyDoubled q x →
      (∀ flag ∈ flags none (q :: (x ++ [q])), flag = true) ∧
        openAfter none (q :: (x ++ [q])) = none := by
  have hparts : flags none (a ++ b) = flags none a ++ flags (openAfter none a) b :=
    flags_append none a b
  refine ⟨openAfter_eq_none_iff_flags, fun hclosed => ?_, fun q hopen hq => ?_, ?_,
    fun q hq x hx => hx.isCovered_literal hq⟩
  · rw [hparts, hclosed]
  · rw [hparts, hopen, flags_of_not_mem hq]
  · rw [hparts]
    exact List.prefix_append _ _

/-- Both kinds of quotes in one literal, and a literal that is open at the end. -/
theorem flags_compositional_doubled :
    openAfter none "'it''s \"' = ".toList = none ∧
    flags none ("'it''s \"' = ".toList ++ "\"''".toList) =
      flags none "'it''s \"' = ".toList ++ flags none "\"''".toList ∧
    isQuote '\'' = true ∧ OnlyDoubled '\'' "it''s \"".toList ∧
    (∀ flag ∈ flags none ('\'' :: ("it''s \"".toList ++ ['\''])), flag = true) ∧
    openAfter none "\"''".toList = some '"' ∧ '"' ∉ "' '".toList ∧
    flags none ("\"''".toList ++ "' '".toList) =
      flags none "\"''".toList ++ List.replicate 3 true := by
  have hclosed : openAfter none "'it''s \"' = ".toList = none := by decide
  have hopen : openAfter none "\"''".toList = some '"' := by decide
  have hrest : '"' ∉ "' '".toList := by decide
  have hdoubled : OnlyDoubled '\'' "it''s \"".toList :=
    .char (by decide) (.char (by decide) (.quote (onlyDoubled_of_notMem (by decide))))
  obtain ⟨-, hbehind, -, -, hliteral⟩ :=
    flags_compositional "'it''s \"' = ".toList "\"''".toList
  obtain ⟨-, -, hgoes, -, -⟩ := flags_compositional "\"''".toList "' '".toList
  exact ⟨hclosed, hbehind hclosed, by decide, hdoubled,
    (hliteral '\'' (by decide) _ hdoubled).1, hopen, hrest, hgoes '"' hopen hrest⟩

end SqlAdvice.Sql
