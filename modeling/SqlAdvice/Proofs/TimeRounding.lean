import SqlAdvice.Number.Double
import Mathlib

/-!
# Rounding times

A time is a natural number times a factor, multiplied in double precision and rounded to an integer.
Rounding fails on doubles that are not finite, and the product of two doubles may be one, so whether
a time can be rounded at all is a question of size.

The answer needs no more than the exponents.  `ExponentAtMost k` holds of zero and of the positive
finite numbers `m · 2 ^ e` with `e ≤ k`; rounding to 53 bits raises the exponent by as many bits as
it drops, and by at most one more (`exponentAtMost_roundWithAccuracy`).  Packing keeps such a number
as long as `k` is at most 971 (`exponentAtMost_pack`), and so products and sums of moderate doubles
are moderate (`Moderate.mul`, `Moderate.add`), with a bound on how far the exponent has grown.

Every time below `2 ^ 70` can therefore be rounded, with the factors that are drawn
(`roundHalfUp_mul_of_between`) and with the share of the processor (`roundHalfUp_mul_share`).
-/

namespace SqlAdvice.Number.Double

open Float.Model Float.Model.UnpackedFloat

/-- Zero, and the positive finite numbers with an exponent of at most `k`. -/
inductive ExponentAtMost (k : Int) : UnpackedFloat → Prop where
  | zero : ExponentAtMost k (.zero .positive)
  | finite {m : Nat} {e : Int} {hm : 0 < m} (he : e ≤ k) :
    ExponentAtMost k (.finite .positive m e hm)

/-! ## Rounding to 53 bits -/

lemma mantissa_shiftRight (em : ExtendedMantissa) (n : Nat) :
    (em >>> n).mantissa = em.mantissa / 2 ^ n := by
  induction n with
  | zero => exact (Nat.div_one _).symm
  | succ n ih =>
    have hstep : (em >>> (n + 1)).mantissa = (em >>> n).mantissa / 2 := rfl
    rw [hstep, ih, Nat.div_div_eq_div_mul, Nat.pow_succ]

lemma mantissa_ofMantissaAndAccuracy (m : Nat) (a : Accuracy) :
    (ExtendedMantissa.ofMantissaAndAccuracy m a).mantissa = m := by
  rcases a with _ | o
  · rfl
  · cases o <;> rfl

/-- Rounding goes up by one unit at most. -/
lemma roundedMantissa_le (em : ExtendedMantissa) : em.roundedMantissa ≤ em.mantissa + 1 := by
  obtain ⟨m, roundBit, stickyBit⟩ := em
  cases roundBit <;> cases stickyBit <;>
    simp only [ExtendedMantissa.roundedMantissa, ExtendedMantissa.accuracy,
      Accuracy.roundToNearestEven] <;> omega

lemma targetExponent_binary64 (m : Nat) (e : Int) :
    Format.binary64.targetExponent (totalExponent m e) = max (m.log2 + e - 52) (-1074) := by
  have hbits : Format.binary64.mantissaBits = 53 := rfl
  have hmin : Format.binary64.minExponent = -1074 := rfl
  rw [Format.targetExponent, totalExponent, hbits, hmin]
  congr 1
  push_cast
  ring

lemma log2_lt_of_lt {m n : Nat} (hn : 0 < n) (h : m < 2 ^ n) : m.log2 < n := by
  rcases Nat.eq_zero_or_pos m with rfl | hm
  · exact hn
  · exact (Nat.log2_lt hm.ne').mpr h

lemma exponent_shiftToTargetExponent (m : Nat) (e : Int) (a : Accuracy) :
    (shiftToTargetExponent Format.binary64 m e a).2 = max e (max (m.log2 + e - 52) (-1074)) := by
  rw [shiftToTargetExponent, shiftToExponent, targetExponent_binary64]
  dsimp only
  omega

lemma mantissa_shiftToTargetExponent_lt (m : Nat) (e : Int) (a : Accuracy) :
    (shiftToTargetExponent Format.binary64 m e a).1.mantissa < 2 ^ 53 := by
  rw [shiftToTargetExponent, shiftToExponent, targetExponent_binary64]
  dsimp only
  rw [mantissa_shiftRight, mantissa_ofMantissaAndAccuracy,
    Nat.div_lt_iff_lt_mul (by positivity), ← Nat.pow_add]
  calc m < 2 ^ (m.log2 + 1) := Nat.lt_log2_self
    _ ≤ 2 ^ (53 + (max (m.log2 + e - 52) (-1074) - e).toNat) :=
      Nat.pow_le_pow_right (by decide) (by omega)

/-- **Rounding to 53 bits** a number of at most `n` bits.  A mantissa that is rounded up to `2 ^ 53`
is shifted once more, which is where the bound is one above the number of bits that go. -/
lemma exponentAtMost_roundWithAccuracy {m n : Nat} {e k : Int} (hm : m < 2 ^ n) (hn : 53 ≤ n)
    (hk : n + e - 52 ≤ k) (hmin : -1073 ≤ k) (a : Accuracy) :
    ExponentAtMost k (roundWithAccuracy Format.binary64 .positive m e a) := by
  have hlog := log2_lt_of_lt (by omega) hm
  have hfirst := exponent_shiftToTargetExponent m e a
  have hmantissa := mantissa_shiftToTargetExponent_lt m e a
  rw [roundWithAccuracy]
  generalize shiftToTargetExponent Format.binary64 m e a = first at *
  have hrounded := roundedMantissa_le first.1
  have hlog' : first.1.roundedMantissa.log2 < 54 := log2_lt_of_lt (by decide) (by omega)
  have hsecond := exponent_shiftToTargetExponent first.1.roundedMantissa first.2 .exact
  dsimp only
  split
  · exact .zero
  · refine .finite ?_
    rw [hsecond, hfirst]
    omega

lemma exponentAtMost_round {m n : Nat} {e k : Int} (hm : m < 2 ^ n) (hn : 53 ≤ n)
    (hk : n + e - 52 ≤ k) (hmin : -1073 ≤ k) :
    ExponentAtMost k (UnpackedFloat.round Format.binary64 .positive m e) := by
  rw [UnpackedFloat.round, decreaseExponent]
  dsimp only
  generalize (e - Format.binary64.targetExponent (totalExponent m e)).toNat = shift
  have hshifted : m <<< shift < 2 ^ (n + shift) := by
    rw [Nat.shiftLeft_eq, Nat.pow_add]
    exact Nat.mul_lt_mul_of_pos_right hm (by positivity)
  exact exponentAtMost_roundWithAccuracy hshifted (by omega) (by push_cast; omega) hmin .exact

lemma exponentAtMost_normalize {m n : Nat} {e k : Int} (hpos : 0 < m) (hm : m < 2 ^ n)
    (hn : 53 ≤ n) (hk : n + e - 52 ≤ k) (hmin : -1073 ≤ k) :
    ExponentAtMost k (UnpackedFloat.normalize Format.binary64 m e .positive) := by
  have hcompare : compare (m : Int) 0 = .gt := by
    rw [compare_gt_iff_gt]
    omega
  rw [UnpackedFloat.normalize, hcompare]
  exact exponentAtMost_round hm hn hk hmin

/-! ## Packing -/

lemma mantissa_lt_of_unpack {f : Float.Model} {s : Sign} {m : Nat} {e : Int} {hm : 0 < m}
    (h : f.unpack = .finite s m e hm) : m < 2 ^ 53 := by
  unfold Float.Model.unpack UnpackedFloat.unpack at h
  dsimp only at h
  split at h
  · split at h <;> cases h
  · split at h
    · split at h
      · cases h
      · injection h with _ hmantissa _
        rw [← hmantissa]
        exact lt_trans (BitVec.isLt _) (by decide)
    · injection h with _ hmantissa _
      rw [← hmantissa]
      exact BitVec.isLt _

/-- A bit pattern with a positive sign and an exponent field that is not all ones. -/
lemma exponentAtMost_unpack {b : BitVec 64} {k : Int}
    (hsign : @unpackSign Format.binary64 b = 0#1)
    (he : @unpackExponent Format.binary64 b ≠ -1#11)
    (hk : ((@unpackExponent Format.binary64 b).toNat : Int) - 1075 ≤ k) (hmin : -1074 ≤ k) :
    ExponentAtMost k (UnpackedFloat.unpack Format.binary64 b) := by
  have hbias : (Format.binary64.exponentBias : Int) +
      (Format.binary64.mantissaBitsWithoutImplicit : Int) = 1075 := rfl
  unfold UnpackedFloat.unpack
  dsimp only
  rw [hbias, hsign]
  split
  · contradiction
  · split
    · rename_i hzero
      split
      · exact .zero
      · exact .finite (by rw [hzero]; exact hmin)
    · exact .finite hk

lemma exponentAtMost_unpack_packComponents (e : BitVec 11) (m : BitVec 52) {k : Int}
    (he : e ≠ -1#11) (hk : (e.toNat : Int) - 1075 ≤ k) (hmin : -1074 ≤ k) :
    ExponentAtMost k
      (UnpackedFloat.unpack Format.binary64 (packComponents Format.binary64 .positive e m)) := by
  refine exponentAtMost_unpack (unpackSign_packComponents _ _ _) ?_ ?_ hmin
  · rwa [unpackExponent_packComponents]
  · rwa [unpackExponent_packComponents]

lemma pack_finite (s : Sign) (m : Nat) (e : Int) (hm : 0 < m) :
    UnpackedFloat.pack Format.binary64 (.finite s m e hm) =
      if 2048 ≤ (e + 1023 + 52).toNat + 1 then packedInfinity Format.binary64 s
      else if m.log2 + 1 = 53 then
        packComponents Format.binary64 s (BitVec.ofNat 11 (e + 1023 + 52).toNat) (BitVec.ofNat 52 m)
      else packComponents Format.binary64 s 0#11 (BitVec.ofNat 52 m) := rfl

/-- **Packing** keeps a number below infinity: the exponent field has room for it. -/
lemma exponentAtMost_pack {u : UnpackedFloat} {k : Int} (h : ExponentAtMost k u)
    (hmin : -1074 ≤ k) (hmax : k ≤ 971) : ExponentAtMost k (Float.Model.pack u).unpack := by
  change ExponentAtMost k (UnpackedFloat.unpack _ (UnpackedFloat.pack Format.binary64 u))
  cases h with
  | zero => exact exponentAtMost_unpack_packComponents _ _ (by decide) (by simp; omega) hmin
  | @finite m e hm he =>
    rw [pack_finite, if_neg (by omega)]
    generalize hfield : (e + 1023 + 52).toNat = field
    split
    · have htoNat : (BitVec.ofNat 11 field).toNat = field := by
        rw [BitVec.toNat_ofNat]
        omega
      refine exponentAtMost_unpack_packComponents _ _ ?_ (by omega) hmin
      intro hones
      have hall : (BitVec.ofNat 11 field).toNat = 2047 := by rw [hones]; rfl
      omega
    · exact exponentAtMost_unpack_packComponents _ _ (by decide) (by simp; omega) hmin

/-! ## Arithmetic -/

/-- Holds of zero and of the positive finite doubles with an exponent of at most `k`. -/
def Moderate (k : Int) (x : Float) : Prop :=
  ExponentAtMost k x.toModel.unpack

variable {x y : Float} {k l : Int}

lemma ExponentAtMost.mono {u : UnpackedFloat} (h : ExponentAtMost k u) (hkl : k ≤ l) :
    ExponentAtMost l u := by
  cases h with
  | zero => exact .zero
  | finite he => exact .finite (he.trans hkl)

lemma Moderate.mono (h : Moderate k x) (hkl : k ≤ l) : Moderate l x :=
  ExponentAtMost.mono h hkl

/-- The product of two mantissas has 106 bits, of which 53 go. -/
lemma Moderate.mul (hx : Moderate k x) (hy : Moderate l y) (hmin : 0 ≤ k + l)
    (hmax : k + l ≤ 900) : Moderate (k + l + 54) (x * y) := by
  have hproduct : ExponentAtMost (k + l + 54)
      (UnpackedFloat.mul Format.binary64 x.toModel.unpack y.toModel.unpack) := by
    rw [Moderate] at hx hy
    generalize hu : x.toModel.unpack = u at *
    generalize hv : y.toModel.unpack = v at *
    cases hx with
    | zero => cases hy <;> exact .zero
    | @finite m e hm he =>
      cases hy with
      | zero => exact .zero
      | @finite m' e' hm' he' =>
        have hlt : m * m' < 2 ^ 106 := calc
          m * m' < 2 ^ 53 * 2 ^ 53 :=
            Nat.mul_lt_mul'' (mantissa_lt_of_unpack hu) (mantissa_lt_of_unpack hv)
          _ = 2 ^ 106 := by norm_num
        exact exponentAtMost_roundWithAccuracy hlt (by decide) (by push_cast; omega) (by omega)
          .exact
  exact exponentAtMost_pack hproduct (by omega) (by omega)

/-- A mantissa that is brought down to the exponent `least` gains as many bits as that takes. -/
lemma shiftLeft_bounds {m : Nat} {e least : Int} (hpos : 0 < m) (hm : m < 2 ^ 53) (he : e ≤ k)
    (hleast : least ≤ k) :
    0 < m <<< (e - least).toNat ∧ m <<< (e - least).toNat < 2 ^ (53 + (k - least).toNat) := by
  rw [Nat.shiftLeft_eq]
  refine ⟨by positivity, ?_⟩
  calc m * 2 ^ (e - least).toNat < 2 ^ 53 * 2 ^ (e - least).toNat :=
        Nat.mul_lt_mul_of_pos_right hm (by positivity)
    _ ≤ 2 ^ 53 * 2 ^ (k - least).toNat :=
        Nat.mul_le_mul_left _ (Nat.pow_le_pow_right (by decide) (by omega))
    _ = 2 ^ (53 + (k - least).toNat) := (Nat.pow_add 2 53 _).symm

lemma exponentAtMost_add {m m' : Nat} {e e' : Int} {hpos : 0 < m} {hpos' : 0 < m'}
    (hm : m < 2 ^ 53) (hm' : m' < 2 ^ 53) (he : e ≤ k) (he' : e' ≤ k) (hmin : -1073 ≤ k) :
    ExponentAtMost (k + 2) (UnpackedFloat.add Format.binary64 (.finite .positive m e hpos)
      (.finite .positive m' e' hpos')) := by
  rw [UnpackedFloat.add, decreaseExponent, decreaseExponent]
  dsimp only [Sign.apply]
  generalize hleast : min e e' = least
  have hle : least ≤ k := by omega
  obtain ⟨hshifted, hlt⟩ := shiftLeft_bounds hpos hm he hle
  obtain ⟨hshifted', hlt'⟩ := shiftLeft_bounds hpos' hm' he' hle
  have hsum : m <<< (e - least).toNat + m' <<< (e' - least).toNat <
      2 ^ (53 + (k - least).toNat + 1) := by
    rw [Nat.pow_succ]
    omega
  exact exponentAtMost_normalize (by omega) hsum (by omega) (by push_cast; omega) (by omega)

lemma Moderate.add (hx : Moderate k x) (hy : Moderate k y) (hmin : -1073 ≤ k) (hmax : k ≤ 900) :
    Moderate (k + 2) (x + y) := by
  have hsum : ExponentAtMost (k + 2)
      (UnpackedFloat.add Format.binary64 x.toModel.unpack y.toModel.unpack) := by
    rw [Moderate] at hx hy
    generalize hu : x.toModel.unpack = u at *
    generalize hv : y.toModel.unpack = v at *
    cases hx with
    | zero =>
      cases hy with
      | zero => exact .zero
      | finite he' => exact .finite (by omega)
    | finite he =>
      cases hy with
      | zero => exact .finite (by omega)
      | finite he' =>
        exact exponentAtMost_add (mantissa_lt_of_unpack hu) (mantissa_lt_of_unpack hv) he he' hmin
  exact exponentAtMost_pack hsum (by omega) (by omega)

lemma exponentAtMost_ofNat {n : Nat} (hn : n < 2 ^ 64) :
    ExponentAtMost 12 (UnpackedFloat.ofNat Format.binary64 n) := by
  rcases Nat.eq_zero_or_pos n with rfl | hpos
  · exact .zero
  · exact exponentAtMost_normalize hpos hn (by decide) (by decide) (by decide)

lemma moderate_of_unpack {m : Nat} {e : Int} (hm : 0 < m)
    (h : x.toModel.unpack = .finite .positive m e hm) (he : e ≤ k) : Moderate k x := by
  rw [Moderate, h]
  exact .finite he

/-- The number one, as it stands in the table of powers of ten. -/
lemma moderate_one : Moderate 0 Float.exactlyRepresentablePowersOfTen[0] :=
  moderate_of_unpack (m := 0x10000000000000) (e := -52) (by decide) rfl (by decide)

/-- A natural number is converted as a word where it fits into 53 bits, and as a decimal
otherwise. -/
lemma moderate_ofInt {n : Nat} (hn : n < 2 ^ 70) : Moderate 66 (Float.ofInt n) := by
  change Moderate 66 (Float.ofScientific n false 0)
  rw [Float.ofScientific]
  split
  · have hword : Moderate 12 n.toUInt64.toFloat :=
      exponentAtMost_pack (exponentAtMost_ofNat n.toUInt64.toNat_lt) (by decide) (by decide)
    exact hword.mul moderate_one (by decide) (by decide)
  · have hdecimal : ExponentAtMost 66 (UnpackedFloat.ofScientific Format.binary64 n 0) := by
      rw [UnpackedFloat.ofScientific]
      split
      · exact .zero
      · have hbits : (2 : Int) ^ Format.binary64.exponentBits = 2048 := rfl
        have hlt : n <<< 53 * 10 ^ 0 < 2 ^ 123 := by
          rw [Nat.shiftLeft_eq]
          omega
        rw [if_neg (by decide), if_neg (by omega), if_pos (by decide), UnpackedFloat.mul]
        exact exponentAtMost_roundWithAccuracy hlt (by decide) (by decide) (by decide) .exact
    exact exponentAtMost_pack hdecimal (by decide) (by decide)

lemma moderate_of_between (hlow : 0.8 ≤ x) (hhigh : x ≤ 1.2) : Moderate 0 x := by
  have hlow : (UnpackedFloat.finite .positive 0x1999999999999A (-53) (by decide)).le
      x.toModel.unpack = true :=
    of_decide_eq_true (p := (0.8 : Float).toModel ≤ x.toModel) hlow
  have hhigh : x.toModel.unpack.le
      (UnpackedFloat.finite .positive 0x13333333333333 (-52) (by decide)) = true :=
    of_decide_eq_true (p := x.toModel ≤ (1.2 : Float).toModel) hhigh
  rw [Moderate]
  generalize x.toModel.unpack = u at *
  rcases u with s | _ | s | ⟨s, m, e, hm⟩
  · cases s <;> simp [UnpackedFloat.le, UnpackedFloat.compare] at hlow hhigh
  · simp [UnpackedFloat.le, UnpackedFloat.compare] at hlow
  · simp [UnpackedFloat.le, UnpackedFloat.compare] at hlow
  · cases s with
    | negative => simp [UnpackedFloat.le, UnpackedFloat.compare] at hlow
    | positive =>
      refine .finite ?_
      by_contra hlarge
      have hcompare : compare e (-52) = .gt := by
        rw [compare_gt_iff_gt]
        omega
      simp [UnpackedFloat.le, UnpackedFloat.compare, hcompare] at hhigh

lemma moderate_share : Moderate 0 0.7 :=
  moderate_of_unpack (m := 0x16666666666666) (e := -53) (by decide) rfl (by decide)

lemma moderate_half : Moderate 0 0.5 :=
  moderate_of_unpack (m := 0x10000000000000) (e := -53) (by decide) rfl (by decide)

lemma ExponentAtMost.components {b : BitVec 64}
    (h : ExponentAtMost k (UnpackedFloat.unpack Format.binary64 b)) :
    @unpackSign Format.binary64 b = 0#1 ∧ @unpackExponent Format.binary64 b ≠ -1#11 := by
  have hpositive (v : BitVec 1) (hv : Sign.ofBitVec v = .positive) : v = 0#1 := by
    by_contra hne
    simp [Sign.ofBitVec, hne] at hv
  unfold UnpackedFloat.unpack at h
  dsimp only at h
  generalize hs : Sign.ofBitVec (@unpackSign Format.binary64 b) = s at h
  split at h
  · split at h <;> cases h
  · rename_i he
    refine ⟨hpositive _ ?_, he⟩
    split at h
    · split at h <;> cases h <;> exact hs
    · cases h
      exact hs

lemma toNat_unpackSign (b : BitVec 64) :
    (@unpackSign Format.binary64 b).toNat = b.toNat / 2 ^ 63 % 2 := by
  rw [unpackSign_def, BitVec.extractLsb'_toNat, Nat.shiftRight_eq_div_pow]
  rfl

lemma toNat_unpackExponent (b : BitVec 64) :
    (@unpackExponent Format.binary64 b).toNat = b.toNat / 2 ^ 52 % 2 ^ 11 := by
  rw [unpackExponent_def, BitVec.extractLsb'_toNat, Nat.shiftRight_eq_div_pow]

/-- The parts of a moderate double are a natural number and a power of two. -/
lemma Moderate.parts (h : Moderate k x) : ∃ m e, Double.parts x = .finite false m e := by
  obtain ⟨hsign, hexponent⟩ := ExponentAtMost.components h
  have hbits : x.toModel.toBits.toBitVec.toNat = x.toBits.toNat := rfl
  have hnegative : x.toBits.toNat / 2 ^ 63 % 2 = 0 := by
    rw [← hbits, ← toNat_unpackSign, hsign]
    rfl
  have hfield : x.toBits.toNat / 2 ^ 52 % 2 ^ 11 ≠ 2047 := by
    rw [← hbits, ← toNat_unpackExponent]
    intro hones
    exact hexponent (BitVec.eq_of_toNat_eq hones)
  have hlt : x.toBits.toNat < 2 ^ 64 := x.toBits.toNat_lt
  rw [Double.parts]
  generalize x.toBits.toNat = bits at *
  have hpositive : (bits / 0x8000000000000000 == 1) = false := by
    rw [beq_eq_false_iff_ne]
    omega
  rw [if_neg (by rw [beq_iff_eq]; exact hfield), hpositive]
  split <;> exact ⟨_, _, rfl⟩

lemma Moderate.floor (h : Moderate k x) : ∃ i, Double.floor x = .ok i ∧ 0 ≤ i := by
  obtain ⟨m, e, hparts⟩ := h.parts
  rw [Double.floor, hparts]
  cases e with
  | ofNat n => exact ⟨_, rfl, Int.mul_nonneg (Int.natCast_nonneg m) (Int.natCast_nonneg _)⟩
  | negSucc n => exact ⟨_, rfl, Int.fdiv_nonneg (Int.natCast_nonneg m) (Int.natCast_nonneg _)⟩

lemma Moderate.roundHalfUp (h : Moderate k x) (hmin : 0 ≤ k) (hmax : k ≤ 900) :
    ∃ i, Double.roundHalfUp x = .ok i ∧ 0 ≤ i :=
  (h.add (moderate_half.mono hmin) (by omega) hmax).floor

/-- A time times a moderate factor can be rounded. -/
lemma roundHalfUp_mul_of_moderate {t : Nat} (ht : t < 2 ^ 70) (hx : Moderate k x) (hmin : 0 ≤ k)
    (hmax : k ≤ 700) : ∃ i, roundHalfUp (Float.ofInt t * x) = .ok i ∧ 0 ≤ i :=
  ((moderate_ofInt ht).mul hx (by omega) (by omega)).roundHalfUp (by omega) (by omega)

/-- **The time that passes** can be rounded: the factor is one that is drawn. -/
lemma roundHalfUp_mul_of_between {t : Nat} (ht : t < 2 ^ 70) (hlow : 0.8 ≤ x) (hhigh : x ≤ 1.2) :
    ∃ i, roundHalfUp (Float.ofInt t * x) = .ok i ∧ 0 ≤ i :=
  roundHalfUp_mul_of_moderate ht (moderate_of_between hlow hhigh) le_rfl (by decide)

/-- **The time of the processor** can be rounded: its share of the estimate is fixed. -/
lemma roundHalfUp_mul_share {t : Nat} (ht : t < 2 ^ 70) :
    ∃ i, roundHalfUp (Float.ofInt t * 0.7) = .ok i ∧ 0 ≤ i :=
  roundHalfUp_mul_of_moderate ht moderate_share le_rfl (by decide)

end SqlAdvice.Number.Double
