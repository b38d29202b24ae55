import Mathlib

/-!
Contract: rounding a fraction to the nearest whole mantissa, a half going to the even neighbour, and
the numbers that a double can hold.

Owns: the extended mantissa of a fraction, that dropping a bit doubles the denominator, and how far
a rounded mantissa lies from its fraction; that a double holds a number in canonical form, that
packing keeps such a number or makes it infinite, and the numbers up to a power of two with the
rounding into them.

Does **not** own: the operations that round.
-/

set_option autoImplicit false

namespace GrowthEstimate

/-! ## Rounded mantissas

The operations on doubles keep two bits besides the mantissa.  Together these say where
in the gap above the mantissa the exact value lies, and a shift by any number of bits
keeps them in step, so one bound on a fraction serves all operations. -/

namespace Binary64

open Float.Model Float.Model.UnpackedFloat

/-- The mantissa of a fraction, with the bit that says whether at least half of the gap
above it is filled, and the bit that says whether the rest of the fraction is neither
nothing nor exactly that half. -/
def ofFraction (num den : Nat) : ExtendedMantissa where
  mantissa := num / den
  roundBit := decide (den ≤ 2 * (num % den))
  stickyBit := decide (num % den ≠ 0 ∧ 2 * (num % den) ≠ den)

theorem ofMantissaAndAccuracy_exact (mantissa : Nat) :
    ExtendedMantissa.ofMantissaAndAccuracy mantissa .exact = ofFraction mantissa 1 := by
  simp [ExtendedMantissa.ofMantissaAndAccuracy, ofFraction, Nat.mod_one]

theorem ofMantissaAndAccuracy_quotient (num : Nat) {den : Nat} (positive : 0 < den) :
    ExtendedMantissa.ofMantissaAndAccuracy (num / den) (accuracyOfFraction (num % den) den) =
      ofFraction num den := by
  unfold accuracyOfFraction ofFraction
  by_cases isWhole : num % den = 0
  · simp [isWhole, ExtendedMantissa.ofMantissaAndAccuracy, Nat.pos_iff_ne_zero.mp positive]
  · rw [if_neg isWhole]
    rcases lt_trichotomy (2 * (num % den)) den with below | half | above
    · rw [Nat.compare_eq_lt.mpr below]
      simp [ExtendedMantissa.ofMantissaAndAccuracy, isWhole, below.ne, below]
    · rw [Nat.compare_eq_eq.mpr half]
      simp [ExtendedMantissa.ofMantissaAndAccuracy, half]
    · rw [Nat.compare_eq_gt.mpr above]
      simp [ExtendedMantissa.ofMantissaAndAccuracy, isWhole, above.ne', above.le]

/-- Dropping the last bit of a mantissa doubles the denominator of its fraction. -/
theorem shiftRightOne_ofFraction (num : Nat) {den : Nat} (positive : 0 < den) :
    (ofFraction num den).shiftRightOne = ofFraction num (den * 2) := by
  have small : num % den < den := Nat.mod_lt num positive
  unfold ofFraction ExtendedMantissa.shiftRightOne
  rw [Nat.div_div_eq_div_mul, Nat.mod_mul]
  simp only [ExtendedMantissa.mk.injEq, true_and]
  generalize num % den = rest at small
  rcases Nat.mod_two_eq_zero_or_one (num / den) with isEven | isOdd
  · rw [isEven]
    constructor
    · simp
      omega
    · rw [Bool.eq_iff_iff]
      simp
      omega
  · rw [isOdd]
    constructor
    · simp
      omega
    · rw [Bool.eq_iff_iff]
      simp
      omega

theorem shiftRight_ofFraction (num : Nat) {den : Nat} (positive : 0 < den) (count : Nat) :
    ofFraction num den >>> count = ofFraction num (den * 2 ^ count) := by
  change Nat.repeat _ count _ = _
  induction count with
  | zero => simp [Nat.repeat]
  | succ count inductionHypothesis =>
      have stillPositive := Nat.mul_pos positive (Nat.two_pow_pos count)
      rw [Nat.repeat, inductionHypothesis, shiftRightOne_ofFraction num stillPositive,
        Nat.mul_assoc, ← Nat.pow_succ]

/-! ### How far a rounded mantissa lies from its fraction -/

theorem le_roundedMantissa (num den : Nat) :
    num / den ≤ (ofFraction num den).roundedMantissa := by
  unfold ofFraction ExtendedMantissa.roundedMantissa ExtendedMantissa.accuracy
  split <;> simp_all [Accuracy.roundToNearestEven]

theorem roundedMantissa_le (num den : Nat) :
    (ofFraction num den).roundedMantissa ≤ num / den + 1 := by
  unfold ofFraction ExtendedMantissa.roundedMantissa ExtendedMantissa.accuracy
  split <;> simp_all [Accuracy.roundToNearestEven]
  omega

/-- A mantissa is rounded up only if at least half of the gap above it is filled. -/
theorem roundedMantissa_eq_div {num den : Nat} (below : 2 * (num % den) < den) :
    (ofFraction num den).roundedMantissa = num / den := by
  unfold ofFraction ExtendedMantissa.roundedMantissa ExtendedMantissa.accuracy
  rw [decide_eq_false below.not_ge]
  split <;> simp_all [Accuracy.roundToNearestEven]

/-- A fraction less than half a step above a whole number is not rounded past it. -/
theorem roundedMantissa_le_of_lt {num den bound : Nat}
    (near : 2 * num < den * (2 * bound + 1)) :
    (ofFraction num den).roundedMantissa ≤ bound := by
  have parts := Nat.div_add_mod num den
  rcases Nat.lt_or_ge (2 * (num % den)) den with below | halfOrMore
  · rw [roundedMantissa_eq_div below]
    by_contra above
    have next : den * (bound + 1) ≤ den * (num / den) :=
      Nat.mul_le_mul_left den (by omega)
    rw [Nat.mul_add] at near next
    rw [Nat.mul_left_comm] at near
    omega
  · refine (roundedMantissa_le num den).trans ?_
    by_contra above
    have next : den * bound ≤ den * (num / den) := Nat.mul_le_mul_left den (by omega)
    rw [Nat.mul_add, Nat.mul_left_comm] at near
    omega

/-! ### Rounding to a double -/

/-- A positive number as a double holds it: with all bits of the mantissa, or at the least
exponent. -/
structure Canonical (mantissa : Nat) (exponent : Int) : Prop where
  above : -1074 ≤ exponent
  fits : mantissa < 2 ^ 53
  full : 2 ^ 52 ≤ mantissa ∨ exponent = -1074

/-- How often the least positive double goes into a number. -/
def quanta (mantissa : Nat) (exponent : Int) : Nat :=
  mantissa * 2 ^ (exponent + 1074).toNat

theorem quanta_pos {mantissa : Nat} (positive : 0 < mantissa) (exponent : Int) :
    0 < quanta mantissa exponent :=
  Nat.mul_pos positive (Nat.two_pow_pos _)

/-- The exponent at which a number is kept. -/
def keptExponent (mantissa : Nat) (exponent : Int) : Int :=
  max (totalExponent mantissa exponent - 53) (-1074)

theorem le_keptExponent (mantissa : Nat) (exponent : Int) :
    -1074 ≤ keptExponent mantissa exponent :=
  le_max_right _ _

theorem shiftToTargetExponent_eq (mantissa : Nat) (exponent : Int) (accuracy : Accuracy) :
    shiftToTargetExponent .binary64 mantissa exponent accuracy =
      (ExtendedMantissa.ofMantissaAndAccuracy mantissa accuracy
          >>> (keptExponent mantissa exponent - exponent).toNat,
        exponent + (keptExponent mantissa exponent - exponent).toNat) :=
  rfl

theorem log2_lt_of_lt {mantissa bits : Nat} (small : mantissa < 2 ^ bits) (some : 0 < bits) :
    mantissa.log2 < bits := by
  rcases Nat.eq_zero_or_pos mantissa with isZero | positive
  · rw [isZero]
    simpa using some
  · exact (Nat.log2_lt (by omega)).mpr small

section Rounded

variable {num den : Nat} {exponent : Int}

/-- The mantissa of a fraction, rounded at the exponent at which it is kept. -/
def kept (num den : Nat) (exponent : Int) : Nat :=
  (ofFraction num
    (den * 2 ^ (keptExponent (num / den) exponent - exponent).toNat)).roundedMantissa

/-- No more bits are kept than a double has. -/
theorem kept_le : kept num den exponent ≤ 2 ^ 53 := by
  refine (roundedMantissa_le _ _).trans (Nat.succ_le_of_lt ?_)
  rw [← Nat.div_div_eq_div_mul, Nat.div_lt_iff_lt_mul (Nat.two_pow_pos _), ← Nat.pow_add]
  have enough : (num / den).log2 + 1 ≤
      53 + (keptExponent (num / den) exponent - exponent).toNat := by
    unfold keptExponent totalExponent
    omega
  exact Nat.lt_of_lt_of_le Nat.lt_log2_self (Nat.pow_le_pow_right Nat.two_pos enough)

/-- All bits that a double has are kept, unless the exponent is the least. -/
theorem kept_full (low : exponent ≤ keptExponent (num / den) exponent)
    (notLeast : keptExponent (num / den) exponent ≠ -1074) :
    2 ^ 52 ≤ kept num den exponent := by
  refine Nat.le_trans ?_ (le_roundedMantissa _ _)
  rw [← Nat.div_div_eq_div_mul, Nat.le_div_iff_mul_le (Nat.two_pow_pos _), ← Nat.pow_add]
  have bits : 52 + (keptExponent (num / den) exponent - exponent).toNat =
      (num / den).log2 := by
    unfold keptExponent totalExponent at low notLeast ⊢
    omega
  have notZero : num / den ≠ 0 := by
    intro isZero
    rw [isZero] at bits
    simp at bits
  rw [bits]
  exact Nat.log2_self_le notZero

/-- A mantissa that was rounded up to one bit too many gives up its last bit, which is
none. -/
theorem canonical_of_rounded {rounded : Nat} {bits : Int} (atMost : rounded ≤ 2 ^ 53)
    (notZero : rounded ≠ 0) (above : -1074 ≤ bits) (full : 2 ^ 52 ≤ rounded ∨ bits = -1074) :
    let spare := (keptExponent rounded bits - bits).toNat
    Canonical (rounded / 2 ^ spare) (bits + spare) ∧
      quanta (rounded / 2 ^ spare) (bits + spare) = quanta rounded bits := by
  intro spare
  rcases Nat.lt_or_eq_of_le atMost with fits | isFull
  · have noneSpare : spare = 0 := by
      have small := (Nat.log2_lt notZero).mpr fits
      simp only [spare, keptExponent, totalExponent]
      omega
    rw [noneSpare]
    simp only [Nat.pow_zero, Nat.div_one, Int.natCast_zero, Int.add_zero]
    exact ⟨⟨above, fits, full⟩, trivial⟩
  · have oneSpare : spare = 1 := by
      simp only [spare, keptExponent, totalExponent, isFull, Nat.log2_two_pow]
      omega
    have shifted : (bits + 1 + 1074).toNat = (bits + 1074).toNat + 1 := by omega
    rw [oneSpare, isFull]
    refine ⟨⟨by omega, by norm_num, Or.inl (by norm_num)⟩, ?_⟩
    simp only [quanta, Int.natCast_one, shifted]
    rw [Nat.pow_succ]
    ring

/-- A number that is no less than the least double is not rounded to nothing. -/
theorem kept_pos (low : exponent ≤ keptExponent (num / den) exponent)
    (above : -1074 ≤ exponent) (some : 0 < num / den) : 0 < kept num den exponent := by
  by_cases isLeast : keptExponent (num / den) exponent = -1074
  · have noneDropped : (keptExponent (num / den) exponent - exponent).toNat = 0 := by omega
    refine Nat.lt_of_lt_of_le ?_ (le_roundedMantissa _ _)
    rwa [noneDropped, Nat.pow_zero, Nat.mul_one]
  · exact Nat.lt_of_lt_of_le (Nat.two_pow_pos 52) (kept_full low isLeast)

/-- Rounding a fraction gives the mantissa that is kept, in canonical form. -/
theorem roundWithAccuracy_shape {accuracy : Accuracy} (positive : 0 < den)
    (isFraction : ExtendedMantissa.ofMantissaAndAccuracy (num / den) accuracy =
      ofFraction num den)
    (low : exponent ≤ keptExponent (num / den) exponent) (sign : Sign) :
    (kept num den exponent = 0 ∧
        roundWithAccuracy .binary64 sign (num / den) exponent accuracy = .zero sign) ∨
      ∃ mantissa bits isPositive, Canonical mantissa bits ∧
        keptExponent (num / den) exponent ≤ bits ∧
        quanta mantissa bits =
          quanta (kept num den exponent) (keptExponent (num / den) exponent) ∧
        roundWithAccuracy .binary64 sign (num / den) exponent accuracy =
          .finite sign mantissa bits isPositive := by
  have reached : exponent + (keptExponent (num / den) exponent - exponent).toNat =
      keptExponent (num / den) exponent := by omega
  have firstRound : (ofFraction num
      (den * 2 ^ (keptExponent (num / den) exponent - exponent).toNat)).roundedMantissa =
        kept num den exponent := rfl
  simp only [roundWithAccuracy, shiftToTargetExponent_eq, isFraction,
    shiftRight_ofFraction num positive, reached, firstRound, ofMantissaAndAccuracy_exact,
    shiftRight_ofFraction _ Nat.one_pos, Nat.one_mul]
  by_cases isZero : kept num den exponent = 0
  · left
    refine ⟨isZero, dif_pos ?_⟩
    rw [isZero]
    exact Nat.zero_div _
  · right
    have full : 2 ^ 52 ≤ kept num den exponent ∨ keptExponent (num / den) exponent = -1074 := by
      by_cases isLeast : keptExponent (num / den) exponent = -1074
      · exact Or.inr isLeast
      · exact Or.inl (kept_full low isLeast)
    obtain ⟨canonical, same⟩ := canonical_of_rounded kept_le isZero
      (le_keptExponent _ _) full
    have stillPositive := quanta_pos (Nat.pos_of_ne_zero isZero)
      (keptExponent (num / den) exponent)
    rw [← same] at stillPositive
    have isPositive := Nat.pos_of_mul_pos_right stillPositive
    exact ⟨_, _, isPositive, canonical, Int.le_add_of_nonneg_right (Int.natCast_nonneg _), same,
      dif_neg isPositive.ne'⟩

/-- A fraction less than half a step above a power of two is kept as no more than that
power. -/
theorem quanta_kept_le {power bits : Nat} (positive : 0 < den)
    (low : exponent ≤ keptExponent (num / den) exponent)
    (scale : (power : Int) + exponent = bits - 1074)
    (near : 2 * num < den * (2 * 2 ^ power + 2 ^ (power - 52))) :
    quanta (kept num den exponent) (keptExponent (num / den) exponent) ≤ 2 ^ bits := by
  rw [Nat.mul_add, Nat.mul_left_comm] at near
  have size : (num / den).log2 ≤ power := by
    have gap : den * 2 ^ (power - 52) ≤ den * 2 ^ power :=
      Nat.mul_le_mul_left den (Nat.pow_le_pow_right Nat.two_pos (Nat.sub_le power 52))
    have belowDouble : num < 2 ^ (power + 1) * den := by
      rw [Nat.mul_comm, Nat.pow_succ, ← Nat.mul_assoc]
      omega
    have quotient := (Nat.div_lt_iff_lt_mul positive).mpr belowDouble
    exact Nat.le_of_lt_succ (log2_lt_of_lt quotient (Nat.succ_pos power))
  obtain ⟨dropped, isDropped⟩ : ∃ dropped,
      dropped = (keptExponent (num / den) exponent - exponent).toNat := ⟨_, rfl⟩
  have atMost : dropped ≤ power := by
    unfold keptExponent totalExponent at isDropped
    omega
  have stepsAbove : 2 ^ dropped * 2 ^ (power - dropped) = 2 ^ power := by
    rw [← Nat.pow_add, Nat.add_sub_cancel' atMost]
  have bound : kept num den exponent ≤ 2 ^ (power - dropped) := by
    unfold kept
    rw [← isDropped]
    apply roundedMantissa_le_of_lt
    rw [Nat.mul_assoc, Nat.mul_add, Nat.mul_left_comm (2 ^ dropped), stepsAbove, Nat.mul_one,
      Nat.mul_add, Nat.mul_left_comm den]
    rcases Nat.lt_or_ge (num / den) (2 ^ power) with below | reaches
    · -- a fraction below the power is below it by a whole step
      have whole := (Nat.div_lt_iff_lt_mul positive).mp below
      rw [Nat.mul_comm] at whole
      omega
    · -- a fraction that reaches the power gives up as many bits as the gap there is wide
      have enough : power - 52 ≤ dropped := by
        have notZero : num / den ≠ 0 := by
          have := Nat.two_pow_pos power
          omega
        have topBit := (Nat.le_log2 notZero).mpr reaches
        unfold keptExponent totalExponent at isDropped
        omega
      have gap : den * 2 ^ (power - 52) ≤ den * 2 ^ dropped :=
        Nat.mul_le_mul_left den (Nat.pow_le_pow_right Nat.two_pos enough)
      omega
  have scaled : power - dropped + (keptExponent (num / den) exponent + 1074).toNat = bits := by
    have := le_keptExponent (num / den) exponent
    omega
  rw [← scaled, Nat.pow_add]
  exact Nat.mul_le_mul_right _ bound

end Rounded

end Binary64

/-! ## Numbers that doubles hold -/

namespace Binary64

open Float.Model (UnpackedFloat Format)
open Float.Model.UnpackedFloat

/-! ### Packing -/

/-- What is left of a number after it was packed. -/
def repack (number : UnpackedFloat) : UnpackedFloat :=
  unpack .binary64 (pack .binary64 number)

@[simp] theorem repack_zero (sign : Sign) : repack (.zero sign) = .zero sign := by
  cases sign <;> rfl

@[simp] theorem repack_infinity (sign : Sign) : repack (.infinity sign) = .infinity sign := by
  cases sign <;> rfl

theorem toNat_append_one (bits : BitVec 52) : (1#1 ++ bits).toNat = 2 ^ 52 + bits.toNat := by
  rw [BitVec.toNat_append, ← Nat.shiftLeft_add_eq_or_of_lt bits.isLt]
  rfl

/-- A double holds its numbers in canonical form, up to the largest exponent. -/
theorem canonical_of_unpack {bits : BitVec Format.binary64.numBits} {sign : Sign}
    {mantissa : Nat} {exponent : Int} {positive : 0 < mantissa}
    (holds : unpack .binary64 bits = .finite sign mantissa exponent positive) :
    Canonical mantissa exponent ∧ exponent ≤ 971 := by
  have mantissaBits : (@unpackMantissa .binary64 bits).toNat < 2 ^ 52 :=
    (@unpackMantissa .binary64 bits).isLt
  have bias : ((Format.exponentBias .binary64 : Nat) : Int) = 1023 := rfl
  have width : ((Format.mantissaBitsWithoutImplicit .binary64 : Nat) : Int) = 52 := rfl
  unfold unpack at holds
  simp only at holds
  split at holds
  · split at holds <;> contradiction
  · next notAllOnes =>
    split at holds
    · next isLeast =>
      split at holds
      · contradiction
      · injection holds with _ isMantissa isExponent
        have noBits : (@unpackExponent .binary64 bits).toNat = 0 := by
          rw [isLeast]
          rfl
        exact ⟨⟨by omega, by omega, Or.inr (by omega)⟩, by omega⟩
    · next notLeast =>
      injection holds with _ isMantissa isExponent
      rw [toNat_append_one] at isMantissa
      have someBits : (@unpackExponent .binary64 bits).toNat ≠ 0 := by
        intro noBits
        exact notLeast (BitVec.toNat_inj.mp noBits)
      have notAllBits : (@unpackExponent .binary64 bits).toNat ≠ 2047 := by
        intro allBits
        exact notAllOnes (BitVec.toNat_inj.mp allBits)
      have exponentBits : (@unpackExponent .binary64 bits).toNat < 2 ^ 11 :=
        (@unpackExponent .binary64 bits).isLt
      exact ⟨⟨by omega, by omega, Or.inl (by omega)⟩, by omega⟩

theorem pack_finite (sign : Sign) (mantissa : Nat) (exponent : Int) (positive : 0 < mantissa) :
    pack .binary64 (.finite sign mantissa exponent positive) =
      if 971 < exponent then packedInfinity .binary64 sign
      else if mantissa.log2 = 52 then
        packComponents .binary64 sign (BitVec.ofNat 11 (exponent + 1075).toNat)
          (BitVec.ofNat 52 mantissa)
      else packComponents .binary64 sign 0#11 (BitVec.ofNat 52 mantissa) := by
  have biased : exponent + (Format.exponentBias .binary64 : Nat)
      + (Format.mantissaBitsWithoutImplicit .binary64 : Nat) = exponent + 1075 := by
    rw [Int.add_assoc]
    rfl
  have width : Format.mantissaBits .binary64 = 53 := rfl
  unfold pack
  simp only [biased, width]
  congr 1
  · exact propext (by omega)
  · congr 1
    exact propext (by omega)

/-- A mantissa with all its bits is read back together with its exponent. -/
theorem unpack_normal {mantissa : Nat} {exponent : Int} (positive : 0 < mantissa)
    (canonical : Canonical mantissa exponent) (full : 2 ^ 52 ≤ mantissa)
    (inRange : exponent ≤ 971) (sign : Sign) :
    unpack .binary64 (packComponents .binary64 sign (BitVec.ofNat 11 (exponent + 1075).toNat)
        (BitVec.ofNat 52 mantissa)) =
      .finite sign mantissa exponent positive := by
  have bias : ((Format.exponentBias .binary64 : Nat) : Int) = 1023 := rfl
  have width : ((Format.mantissaBitsWithoutImplicit .binary64 : Nat) : Int) = 52 := rfl
  have above := canonical.above
  have fits := canonical.fits
  have exponentBits : (BitVec.ofNat 11 (exponent + 1075).toNat).toNat =
      (exponent + 1075).toNat := by
    rw [BitVec.toNat_ofNat, Nat.mod_eq_of_lt (by omega)]
  have mantissaBits : (BitVec.ofNat 52 mantissa).toNat = mantissa - 2 ^ 52 := by
    rw [BitVec.toNat_ofNat]
    omega
  have isBetween (bound : BitVec 11) (other : (exponent + 1075).toNat ≠ bound.toNat) :
      BitVec.ofNat 11 (exponent + 1075).toNat ≠ bound := by
    intro same
    exact other (exponentBits.symm.trans (congrArg BitVec.toNat same))
  have notAllOnes : (exponent + 1075).toNat ≠ (-1#11).toNat := by
    change (exponent + 1075).toNat ≠ 2047
    omega
  have notLeast : (exponent + 1075).toNat ≠ (0#11).toNat := by
    change (exponent + 1075).toNat ≠ 0
    omega
  unfold unpack
  simp only [unpackMantissa_packComponents, unpackExponent_packComponents,
    unpackSign_packComponents, Sign.ofBitVec_toBitVec]
  rw [if_neg (isBetween _ notAllOnes), if_neg (isBetween _ notLeast)]
  simp only [toNat_append_one, exponentBits, mantissaBits, finite.injEq, true_and]
  omega

/-- A mantissa with fewer bits is read back at the least exponent. -/
theorem unpack_subnormal {mantissa : Nat} (positive : 0 < mantissa) (few : mantissa < 2 ^ 52)
    (sign : Sign) :
    unpack .binary64 (packComponents .binary64 sign 0#11 (BitVec.ofNat 52 mantissa)) =
      .finite sign mantissa (-1074) positive := by
  have mantissaBits : (BitVec.ofNat 52 mantissa).toNat = mantissa := by
    rw [BitVec.toNat_ofNat, Nat.mod_eq_of_lt few]
  have notZero : BitVec.ofNat 52 mantissa ≠ 0#52 := by
    intro isZero
    exact positive.ne' (mantissaBits.symm.trans (congrArg BitVec.toNat isZero))
  unfold unpack
  simp only [unpackMantissa_packComponents, unpackExponent_packComponents,
    unpackSign_packComponents, Sign.ofBitVec_toBitVec]
  rw [if_neg (by decide), if_pos trivial, dif_neg notZero]
  simp only [mantissaBits]
  rfl

/-- Packing a number in canonical form keeps it, unless its exponent is too large. -/
theorem repack_canonical {mantissa : Nat} {exponent : Int} (positive : 0 < mantissa)
    (canonical : Canonical mantissa exponent) (sign : Sign) :
    repack (.finite sign mantissa exponent positive) =
      if 971 < exponent then .infinity sign
      else .finite sign mantissa exponent positive := by
  unfold repack
  rw [pack_finite]
  split
  · exact repack_infinity sign
  · next inRange =>
    split
    · next isFull =>
      have full : 2 ^ 52 ≤ mantissa := isFull ▸ Nat.log2_self_le positive.ne'
      exact unpack_normal positive canonical full (Int.not_lt.mp inRange) sign
    · next notFull =>
      have few : mantissa < 2 ^ 52 := by
        have fits := (Nat.log2_lt positive.ne').mpr canonical.fits
        exact (Nat.log2_lt positive.ne').mp (by omega)
      have least : exponent = -1074 := canonical.full.resolve_left few.not_ge
      simp only [least]
      exact unpack_subnormal positive few sign

/-! ### Numbers without a sign -/

/-- The numbers from zero to a power of two times the least positive double. -/
inductive UpTo (bits : Nat) : UnpackedFloat → Prop
  | zero (sign : Sign) : UpTo bits (.zero sign)
  | finite {mantissa : Nat} {exponent : Int} (positive : 0 < mantissa)
      (canonical : Canonical mantissa exponent) (bounded : quanta mantissa exponent ≤ 2 ^ bits) :
      UpTo bits (.finite .positive mantissa exponent positive)

/-- The numbers that are not negative, infinity among them. -/
inductive NonNegative : UnpackedFloat → Prop
  | zero (sign : Sign) : NonNegative (.zero sign)
  | finite {mantissa : Nat} {exponent : Int} (positive : 0 < mantissa) :
      NonNegative (.finite .positive mantissa exponent positive)
  | infinity : NonNegative (.infinity .positive)

/-- The numbers that are more than nothing, infinity among them. -/
inductive Positive : UnpackedFloat → Prop
  | finite {mantissa : Nat} {exponent : Int} (positive : 0 < mantissa) :
      Positive (.finite .positive mantissa exponent positive)
  | infinity : Positive (.infinity .positive)

theorem UpTo.mono {bits more : Nat} {number : UnpackedFloat} (upTo : UpTo bits number)
    (atMost : bits ≤ more) : UpTo more number := by
  cases upTo with
  | zero sign => exact .zero sign
  | finite positive canonical bounded =>
      exact .finite positive canonical
        (bounded.trans (Nat.pow_le_pow_right Nat.two_pos atMost))

theorem UpTo.nonNegative {bits : Nat} {number : UnpackedFloat} (upTo : UpTo bits number) :
    NonNegative number := by
  cases upTo with
  | zero sign => exact .zero sign
  | finite positive => exact .finite positive

/-- A number that is not too large has an exponent that is not. -/
theorem exponent_le_of_quanta {mantissa : Nat} {exponent : Int} {bits : Nat}
    (positive : 0 < mantissa) (bounded : quanta mantissa exponent ≤ 2 ^ bits) :
    exponent + 1074 ≤ bits := by
  have one : 1 * 2 ^ (exponent + 1074).toNat ≤ quanta mantissa exponent :=
    Nat.mul_le_mul_right _ positive
  rw [Nat.one_mul] at one
  have := (Nat.pow_le_pow_iff_right Nat.one_lt_two).mp (one.trans bounded)
  omega

theorem repack_upTo {bits : Nat} {number : UnpackedFloat} (upTo : UpTo bits number)
    (inRange : bits ≤ 2045) : repack number = number := by
  cases upTo with
  | zero sign => exact repack_zero sign
  | finite positive canonical bounded =>
      have := exponent_le_of_quanta positive bounded
      rw [repack_canonical positive canonical, if_neg (by omega)]

theorem unpack_packComponents_nonNegative {exponent : BitVec 11} (mantissa : BitVec 52)
    (inRange : exponent ≠ -1#11) :
    NonNegative (unpack .binary64 (packComponents .binary64 .positive exponent mantissa)) := by
  unfold unpack
  simp only [unpackMantissa_packComponents, unpackExponent_packComponents,
    unpackSign_packComponents, Sign.ofBitVec_toBitVec]
  rw [if_neg inRange]
  split
  · split
    · exact .zero _
    · exact .finite _
  · exact .finite _

theorem repack_nonNegative {number : UnpackedFloat} (nonNegative : NonNegative number) :
    NonNegative (repack number) := by
  cases nonNegative with
  | zero sign =>
      rw [repack_zero]
      exact .zero sign
  | infinity =>
      rw [repack_infinity]
      exact .infinity
  | @finite mantissa exponent positive =>
      unfold repack
      rw [pack_finite]
      split_ifs with tooLarge
      · change NonNegative (repack (.infinity .positive))
        rw [repack_infinity]
        exact .infinity
      · apply unpack_packComponents_nonNegative
        intro allOnes
        have := congrArg BitVec.toNat allOnes
        simp at this
        omega
      · exact unpack_packComponents_nonNegative _ (by decide)

theorem repack_positive {mantissa : Nat} {exponent : Int} (positive : 0 < mantissa)
    (canonical : Canonical mantissa exponent) :
    Positive (repack (.finite .positive mantissa exponent positive)) := by
  rw [repack_canonical positive canonical]
  split
  · exact .infinity
  · exact .finite positive

/-! ### Rounding without a sign -/

theorem roundWithAccuracy_nonNegative (mantissa : Nat) (exponent : Int) (accuracy : Accuracy) :
    NonNegative (roundWithAccuracy .binary64 .positive mantissa exponent accuracy) := by
  unfold roundWithAccuracy
  simp only
  split
  · exact .zero .positive
  · exact .finite _

/-- A fraction less than half a step above a power of two is rounded into the numbers up to
it. -/
theorem roundWithAccuracy_upTo {num den bits : Nat} {exponent : Int} {accuracy : Accuracy}
    (power : Nat) (positive : 0 < den)
    (isFraction : ExtendedMantissa.ofMantissaAndAccuracy (num / den) accuracy =
      ofFraction num den)
    (low : exponent ≤ keptExponent (num / den) exponent)
    (scale : (power : Int) + exponent = bits - 1074)
    (near : 2 * num < den * (2 * 2 ^ power + 2 ^ (power - 52))) :
    UpTo bits (roundWithAccuracy .binary64 .positive (num / den) exponent accuracy) := by
  rcases roundWithAccuracy_shape positive isFraction low .positive with
    ⟨_, isZero⟩ | ⟨mantissa, kept, isPositive, canonical, _, same, isFinite⟩
  · rw [isZero]
    exact .zero .positive
  · rw [isFinite]
    refine .finite isPositive canonical ?_
    rw [same]
    exact quanta_kept_le positive low scale near

end Binary64

end GrowthEstimate
