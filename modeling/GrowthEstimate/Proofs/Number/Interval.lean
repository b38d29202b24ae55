import GrowthEstimate.Number.Binary64
import GrowthEstimate.Proofs.Number.Rounding
import GrowthEstimate.Proofs.Number.Unit

/-!
Contract: doubles keep confidences in the unit interval.

Owns: that sums, products and quotients of doubles that are not negative are not negative, hence
defined, and the bounds that rounding cannot cross; what a double holds, its order and its unit
interval, counts as doubles, and the laws `UnitArithmetic` of doubles.

Does **not** own: differences, and how far a result is from the exact one.
-/

set_option autoImplicit false

namespace GrowthEstimate

/-! ## Sums, products and quotients

The bounds are for sums of two numbers, sums with one number of the unit interval, products within
the unit interval, and halves. -/

namespace Binary64

open Float.Model (UnpackedFloat Format totalExponent)
open Float.Model.UnpackedFloat

/-! ### Rounding whole numbers -/

theorem log2_mul_two_pow {mantissa : Nat} (positive : 0 < mantissa) (count : Nat) :
    (mantissa * 2 ^ count).log2 = mantissa.log2 + count := by
  have notZero := (Nat.mul_pos positive (Nat.two_pow_pos count)).ne'
  rw [Nat.log2_eq_iff notZero, Nat.add_right_comm, Nat.pow_add, Nat.pow_add]
  exact ⟨Nat.mul_le_mul_right _ (Nat.log2_self_le positive.ne'),
    Nat.mul_lt_mul_of_pos_right Nat.lt_log2_self (Nat.two_pow_pos count)⟩

/-- How much of a positive number is shifted in before it is rounded. -/
theorem round_eq (mantissa : Nat) (exponent : Int) (sign : Sign) :
    round .binary64 sign mantissa exponent =
      roundWithAccuracy .binary64 sign
        (mantissa * 2 ^ (exponent - keptExponent mantissa exponent).toNat)
        (exponent - (exponent - keptExponent mantissa exponent).toNat) .exact := by
  rw [← Nat.shiftLeft_eq]
  rfl

theorem keptExponent_shifted {mantissa : Nat} (positive : 0 < mantissa) (exponent : Int)
    (count : Nat) :
    keptExponent (mantissa * 2 ^ count) (exponent - count) = keptExponent mantissa exponent := by
  unfold keptExponent totalExponent
  rw [log2_mul_two_pow positive]
  omega

theorem quanta_shifted (mantissa : Nat) {exponent : Int} {count : Nat}
    (above : -1074 ≤ exponent - count) :
    quanta (mantissa * 2 ^ count) (exponent - count) = quanta mantissa exponent := by
  unfold quanta
  rw [Nat.mul_assoc, ← Nat.pow_add]
  congr 2
  omega

/-- A whole multiple of the least double that is less than half a step above a power of two
is rounded into the numbers up to it. -/
theorem roundWhole_upTo {mantissa bits : Nat} {exponent : Int} (positive : 0 < mantissa)
    (above : -1074 ≤ exponent) (low : exponent ≤ keptExponent mantissa exponent)
    (near : 2 * quanta mantissa exponent < 2 * 2 ^ bits + 2 ^ (bits - 52)) :
    UpTo bits (roundWithAccuracy .binary64 .positive mantissa exponent .exact) := by
  obtain ⟨steps, isSteps⟩ : ∃ steps, steps = (exponent + 1074).toNat := ⟨_, rfl⟩
  have inRange : steps ≤ bits := by
    have gap : 2 ^ (bits - 52) ≤ 2 ^ bits := Nat.pow_le_pow_right Nat.two_pos (Nat.sub_le _ _)
    have one : 1 * 2 ^ steps ≤ quanta mantissa exponent := by
      rw [isSteps]
      exact Nat.mul_le_mul_right _ positive
    have belowDouble : 2 ^ steps < 2 ^ (bits + 1) := by
      rw [Nat.pow_succ]
      omega
    exact Nat.le_of_lt_succ ((Nat.pow_lt_pow_iff_right Nat.one_lt_two).mp belowDouble)
  have isWhole : mantissa / 1 = mantissa := Nat.div_one mantissa
  rw [← isWhole] at low ⊢
  refine roundWithAccuracy_upTo (bits - steps) Nat.one_pos ?_ low (by omega) ?_
  · rw [isWhole]
    exact ofMantissaAndAccuracy_exact mantissa
  · refine Nat.lt_of_mul_lt_mul_right (a := 2 ^ steps) ?_
    have total : 2 ^ (bits - steps) * 2 ^ steps = 2 ^ bits := by
      rw [← Nat.pow_add, Nat.sub_add_cancel inRange]
    have gap : 2 ^ (bits - 52) ≤ 2 ^ (bits - steps - 52) * 2 ^ steps := by
      rw [← Nat.pow_add]
      exact Nat.pow_le_pow_right Nat.two_pos (by omega)
    rw [quanta, ← isSteps] at near
    rw [Nat.one_mul, Nat.mul_assoc, Nat.add_mul, Nat.mul_assoc, total]
    omega

/-- Rounding a whole number gives what is kept of it, in canonical form. -/
theorem roundWhole_shape {mantissa : Nat} {exponent : Int}
    (low : exponent ≤ keptExponent mantissa exponent) (sign : Sign) :
    (kept mantissa 1 exponent = 0 ∧
        roundWithAccuracy .binary64 sign mantissa exponent .exact = .zero sign) ∨
      ∃ rounded bits isPositive, Canonical rounded bits ∧ keptExponent mantissa exponent ≤ bits ∧
        quanta rounded bits =
          quanta (kept mantissa 1 exponent) (keptExponent mantissa exponent) ∧
        roundWithAccuracy .binary64 sign mantissa exponent .exact =
          .finite sign rounded bits isPositive := by
  have isWhole : mantissa / 1 = mantissa := Nat.div_one mantissa
  have isFraction : ExtendedMantissa.ofMantissaAndAccuracy (mantissa / 1) .exact =
      ofFraction mantissa 1 := by
    rw [isWhole]
    exact ofMantissaAndAccuracy_exact mantissa
  have shape := roundWithAccuracy_shape Nat.one_pos isFraction (by rwa [isWhole]) sign
  rwa [isWhole] at shape

/-- A whole multiple of the least double is not rounded to nothing. -/
theorem roundWhole_finite {mantissa : Nat} {exponent : Int} (positive : 0 < mantissa)
    (above : -1074 ≤ exponent) (low : exponent ≤ keptExponent mantissa exponent) (sign : Sign) :
    ∃ rounded bits isPositive, Canonical rounded bits ∧ keptExponent mantissa exponent ≤ bits ∧
      quanta rounded bits =
        quanta (kept mantissa 1 exponent) (keptExponent mantissa exponent) ∧
      roundWithAccuracy .binary64 sign mantissa exponent .exact =
        .finite sign rounded bits isPositive := by
  rcases roundWhole_shape low sign with ⟨isZero, _⟩ | isFinite
  · have isWhole : mantissa / 1 = mantissa := Nat.div_one mantissa
    exact absurd isZero (kept_pos (by rwa [isWhole]) above (by rwa [isWhole])).ne'
  · exact isFinite

theorem round_upTo {mantissa bits : Nat} {exponent : Int} (positive : 0 < mantissa)
    (above : -1074 ≤ exponent)
    (near : 2 * quanta mantissa exponent < 2 * 2 ^ bits + 2 ^ (bits - 52)) :
    UpTo bits (round .binary64 .positive mantissa exponent) := by
  have least := le_keptExponent mantissa exponent
  rw [round_eq]
  apply roundWhole_upTo (Nat.mul_pos positive (Nat.two_pow_pos _)) (by omega)
  · rw [keptExponent_shifted positive]
    omega
  · rwa [quanta_shifted mantissa (by omega)]

theorem round_nonNegative (mantissa : Nat) (exponent : Int) :
    NonNegative (round .binary64 .positive mantissa exponent) := by
  rw [round_eq]
  exact roundWithAccuracy_nonNegative _ _ _

/-! ### Sums -/

theorem normalize_positive {mantissa : Nat} (positive : 0 < mantissa) (exponent : Int)
    (zeroSign : Sign) :
    UnpackedFloat.normalize .binary64 mantissa exponent zeroSign =
      round .binary64 .positive mantissa exponent := by
  have isGreater : compare (mantissa : Int) 0 = .gt :=
    Int.compare_eq_gt.mpr (Int.natCast_pos.mpr positive)
  unfold UnpackedFloat.normalize
  rw [isGreater]
  rfl

section Sums

variable {mantissa mantissa' : Nat} {exponent exponent' : Int}

/-- The exact sum of two numbers, at the lower of their exponents. -/
theorem add_finite (positive : 0 < mantissa) (positive' : 0 < mantissa') :
    add .binary64 (.finite .positive mantissa exponent positive)
        (.finite .positive mantissa' exponent' positive') =
      round .binary64 .positive
        (mantissa * 2 ^ (exponent - min exponent exponent').toNat
          + mantissa' * 2 ^ (exponent' - min exponent exponent').toNat)
        (min exponent exponent') := by
  have sumPositive := Nat.add_pos_left (Nat.mul_pos positive
    (Nat.two_pow_pos (exponent - min exponent exponent').toNat))
    (mantissa' * 2 ^ (exponent' - min exponent exponent').toNat)
  rw [← normalize_positive sumPositive _ .positive, Int.natCast_add, ← Nat.shiftLeft_eq,
    ← Nat.shiftLeft_eq]
  rfl

theorem quanta_sum (above : -1074 ≤ exponent) (above' : -1074 ≤ exponent') :
    quanta (mantissa * 2 ^ (exponent - min exponent exponent').toNat
        + mantissa' * 2 ^ (exponent' - min exponent exponent').toNat) (min exponent exponent') =
      quanta mantissa exponent + quanta mantissa' exponent' := by
  unfold quanta
  rw [Nat.add_mul, Nat.mul_assoc, Nat.mul_assoc, ← Nat.pow_add, ← Nat.pow_add]
  congr 3 <;> omega

end Sums

theorem add_nonNegative {left right : UnpackedFloat} (isLeft : NonNegative left)
    (isRight : NonNegative right) : NonNegative (add .binary64 left right) := by
  cases isLeft with
  | zero sign =>
      cases isRight with
      | zero sign' => cases sign <;> cases sign' <;> exact .zero _
      | finite positive => exact .finite positive
      | infinity => exact .infinity
  | finite positive =>
      cases isRight with
      | zero sign' => exact .finite positive
      | finite positive' =>
          rw [add_finite]
          exact round_nonNegative _ _
      | infinity => exact .infinity
  | infinity =>
      cases isRight with
      | zero sign' => exact .infinity
      | finite positive' => exact .infinity
      | infinity => exact .infinity

/-- A sum less than half a step above a power of two is no more than that power. -/
theorem add_upTo {leftBits rightBits bits : Nat} {left right : UnpackedFloat}
    (isLeft : UpTo leftBits left) (isRight : UpTo rightBits right)
    (leftAtMost : leftBits ≤ bits) (rightAtMost : rightBits ≤ bits)
    (near : 2 * (2 ^ leftBits + 2 ^ rightBits) < 2 * 2 ^ bits + 2 ^ (bits - 52)) :
    UpTo bits (add .binary64 left right) := by
  cases isLeft with
  | zero sign =>
      cases isRight with
      | zero sign' => cases sign <;> cases sign' <;> exact .zero _
      | finite positive canonical bounded =>
          exact UpTo.mono (.finite positive canonical bounded) rightAtMost
  | finite positive canonical bounded =>
      cases isRight with
      | zero sign' => exact UpTo.mono (.finite positive canonical bounded) leftAtMost
      | finite positive' canonical' bounded' =>
          rw [add_finite]
          have above := canonical.above
          have above' := canonical'.above
          refine round_upTo ?_ (by omega) ?_
          · exact Nat.add_pos_left (Nat.mul_pos positive (Nat.two_pow_pos _)) _
          · rw [quanta_sum above above']
            omega

theorem add_upTo_succ {bits : Nat} {left right : UnpackedFloat} (isLeft : UpTo bits left)
    (isRight : UpTo bits right) : UpTo (bits + 1) (add .binary64 left right) := by
  refine add_upTo isLeft isRight (Nat.le_succ bits) (Nat.le_succ bits) ?_
  have gap := Nat.two_pow_pos (bits + 1 - 52)
  rw [Nat.pow_succ]
  omega

/-- A sum stops growing where one of its summands is lost in the gap above the other. -/
theorem add_upTo_self {bits : Nat} {left right : UnpackedFloat}
    (isLeft : UpTo (bits + 54) left) (isRight : UpTo bits right) :
    UpTo (bits + 54) (add .binary64 left right) := by
  refine add_upTo isLeft isRight (Nat.le_refl _) (Nat.le_add_right bits 54) ?_
  have gap : 2 ^ (bits + 54 - 52) = 2 ^ bits * 2 ^ 2 := Nat.pow_add 2 bits 2
  have some := Nat.two_pow_pos bits
  omega

/-! ### Products -/

theorem mul_nonNegative {mantissa : Nat} {exponent : Int} (positive : 0 < mantissa)
    {right : UnpackedFloat} (isRight : NonNegative right) :
    NonNegative (mul .binary64 (.finite .positive mantissa exponent positive) right) := by
  cases isRight with
  | zero sign => exact .zero _
  | finite positive' => exact roundWithAccuracy_nonNegative _ _ _
  | infinity => exact .infinity

/-- A bound on a number bounds its mantissa. -/
theorem le_two_pow_of_quanta {mantissa bits : Nat} {exponent : Int} (positive : 0 < mantissa)
    (above : -1074 ≤ exponent) (bounded : quanta mantissa exponent ≤ 2 ^ bits) :
    ∃ power : Nat, (power : Int) + exponent = bits - 1074 ∧ mantissa ≤ 2 ^ power := by
  have atMost := exponent_le_of_quanta positive bounded
  obtain ⟨steps, isSteps⟩ : ∃ steps, steps = (exponent + 1074).toNat := ⟨_, rfl⟩
  refine ⟨bits - steps, by omega, ?_⟩
  rw [quanta, ← isSteps] at bounded
  refine Nat.le_of_mul_le_mul_right (c := 2 ^ steps) ?_ (Nat.two_pow_pos _)
  rwa [← Nat.pow_add, Nat.sub_add_cancel (by omega)]

/-- The product of two numbers that are no greater than one has bits to spare. -/
theorem product_low {mantissa mantissa' : Nat} {exponent exponent' : Int}
    (canonical : Canonical mantissa exponent) (canonical' : Canonical mantissa' exponent')
    (atMost : exponent ≤ 0) (atMost' : exponent' ≤ 0) :
    exponent + exponent' ≤ keptExponent (mantissa * mantissa') (exponent + exponent') := by
  have least := le_keptExponent (mantissa * mantissa') (exponent + exponent')
  rcases canonical.full with full | isLeast
  · rcases canonical'.full with full' | isLeast'
    · have product := Nat.mul_le_mul full full'
      rw [← Nat.pow_add] at product
      have notZero : mantissa * mantissa' ≠ 0 := by omega
      have bits := (Nat.le_log2 notZero).mpr product
      unfold keptExponent totalExponent
      omega
    · omega
  · omega

/-- Products of numbers of the unit interval stay in it. -/
theorem mul_upTo {left right : UnpackedFloat} (isLeft : UpTo 1074 left)
    (isRight : UpTo 1074 right) : UpTo 1074 (mul .binary64 left right) := by
  cases isLeft with
  | zero sign =>
      cases isRight with
      | zero sign' => exact .zero _
      | finite positive => exact .zero _
  | @finite mantissa exponent positive canonical bounded =>
      cases isRight with
      | zero sign' => exact .zero _
      | @finite mantissa' exponent' positive' canonical' bounded' =>
          obtain ⟨power, isPower, atMost⟩ :=
            le_two_pow_of_quanta positive canonical.above bounded
          obtain ⟨power', isPower', atMost'⟩ :=
            le_two_pow_of_quanta positive' canonical'.above bounded'
          have product : mantissa * mantissa' ≤ 2 ^ (power + power') := by
            rw [Nat.pow_add]
            exact Nat.mul_le_mul atMost atMost'
          have isWhole : mantissa * mantissa' / 1 = mantissa * mantissa' := Nat.div_one _
          change UpTo 1074 (roundWithAccuracy .binary64 .positive (mantissa * mantissa')
            (exponent + exponent') .exact)
          rw [← isWhole]
          refine roundWithAccuracy_upTo (power + power') Nat.one_pos ?_ ?_ (by omega) ?_
          · rw [isWhole]
            exact ofMantissaAndAccuracy_exact _
          · rw [isWhole]
            exact product_low canonical canonical' (by omega) (by omega)
          · have := Nat.two_pow_pos (power + power' - 52)
            omega

/-! ### Quotients -/

/-- A finite number divided by one that is not zero is defined. -/
theorem div_nonNegative {bits : Nat} {left right : UnpackedFloat} (isLeft : UpTo bits left)
    (isRight : Positive right) : NonNegative (div .binary64 left right) := by
  cases isLeft with
  | zero sign =>
      cases isRight with
      | finite positive' => exact .zero _
      | infinity => exact .zero _
  | finite positive =>
      cases isRight with
      | finite positive' => exact roundWithAccuracy_nonNegative _ _ _
      | infinity => exact .zero _

def two : UnpackedFloat :=
  .finite .positive (2 ^ 52) (-51) (Nat.two_pow_pos 52)

/-- The exponent at which a number is divided by two. -/
def halvingExponent (mantissa : Nat) (exponent : Int) : Int :=
  min (exponent + 51) (max (totalExponent mantissa exponent - 55) (-1074))

theorem div_two_eq {mantissa : Nat} (positive : 0 < mantissa) (exponent : Int) :
    let low := halvingExponent mantissa exponent
    let shifted := mantissa * 2 ^ (exponent + 51 - low).toNat
    div .binary64 (.finite .positive mantissa exponent positive) two =
      roundWithAccuracy .binary64 .positive (shifted / 2 ^ 52) low
        (accuracyOfFraction (shifted % 2 ^ 52) (2 ^ 52)) := by
  intro low shifted
  have isLow : min (exponent - -51) (Format.targetExponent .binary64
      (totalExponent mantissa exponent - totalExponent (2 ^ 52) (-51))) = low := by
    have total : totalExponent (2 ^ 52) (-51) = 2 := by
      rw [totalExponent, Nat.log2_two_pow]
      rfl
    rw [total]
    change min (exponent - -51) (max (totalExponent mantissa exponent - 2 - 53) (-1074)) = low
    simp only [low, halvingExponent]
    omega
  unfold two div divCore
  simp only [isLow, Nat.shiftLeft_eq]
  rfl

/-- A number is divided by two with bits to spare. -/
theorem halvingExponent_low {mantissa : Nat} (positive : 0 < mantissa) (exponent : Int) :
    let low := halvingExponent mantissa exponent
    let shifted := mantissa * 2 ^ (exponent + 51 - low).toNat
    low ≤ keptExponent (shifted / 2 ^ 52) low := by
  intro low shifted
  have least := le_keptExponent (shifted / 2 ^ 52) low
  rcases lt_or_ge (-1074) low with above | isLeast
  · have enough : 52 + 52 ≤ shifted.log2 := by
      rw [log2_mul_two_pow positive]
      simp only [low, halvingExponent, totalExponent] at above ⊢
      omega
    have notZero : shifted ≠ 0 := (Nat.mul_pos positive (Nat.two_pow_pos _)).ne'
    have quotient : 2 ^ 52 ≤ shifted / 2 ^ 52 := by
      rw [Nat.le_div_iff_mul_le (Nat.two_pow_pos 52), ← Nat.pow_add]
      exact (Nat.le_log2 notZero).mp enough
    have bits := (Nat.le_log2 (by omega)).mpr quotient
    unfold keptExponent totalExponent
    omega
  · omega

/-- Halves of numbers up to two are in the unit interval. -/
theorem div_two_upTo {number : UnpackedFloat} (isNumber : UpTo 1075 number) :
    UpTo 1074 (div .binary64 number two) := by
  cases isNumber with
  | zero sign => exact .zero _
  | @finite mantissa exponent positive canonical bounded =>
      obtain ⟨power, isPower, atMost⟩ :=
        le_two_pow_of_quanta positive canonical.above bounded
      rw [div_two_eq]
      have lowAtMost : halvingExponent mantissa exponent ≤ 0 := by
        have size := (Nat.log2_lt positive.ne').mpr
          (Nat.lt_of_le_of_lt atMost (Nat.pow_lt_pow_succ Nat.one_lt_two))
        unfold halvingExponent totalExponent
        omega
      obtain ⟨places, isPlaces⟩ := Int.eq_ofNat_of_zero_le (Int.neg_nonneg_of_nonpos lowAtMost)
      refine roundWithAccuracy_upTo places (Nat.two_pow_pos 52)
        (ofMantissaAndAccuracy_quotient _ (Nat.two_pow_pos 52))
        (halvingExponent_low positive exponent) (by omega) ?_
      have shifted : mantissa * 2 ^ (exponent + 51 - halvingExponent mantissa exponent).toNat ≤
          2 ^ 52 * 2 ^ places := by
        refine (Nat.mul_le_mul_right _ atMost).trans_eq ?_
        rw [← Nat.pow_add, ← Nat.pow_add]
        have reached : halvingExponent mantissa exponent ≤ exponent + 51 := min_le_left _ _
        congr 1
        omega
      have gap := Nat.two_pow_pos (places - 52)
      omega

/-! ## Laws of doubles -/

/-! ### What a double holds -/

def held (value : Float) : UnpackedFloat :=
  value.toModel.unpack

theorem held_add (left right : Float) :
    held (left + right) = repack (add .binary64 (held left) (held right)) :=
  rfl

theorem held_mul (left right : Float) :
    held (left * right) = repack (mul .binary64 (held left) (held right)) :=
  rfl

theorem held_div (left right : Float) :
    held (left / right) = repack (div .binary64 (held left) (held right)) :=
  rfl

theorem held_zero : held 0.0 = .zero .positive :=
  rfl

theorem held_one : held 1.0 = .finite .positive (2 ^ 52) (-52) (Nat.two_pow_pos 52) :=
  rfl

theorem held_two : held 2.0 = two :=
  rfl

/-! ### Order -/

theorem le_iff {left right : Float} :
    Scalar.le left right = true ↔ (held left).le (held right) = true := by
  change decide (left ≤ right) = true ↔ _
  rw [decide_eq_true_iff]
  change decide (left.toModel ≤ right.toModel) = true ↔ _
  rw [decide_eq_true_iff]
  rfl

theorem lt_iff {left right : Float} :
    Scalar.lt left right = true ↔ (held left).lt (held right) = true := by
  change decide (left < right) = true ↔ _
  rw [decide_eq_true_iff]
  change decide (left.toModel < right.toModel) = true ↔ _
  rw [decide_eq_true_iff]
  rfl

theorem canonical_of_held {value : Float} {sign : Sign} {mantissa : Nat} {exponent : Int}
    {positive : 0 < mantissa} (holds : held value = .finite sign mantissa exponent positive) :
    Canonical mantissa exponent :=
  (canonical_of_unpack holds).1

theorem nonNegative_iff {value : Float} :
    Scalar.le 0.0 value = true ↔ NonNegative (held value) := by
  rw [le_iff, held_zero]
  constructor
  · intro isLE
    generalize held value = number at isLE
    match number, isLE with
    | .zero sign, _ => exact .zero sign
    | .finite .positive _ _ positive, _ => exact .finite positive
    | .infinity .positive, _ => exact .infinity
  · intro nonNegative
    generalize held value = number at nonNegative
    cases nonNegative <;> rfl

/-- Comparing the other way round gives the opposite answer. -/
theorem compare_swap (left right : UnpackedFloat) :
    right.compare left = (left.compare right).map Ordering.swap := by
  rcases left with (_ | _) | _ | _ | ⟨_ | _, _, _, _⟩ <;>
    rcases right with (_ | _) | _ | _ | ⟨_ | _, _, _, _⟩ <;>
    simp [UnpackedFloat.compare, Ordering.swap_then, Int.compare_swap, Nat.compare_swap] <;> rfl

/-- Positive numbers in canonical form compare by their exponents, and then by their
mantissas. -/
theorem finite_le_iff {mantissa mantissa' : Nat} {exponent exponent' : Int}
    (positive : 0 < mantissa) (positive' : 0 < mantissa') :
    UnpackedFloat.le (.finite .positive mantissa exponent positive)
        (.finite .positive mantissa' exponent' positive') = true ↔
      exponent < exponent' ∨ exponent = exponent' ∧ mantissa ≤ mantissa' := by
  change ((compare exponent exponent').then (compare mantissa mantissa')).isLE = true ↔ _
  rcases lt_trichotomy exponent exponent' with below | same | above
  · rw [Int.compare_eq_lt.mpr below]
    simp [below]
  · rw [Int.compare_eq_eq.mpr same]
    simp [same, Nat.isLE_compare]
  · rw [Int.compare_eq_gt.mpr above]
    simp
    omega

theorem quanta_le_two_pow_iff {mantissa bits : Nat} {exponent top : Int}
    (positive : 0 < mantissa) (canonical : Canonical mantissa exponent)
    (isTop : top + 1126 = bits) (normal : -1074 < top) :
    quanta mantissa exponent ≤ 2 ^ bits ↔
      exponent < top ∨ exponent = top ∧ mantissa ≤ 2 ^ 52 := by
  have least := canonical.above
  obtain ⟨steps, isSteps⟩ := Int.eq_ofNat_of_zero_le (by omega : 0 ≤ exponent + 1074)
  constructor
  · intro bounded
    obtain ⟨power, isPower, atMost⟩ := le_two_pow_of_quanta positive least bounded
    rcases canonical.full with full | isLeast
    · have enough := (Nat.pow_le_pow_iff_right Nat.one_lt_two).mp (full.trans atMost)
      rcases Nat.lt_or_eq_of_le enough with more | same
      · left
        omega
      · right
        rw [same]
        exact ⟨by omega, atMost⟩
    · left
      omega
  · rw [quanta, isSteps, Int.toNat_natCast]
    rintro (below | ⟨same, atMost⟩)
    · have enough : 53 + steps ≤ bits := by omega
      refine (Nat.mul_le_mul_right _ canonical.fits.le).trans ?_
      rw [← Nat.pow_add]
      exact Nat.pow_le_pow_right Nat.two_pos enough
    · have enough : 52 + steps = bits := by omega
      rw [← enough, Nat.pow_add]
      exact Nat.mul_le_mul_right _ atMost

theorem unit_iff {value : Float} :
    Thresholds.inUnit value = true ↔ UpTo 1074 (held value) := by
  have isCanonical : ∀ {sign mantissa exponent positive},
      held value = .finite sign mantissa exponent positive → Canonical mantissa exponent :=
    canonical_of_held
  unfold Thresholds.inUnit
  rw [Bool.and_eq_true, nonNegative_iff, le_iff, held_one]
  generalize held value = number at isCanonical
  constructor
  · rintro ⟨nonNegative, isLE⟩
    cases nonNegative with
    | zero sign => exact .zero sign
    | finite positive =>
        have canonical := isCanonical rfl
        refine .finite positive canonical ?_
        exact (quanta_le_two_pow_iff positive canonical rfl (by decide)).mpr
          ((finite_le_iff positive _).mp isLE)
    | infinity => contradiction
  · intro upTo
    refine ⟨upTo.nonNegative, ?_⟩
    cases upTo with
    | zero sign => rfl
    | finite positive canonical bounded =>
        exact (finite_le_iff positive _).mpr
          ((quanta_le_two_pow_iff positive canonical rfl (by decide)).mp bounded)

/-! ### Counts -/

theorem roundWhole_positive {mantissa : Nat} {exponent : Int} (positive : 0 < mantissa)
    (above : -1074 ≤ exponent) (low : exponent ≤ keptExponent mantissa exponent) :
    Positive (repack (roundWithAccuracy .binary64 .positive mantissa exponent .exact)) := by
  obtain ⟨rounded, bits, isPositive, canonical, _, _, isFinite⟩ :=
    roundWhole_finite positive above low .positive
  rw [isFinite]
  exact repack_positive isPositive canonical

theorem held_ofNat_small {count : Nat} (positive : 0 < count) (small : count < 2 ^ 53) :
    held (Float.ofNat count) =
      repack (mul .binary64 (repack (round .binary64 .positive count 0)) (held 1.0)) := by
  have isCount : count.toUInt64.toNat = count := by
    rw [Nat.toUInt64, UInt64.toNat_ofNat']
    omega
  have isRounded : held count.toUInt64.toFloat = repack (round .binary64 .positive count 0) := by
    rw [← normalize_positive positive 0 .positive]
    change repack (UnpackedFloat.normalize .binary64 (count.toUInt64.toNat : Int) 0 .positive) = _
    rw [isCount]
  change held (Float.ofScientific count false 0) = _
  unfold Float.ofScientific
  rw [dif_pos ⟨small, Nat.zero_le 22⟩, ← isRounded]
  rfl

theorem ofScientific_whole {count : Nat} (positive : 0 < count) :
    ofScientific .binary64 count 0 =
      roundWithAccuracy .binary64 .positive (count * 2 ^ 53) (-53) .exact := by
  have notTiny : ¬(0 : Int) < -((2 ^ Format.exponentBits .binary64 : Int) + count.log2) := by
    change ¬(0 : Int) < -(2048 + count.log2)
    omega
  unfold ofScientific
  rw [dif_neg positive.ne', if_neg (by decide), if_neg notTiny, if_pos (le_refl 0),
    ← Nat.shiftLeft_eq, ← Nat.mul_one (count <<< 53)]
  rfl

theorem held_ofNat_large {count : Nat} (large : 2 ^ 53 ≤ count) :
    held (Float.ofNat count) =
      repack (roundWithAccuracy .binary64 .positive (count * 2 ^ 53) (-53) .exact) := by
  rw [← ofScientific_whole (by omega)]
  change held (Float.ofScientific count false 0) = _
  unfold Float.ofScientific
  rw [dif_neg (by omega)]
  rfl

theorem round_count {count : Nat} (positive : 0 < count) :
    ∃ mantissa exponent isPositive, Canonical mantissa exponent ∧ -52 ≤ exponent ∧
      round .binary64 .positive count 0 = .finite .positive mantissa exponent isPositive := by
  have keptAtLeast : -52 ≤ keptExponent count 0 := by
    unfold keptExponent totalExponent
    omega
  have keptSame := keptExponent_shifted positive 0 (0 - keptExponent count 0).toNat
  obtain ⟨mantissa, exponent, isPositive, canonical, atLeast, _, isFinite⟩ :=
    roundWhole_finite (Nat.mul_pos positive (Nat.two_pow_pos (0 - keptExponent count 0).toNat))
      (by omega) (by omega : 0 - ((0 - keptExponent count 0).toNat : Int) ≤ keptExponent _ _)
      .positive
  refine ⟨mantissa, exponent, isPositive, canonical, by omega, ?_⟩
  rw [round_eq]
  exact isFinite

/-- A count that is not zero is held as more than nothing. -/
theorem held_ofNat_positive {count : Nat} (positive : 0 < count) :
    Positive (held (Float.ofNat count)) := by
  rcases Nat.lt_or_ge count (2 ^ 53) with small | large
  · rw [held_ofNat_small positive small, held_one]
    obtain ⟨mantissa, exponent, isPositive, canonical, atLeast, isRound⟩ :=
      round_count positive
    rw [isRound, repack_canonical isPositive canonical]
    split
    · exact (repack_infinity .positive).symm ▸ .infinity
    · refine roundWhole_positive (Nat.mul_pos isPositive (Nat.two_pow_pos 52)) (by omega) ?_
      unfold keptExponent totalExponent
      rw [log2_mul_two_pow isPositive]
      omega
  · rw [held_ofNat_large large]
    refine roundWhole_positive (Nat.mul_pos positive (Nat.two_pow_pos 53)) (by omega) ?_
    unfold keptExponent totalExponent
    rw [log2_mul_two_pow positive]
    omega

/-! ### Laws -/

theorem compare_isSome {left right : UnpackedFloat} (isLeft : left.isNaN = false)
    (isRight : right.isNaN = false) : (left.compare right).isSome = true := by
  rcases left with (_ | _) | _ | _ | ⟨_ | _, _, _, _⟩ <;>
    rcases right with (_ | _) | _ | _ | ⟨_ | _, _, _, _⟩ <;>
    first | rfl | contradiction

/-- Of two numbers that are defined, one is at most the other. -/
theorem le_of_not_lt {left right : Float} (isLeft : Scalar.isNaN left = false)
    (isRight : Scalar.isNaN right = false) (notLt : Scalar.lt left right = false) :
    Scalar.le right left = true := by
  obtain ⟨order, isOrder⟩ := Option.isSome_iff_exists.mp (compare_isSome isLeft isRight)
  have notLess : ¬(held left).lt (held right) = true := by
    rw [← lt_iff, notLt]
    exact Bool.false_ne_true
  change (held left).compare (held right) = some order at isOrder
  rw [le_iff]
  unfold UnpackedFloat.le
  unfold UnpackedFloat.lt at notLess
  rw [compare_swap, isOrder]
  rw [isOrder] at notLess
  cases order <;> simp_all

theorem isNaN_of_nonNegative {value : Float} (nonNegative : NonNegative (held value)) :
    Scalar.isNaN value = false := by
  change (held value).isNaN = false
  generalize held value = number at nonNegative
  cases nonNegative <;> rfl

/-- The literals of the unit interval with two places at most are in it, and those that
are not zero are more than zero. -/
theorem literal_inUnit :
    ∀ places < 3, ∀ digits < 10 ^ places + 1,
      Thresholds.inUnit (OfScientific.ofScientific digits true places : Float) = true ∧
        (0 < digits →
          Scalar.lt 0.0 (OfScientific.ofScientific digits true places : Float) = true) := by
  decide +kernel

/-- A sum of numbers of the unit interval stays finite, however many there are. -/
theorem sum_upTo {values : List Float} (inUnits : ∀ value ∈ values, UpTo 1074 (held value))
    {total : Float} (start : UpTo (1074 + 54) (held total)) :
    UpTo (1074 + 54) (held (values.foldl (· + ·) total)) := by
  induction values generalizing total with
  | nil => exact start
  | cons value rest inductionHypothesis =>
      refine inductionHypothesis
        (fun other isOther => inUnits other (List.mem_cons_of_mem value isOther)) ?_
      have sum := add_upTo_self start (inUnits value List.mem_cons_self)
      rw [held_add, repack_upTo sum (by decide)]
      exact sum

instance : UnitArithmetic Float where
  isNaN_of_nonNegative isLE := isNaN_of_nonNegative (nonNegative_iff.mp isLE)
  le_of_not_lt := le_of_not_lt
  literal_inUnit few small :=
    (literal_inUnit _ (Nat.lt_succ_of_le few) _ (Nat.lt_succ_of_le small)).1
  literal_positive few positive small :=
    (literal_inUnit _ (Nat.lt_succ_of_le few) _ (Nat.lt_succ_of_le small)).2 positive
  add_nonNegative isLeft isRight := by
    rw [nonNegative_iff] at *
    exact repack_nonNegative (add_nonNegative isLeft isRight)
  mul_nonNegative {left _} isLeft positive isRight := by
    rw [nonNegative_iff] at *
    rw [unit_iff] at isLeft
    rw [lt_iff, held_zero] at positive
    rw [held_mul]
    apply repack_nonNegative
    generalize held left = number at isLeft positive
    cases isLeft with
    | zero sign => contradiction
    | finite isPositive => exact mul_nonNegative isPositive isRight
  mul_inUnit isLeft isRight := by
    rw [unit_iff] at *
    have product := mul_upTo isLeft isRight
    rw [held_mul, repack_upTo product (by decide)]
    exact product
  average_inUnit isLeft isRight := by
    rw [unit_iff] at *
    have sum := add_upTo_succ isLeft isRight
    have half := div_two_upTo sum
    rw [held_div, held_add, held_two, repack_upTo sum (by decide),
      repack_upTo half (by decide)]
    exact half
  mean_nonNegative {values} notEmpty inUnits := by
    rw [nonNegative_iff]
    have sum := sum_upTo (fun value isValue => unit_iff.mp (inUnits value isValue))
      (held_zero ▸ .zero .positive : UpTo (1074 + 54) (held 0.0))
    exact repack_nonNegative
      (div_nonNegative sum (held_ofNat_positive (List.length_pos_iff.mpr notEmpty)))

end Binary64

end GrowthEstimate
