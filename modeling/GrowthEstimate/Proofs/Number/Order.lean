import Mathlib
import GrowthEstimate.Number.Binary64
import GrowthEstimate.Proofs.Number.Line

/-!
Contract: the order in which numbers are sorted, and the order of confidences in the unit interval.

Owns: the laws that make sorting a linear order, and that the doubles obey them, the undefined one
and the two zeros included; the laws `UnitOrder`, their consequences for choosing the smaller of two
values, and the laws of exact numbers and of doubles.

Does **not** own: which results stay in the unit interval (`Proofs.Number.Unit`).
-/

set_option autoImplicit false

namespace GrowthEstimate

/-! ## The order of sorting -/

/-- Numbers that sorting puts into one order only: any two are ordered, and two that come
before each other are the same. -/
class LinearPrecedence (α : Type) [Scalar α] : Prop where
  total (left right : α) :
    Scalar.precedes left right = true ∨ Scalar.precedes right left = true
  trans {left middle right : α} : Scalar.precedes left middle = true →
    Scalar.precedes middle right = true → Scalar.precedes left right = true
  antisymm {left right : α} : Scalar.precedes left right = true →
    Scalar.precedes right left = true → left = right

namespace Binary64

theorem and_signBit_eq_zero_iff (bits : UInt64) :
    bits &&& signBit = 0 ↔ bits.toNat < 2 ^ 63 := by
  have masked : (bits &&& signBit).toNat = 2 ^ 63 * (bits.toNat / 2 ^ 63 % 2) := by
    rw [UInt64.toNat_and]
    change bits.toNat &&& 2 ^ 63 = _
    rw [Nat.and_two_pow, Nat.toNat_testBit, Nat.mul_comm]
  have small := bits.toNat_lt
  rw [← UInt64.toNat_inj, masked]
  change 2 ^ 63 * (bits.toNat / 2 ^ 63 % 2) = 0 ↔ _
  omega

/-- The key turns the patterns with the sign bit around and puts them below the others. -/
theorem orderKey_toNat (bits : UInt64) :
    (orderKey bits).toNat =
      if bits.toNat < 2 ^ 63 then bits.toNat + 2 ^ 63 else 2 ^ 64 - 1 - bits.toNat := by
  unfold orderKey
  simp only [beq_iff_eq, and_signBit_eq_zero_iff]
  split
  · next isPositive =>
    have disjoint := Nat.two_pow_add_eq_or_of_lt isPositive 1
    rw [Nat.mul_one] at disjoint
    rw [UInt64.toNat_or, Nat.or_comm]
    change 2 ^ 63 ||| bits.toNat = _
    rw [← disjoint, Nat.add_comm]
  · exact UInt64.toNat_not bits

theorem orderKey_injective {left right : UInt64} (same : orderKey left = orderKey right) :
    left = right := by
  have keys := congrArg UInt64.toNat same
  rw [orderKey_toNat, orderKey_toNat] at keys
  have leftSmall := left.toNat_lt
  have rightSmall := right.toNat_lt
  apply UInt64.toNat_inj.mp
  split at keys <;> split at keys <;> omega

instance : LinearPrecedence Float where
  total left right := by
    simp only [Scalar.precedes, precedes, decide_eq_true_eq]
    exact UInt64.le_total _ _
  trans := by
    intro left middle right first second
    simp only [Scalar.precedes, precedes, decide_eq_true_eq] at first second ⊢
    exact UInt64.le_trans first second
  antisymm := by
    intro left right first second
    simp only [Scalar.precedes, precedes, decide_eq_true_eq] at first second
    exact Float.toBits_inj.mp (orderKey_injective (UInt64.le_antisymm first second))

end Binary64

/-! ## The order of confidences

Doubles between zero and one compare as the whole multiples of the least double that they
are.  A product with a number that is at most one is rounded, but never past the other
factor, because that factor is a double itself. -/

open Thresholds (inUnit)

/-- The comparisons are one total order on the unit interval, in which a product is at most
its first factor. -/
class UnitOrder (α : Type) [Scalar α] : Prop extends UnitArithmetic α where
  le_total {left right : α} : inUnit left = true → inUnit right = true →
    Scalar.le left right = true ∨ Scalar.le right left = true
  le_trans {left middle right : α} : inUnit left = true → inUnit middle = true →
    inUnit right = true → Scalar.le left middle = true → Scalar.le middle right = true →
    Scalar.le left right = true
  lt_iff_not_le {left right : α} : inUnit left = true → inUnit right = true →
    (Scalar.lt left right = true ↔ Scalar.le right left = false)
  mul_le_left {left right : α} : inUnit left = true → inUnit right = true →
    Scalar.le (left * right) left = true

/-- The value is one of those listed and at most each of them. -/
def Scalar.IsLeastOf {α : Type} [Scalar α] (values : List α) (value : α) : Prop :=
  value ∈ values ∧ ∀ other ∈ values, Scalar.le value other = true

namespace UnitOrder

variable {α : Type} [Scalar α] [UnitOrder α] {left middle right : α}

theorem le_refl (isUnit : inUnit left = true) : Scalar.le left left = true :=
  (le_total isUnit isUnit).elim id id

theorem le_of_lt (isLeft : inUnit left = true) (isRight : inUnit right = true)
    (isLess : Scalar.lt left right = true) : Scalar.le left right = true := by
  have notLE := (lt_iff_not_le isLeft isRight).mp isLess
  rcases le_total isLeft isRight with isLE | isLE
  · exact isLE
  · rw [notLE] at isLE
    contradiction

theorem lt_of_le_of_lt (isLeft : inUnit left = true) (isMiddle : inUnit middle = true)
    (isRight : inUnit right = true) (first : Scalar.le left middle = true)
    (second : Scalar.lt middle right = true) : Scalar.lt left right = true := by
  rw [lt_iff_not_le isLeft isRight]
  rw [lt_iff_not_le isMiddle isRight] at second
  by_contra isLE
  rw [Bool.not_eq_false] at isLE
  rw [le_trans isRight isLeft isMiddle isLE first] at second
  contradiction

omit [UnitOrder α] in
theorem smaller_eq_or (left right : α) :
    Scalar.smaller left right = left ∨ Scalar.smaller left right = right := by
  unfold Scalar.smaller
  split
  · exact Or.inr rfl
  · exact Or.inl rfl

theorem smaller_le_left (isLeft : inUnit left = true) (isRight : inUnit right = true) :
    Scalar.le (Scalar.smaller left right) left = true := by
  unfold Scalar.smaller
  rw [UnitArithmetic.isNaN_of_inUnit isLeft, Bool.false_or]
  split
  · next isLess => exact le_of_lt isRight isLeft isLess
  · exact le_refl isLeft

theorem smaller_le_right (isLeft : inUnit left = true) (isRight : inUnit right = true) :
    Scalar.le (Scalar.smaller left right) right = true := by
  unfold Scalar.smaller
  rw [UnitArithmetic.isNaN_of_inUnit isLeft, Bool.false_or]
  split
  · exact le_refl isRight
  · next notLess =>
      exact UnitArithmetic.le_of_not_lt (UnitArithmetic.isNaN_of_inUnit isRight)
        (UnitArithmetic.isNaN_of_inUnit isLeft) (Bool.eq_false_iff.mpr notLess)

/-- A value of the unit interval is clamped to itself. -/
theorem clampUnit_of_inUnit (isUnit : inUnit left = true) : Scalar.clampUnit left = left := by
  obtain ⟨nonNegative, atMostOne⟩ := Bool.and_eq_true_iff.mp isUnit
  have notBelow : ¬Scalar.lt left 0.0 = true := by
    rw [lt_iff_not_le isUnit UnitArithmetic.zero_inUnit, nonNegative]
    exact Bool.noConfusion
  have notAbove : ¬Scalar.lt 1.0 left = true := by
    rw [lt_iff_not_le UnitArithmetic.one_inUnit isUnit, atMostOne]
    exact Bool.noConfusion
  rw [Scalar.clampUnit, Scalar.clamp, if_neg notBelow, if_neg notAbove]

theorem isLeastOf_singleton (isUnit : inUnit left = true) : Scalar.IsLeastOf [left] left :=
  ⟨List.mem_cons_self, by simpa using le_refl isUnit⟩

/-- The least of some values and of one more is the smaller of that value and the least of
the others. -/
theorem isLeastOf_append {values : List α} {least other : α}
    (isLeast : Scalar.IsLeastOf values least) (units : ∀ value ∈ values, inUnit value = true)
    (isUnit : inUnit other = true) :
    Scalar.IsLeastOf (values ++ [other]) (Scalar.smaller least other) := by
  have leastUnit := units least isLeast.1
  have smallerUnit := UnitArithmetic.smaller_inUnit leastUnit isUnit
  constructor
  · rcases smaller_eq_or least other with isFirst | isSecond
    · rw [isFirst]
      exact List.mem_append_left _ isLeast.1
    · rw [isSecond]
      exact List.mem_append_right _ List.mem_cons_self
  · intro value isValue
    rcases List.mem_append.mp isValue with isListed | isOther
    · exact le_trans smallerUnit leastUnit (units value isListed)
        (smaller_le_left leastUnit isUnit) (isLeast.2 value isListed)
    · rw [List.mem_singleton.mp isOther]
      exact smaller_le_right leastUnit isUnit

end UnitOrder

instance : UnitOrder ℝ where
  le_total {left right} _ _ := by
    rw [Exact.le_iff, Exact.le_iff]
    exact le_total left right
  le_trans _ _ _ first second := by
    rw [Exact.le_iff] at *
    exact first.trans second
  lt_iff_not_le _ _ := by
    rw [← Bool.not_eq_true, Exact.lt_iff, Exact.le_iff, not_le]
  mul_le_left isLeft isRight := by
    rw [Thresholds.inUnit_iff] at *
    rw [Exact.le_iff]
    exact mul_le_of_le_one_right isLeft.1 isRight.2

/-! ### Doubles -/

namespace Binary64

open Float.Model (UnpackedFloat Format totalExponent)
open Float.Model.UnpackedFloat

/-- How often the least positive double goes into what is held. -/
def heldQuanta : UnpackedFloat → Nat
  | .finite _ mantissa exponent _ => quanta mantissa exponent
  | _ => 0

section Products

variable {mantissa mantissa' : Nat} {exponent exponent' : Int}

/-- A product with a number that is at most one is not kept as more than the other factor. -/
theorem quanta_product_le (canonical : Canonical mantissa exponent)
    (canonical' : Canonical mantissa' exponent') (positive : 0 < mantissa)
    (positive' : 0 < mantissa') (bounded : quanta mantissa exponent ≤ 2 ^ 1074)
    (bounded' : quanta mantissa' exponent' ≤ 2 ^ 1074) :
    quanta (kept (mantissa * mantissa') 1 (exponent + exponent'))
        (keptExponent (mantissa * mantissa') (exponent + exponent')) ≤
      quanta mantissa exponent := by
  have above := canonical.above
  obtain ⟨power, isPower, atMost⟩ := le_two_pow_of_quanta positive' canonical'.above bounded'
  have atMostZero := exponent_le_of_quanta positive bounded
  have low := product_low canonical canonical' (by omega) (by omega)
  have notAbove : keptExponent (mantissa * mantissa') (exponent + exponent') ≤ exponent := by
    have bits : mantissa.log2 ≤ 52 :=
      Nat.le_of_lt_succ (log2_lt_of_lt canonical.fits (by decide))
    have productBits : (mantissa * mantissa').log2 ≤ mantissa.log2 + power := by
      rw [← log2_mul_two_pow positive power, Nat.log2_eq_log_two, Nat.log2_eq_log_two]
      exact Nat.log_mono_right (Nat.mul_le_mul_left mantissa atMost)
    unfold keptExponent totalExponent
    omega
  obtain ⟨dropped, isDropped⟩ : ∃ dropped, dropped =
      (keptExponent (mantissa * mantissa') (exponent + exponent')
        - (exponent + exponent')).toNat := ⟨_, rfl⟩
  have fewer : dropped ≤ power := by omega
  have bound : kept (mantissa * mantissa') 1 (exponent + exponent') ≤
      mantissa * 2 ^ (power - dropped) := by
    unfold kept
    rw [Nat.div_one, ← isDropped]
    apply roundedMantissa_le_of_lt
    have whole : mantissa * mantissa' ≤ 2 ^ dropped * (mantissa * 2 ^ (power - dropped)) := by
      rw [Nat.mul_left_comm, ← Nat.pow_add, Nat.add_sub_cancel' fewer]
      exact Nat.mul_le_mul_left mantissa atMost
    have step := Nat.two_pow_pos dropped
    rw [Nat.one_mul, Nat.mul_add, Nat.mul_left_comm (2 ^ dropped) 2]
    omega
  refine (Nat.mul_le_mul_right _ bound).trans (Nat.le_of_eq ?_)
  unfold quanta
  rw [Nat.mul_assoc, ← Nat.pow_add]
  congr 2
  have := le_keptExponent (mantissa * mantissa') (exponent + exponent')
  omega

end Products

theorem heldQuanta_mul_le {left right : UnpackedFloat} (isLeft : UpTo 1074 left)
    (isRight : UpTo 1074 right) : heldQuanta (mul .binary64 left right) ≤ heldQuanta left := by
  cases isLeft with
  | zero sign =>
      cases isRight with
      | zero sign' => exact Nat.le_refl 0
      | finite positive => exact Nat.le_refl 0
  | @finite mantissa exponent positive canonical bounded =>
      cases isRight with
      | zero sign' => exact Nat.zero_le _
      | @finite mantissa' exponent' positive' canonical' bounded' =>
          have atMost := quanta_product_le canonical canonical' positive positive' bounded bounded'
          have low : exponent + exponent' ≤
              keptExponent (mantissa * mantissa') (exponent + exponent') := by
            have := exponent_le_of_quanta positive bounded
            have := exponent_le_of_quanta positive' bounded'
            exact product_low canonical canonical' (by omega) (by omega)
          change heldQuanta (roundWithAccuracy .binary64 .positive (mantissa * mantissa')
            (exponent + exponent') .exact) ≤ quanta mantissa exponent
          rcases roundWhole_shape low .positive with
            ⟨_, isZero⟩ | ⟨_, _, _, _, _, same, isFinite⟩
          · rw [isZero]
            exact Nat.zero_le _
          · rw [isFinite]
            exact same.trans_le atMost

theorem place_eq_heldQuanta {bits : Nat} {number : UnpackedFloat} (upTo : UpTo bits number) :
    place number = heldQuanta number := by
  cases upTo <;> rfl

/-- Confidences compare as the multiples of the least double that they are. -/
theorem unit_le_iff {left right : Float} (isLeft : Thresholds.inUnit left = true)
    (isRight : Thresholds.inUnit right = true) :
    Scalar.le left right = true ↔ heldQuanta (held left) ≤ heldQuanta (held right) := by
  rw [le_iff_place (UnitArithmetic.isNaN_of_inUnit isLeft) (UnitArithmetic.isNaN_of_inUnit isRight)]
  rw [unit_iff] at isLeft isRight
  rw [place_eq_heldQuanta isLeft, place_eq_heldQuanta isRight, Int.ofNat_le]

instance : UnitOrder Float where
  le_total isLeft isRight := by
    rw [unit_le_iff isLeft isRight, unit_le_iff isRight isLeft]
    exact Nat.le_total _ _
  le_trans isLeft isMiddle isRight first second := by
    rw [unit_le_iff isLeft isMiddle] at first
    rw [unit_le_iff isMiddle isRight] at second
    rw [unit_le_iff isLeft isRight]
    exact first.trans second
  lt_iff_not_le isLeft isRight :=
    lt_iff_not_le (UnitArithmetic.isNaN_of_inUnit isLeft) (UnitArithmetic.isNaN_of_inUnit isRight)
  mul_le_left isLeft isRight := by
    have isProduct := UnitArithmetic.mul_inUnit isLeft isRight
    rw [unit_le_iff isProduct isLeft]
    rw [unit_iff] at isLeft isRight
    rw [held_mul, repack_upTo (mul_upTo isLeft isRight) (by decide)]
    exact heldQuanta_mul_le isLeft isRight

end Binary64

end GrowthEstimate
