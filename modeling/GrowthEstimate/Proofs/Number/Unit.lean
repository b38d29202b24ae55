import Mathlib
import GrowthEstimate.Number.Binary64
import GrowthEstimate.Settings.Thresholds

/-!
Contract: exact numbers, and what numbers must do for confidences to stay in the unit interval.

Owns: the `Scalar` instance for the reals, what its comparisons decide, what the derived operations
are on reals, and that the standard thresholds are accepted; the laws `UnitArithmetic`, their
consequences for clamping, for choosing the smaller of two values and for means, and the laws of
exact numbers.

Does **not** own: the laws of doubles, which `Proofs.Number.Interval` proves.
-/

set_option autoImplicit false

namespace GrowthEstimate

/-! ## Exact numbers

A real need not have a finite decimal text and has no next value below it.  Texts that
should read back keep seventeen places, and the next value below a real is the real
itself. -/

namespace Exact

/-- The natural number nearest to a real that is not negative, a half going to the even
neighbour. -/
noncomputable def nearestEven (value : ℝ) : Nat :=
  let low := ⌊value⌋₊
  if 2 * (value - low) < 1 then low
  else if 1 < 2 * (value - low) then low + 1
  else if low % 2 = 0 then low else low + 1

/-- The decimal text with a fixed number of places. -/
noncomputable def decimalText (places : Nat) (value : ℝ) : String :=
  let units := nearestEven (|value| * 10 ^ places)
  let whole := Decimal.padded 1 (units / Decimal.tenTo places)
  let text :=
    if places = 0 then whole
    else whole ++ "." ++ Decimal.padded places (units % Decimal.tenTo places)
  if value < 0 then "-" ++ text else text

noncomputable instance : Scalar ℝ where
  ofCount count := count
  lt left right := decide (left < right)
  le left right := decide (left ≤ right)
  eq left right := decide (left = right)
  isNaN _ := false
  isFinite _ := true
  precedes left right := decide (left ≤ right)
  abs value := |value|
  sqrt value := Real.sqrt value
  log2 value := Real.logb 2 value
  exp2 value := 2 ^ value
  undefined := 0
  justBelow value := value
  fixedText := decimalText
  plainText := decimalText 17
  markedText? value := some (decimalText 17 value)

@[simp] theorem lt_iff {left right : ℝ} : Scalar.lt left right = true ↔ left < right :=
  decide_eq_true_iff

@[simp] theorem le_iff {left right : ℝ} : Scalar.le left right = true ↔ left ≤ right :=
  decide_eq_true_iff

@[simp] theorem eq_iff {left right : ℝ} : Scalar.eq left right = true ↔ left = right :=
  decide_eq_true_iff

@[simp] theorem precedes_iff {left right : ℝ} :
    Scalar.precedes left right = true ↔ left ≤ right :=
  decide_eq_true_iff

/-! ### Derived operations -/

theorem zero_eq : (0.0 : ℝ) = 0 := by
  norm_num

theorem eq_zero_eq_false {value : ℝ} (nonzero : value ≠ 0) : Scalar.eq value 0.0 = false := by
  rw [← Bool.not_eq_true, eq_iff, zero_eq]
  exact nonzero

theorem larger_eq (left right : ℝ) : Scalar.larger left right = max left right := by
  rw [max_def_lt]
  simp [Scalar.larger, Scalar.isNaN]

theorem smaller_eq (left right : ℝ) : Scalar.smaller left right = min left right := by
  rw [min_comm, min_def_lt]
  simp [Scalar.smaller, Scalar.isNaN]

theorem clampUnit_eq (value : ℝ) : Scalar.clampUnit value = max 0 (min value 1) := by
  unfold Scalar.clampUnit Scalar.clamp
  simp only [lt_iff]
  norm_num
  split_ifs with below above
  · rw [min_eq_left (by linarith), max_eq_left below.le]
  · rw [min_eq_right above.le, max_eq_right zero_le_one]
  · rw [min_eq_left (not_lt.mp above), max_eq_right (not_lt.mp below)]

theorem sum_eq (values : List ℝ) : Scalar.sum values = values.sum := by
  rw [Scalar.sum, zero_eq, List.sum_eq_foldl]

end Exact

namespace Thresholds

theorem inUnit_iff {value : ℝ} : inUnit value = true ↔ 0 ≤ value ∧ value ≤ 1 := by
  simp only [inUnit, Bool.and_eq_true, Exact.le_iff]
  norm_num

/-- Thresholds are accepted if those of the unit interval lie in it and the steps do not
cross. -/
theorem fault?_eq_none {thresholds : Thresholds ℝ} :
    thresholds.fault? = none ↔
      (∀ field ∈ thresholds.unitFields, 0 ≤ field.2 ∧ field.2 ≤ 1)
        ∧ thresholds.mediumSteps ≤ thresholds.conflictSteps := by
  have noneOutside :
      (thresholds.unitFields.find? fun (_, value) => !inUnit value) = none ↔
        ∀ field ∈ thresholds.unitFields, 0 ≤ field.2 ∧ field.2 ≤ 1 := by
    simp [List.find?_eq_none, inUnit_iff]
  rw [← noneOutside]
  unfold fault?
  split
  · next outside => simp [outside]
  · next inside => simp [inside]

/-- The standard thresholds pass their own check. -/
theorem standard_fault? : (standard : Thresholds ℝ).fault? = none := by
  refine fault?_eq_none.mpr ⟨?_, by decide⟩
  intro field isField
  simp only [unitFields, standard, List.mem_cons, List.not_mem_nil, or_false] at isField
  rcases isField with rfl | rfl | rfl | rfl | rfl | rfl <;> norm_num

end Thresholds

/-! ## The unit interval

The laws ask little, because doubles round: they say which results are defined and which
stay in the interval, and nothing about their exact values. -/

open Thresholds (inUnit)

/-- Arithmetic that does not lead out of the unit interval where exact arithmetic does
not. -/
class UnitArithmetic (α : Type) [Scalar α] : Prop where
  isNaN_of_nonNegative {value : α} : Scalar.le 0.0 value = true → Scalar.isNaN value = false
  le_of_not_lt {left right : α} : Scalar.isNaN left = false → Scalar.isNaN right = false →
    Scalar.lt left right = false → Scalar.le right left = true
  literal_inUnit {digits places : Nat} : places ≤ 2 → digits ≤ 10 ^ places →
    inUnit (OfScientific.ofScientific digits true places : α) = true
  literal_positive {digits places : Nat} : places ≤ 2 → 0 < digits → digits ≤ 10 ^ places →
    Scalar.lt 0.0 (OfScientific.ofScientific digits true places : α) = true
  add_nonNegative {left right : α} : Scalar.le 0.0 left = true → Scalar.le 0.0 right = true →
    Scalar.le 0.0 (left + right) = true
  mul_nonNegative {left right : α} : inUnit left = true → Scalar.lt 0.0 left = true →
    Scalar.le 0.0 right = true → Scalar.le 0.0 (left * right) = true
  mul_inUnit {left right : α} : inUnit left = true → inUnit right = true →
    inUnit (left * right) = true
  average_inUnit {left right : α} : inUnit left = true → inUnit right = true →
    inUnit ((left + right) / 2.0) = true
  mean_nonNegative {values : List α} : values ≠ [] → (∀ value ∈ values, inUnit value = true) →
    Scalar.le 0.0 (Scalar.sum values / Scalar.ofCount values.length) = true

namespace UnitArithmetic

variable {α : Type} [Scalar α]

theorem nonNegative_of_inUnit {value : α} (isUnit : inUnit value = true) :
    Scalar.le 0.0 value = true :=
  (Bool.and_eq_true_iff.mp isUnit).1

variable [UnitArithmetic α]

theorem zero_inUnit : inUnit (0.0 : α) = true :=
  literal_inUnit (by decide) (by decide)

theorem one_inUnit : inUnit (1.0 : α) = true :=
  literal_inUnit (by decide) (by decide)

theorem isNaN_of_inUnit {value : α} (isUnit : inUnit value = true) :
    Scalar.isNaN value = false :=
  isNaN_of_nonNegative (nonNegative_of_inUnit isUnit)

/-- A value that is defined is clamped into the unit interval. -/
theorem clampUnit_inUnit {value : α} (isDefined : Scalar.isNaN value = false) :
    inUnit (Scalar.clampUnit value) = true := by
  unfold Scalar.clampUnit Scalar.clamp
  split
  · exact zero_inUnit
  · next notBelow =>
    split
    · exact one_inUnit
    · next notAbove =>
      rw [Bool.not_eq_true] at notBelow notAbove
      exact Bool.and_eq_true_iff.mpr
        ⟨le_of_not_lt isDefined (isNaN_of_inUnit zero_inUnit) notBelow,
          le_of_not_lt (isNaN_of_inUnit one_inUnit) isDefined notAbove⟩

omit [UnitArithmetic α] in
theorem smaller_inUnit {left right : α} (isLeft : inUnit left = true)
    (isRight : inUnit right = true) : inUnit (Scalar.smaller left right) = true := by
  unfold Scalar.smaller
  split
  · exact isRight
  · exact isLeft

/-- The mean of values of the unit interval is not negative, and hence defined. -/
theorem mean?_nonNegative {values : List α} (inUnits : ∀ value ∈ values, inUnit value = true)
    {mean : α} (isMean : Scalar.mean? values = some mean) : Scalar.le 0.0 mean = true := by
  unfold Scalar.mean? at isMean
  split at isMean
  · contradiction
  · next notEmpty =>
    rw [← Option.some.inj isMean]
    exact mean_nonNegative (by simpa using notEmpty) inUnits

end UnitArithmetic

/-! ### Exact numbers -/

namespace Exact

theorem literal_eq (digits places : Nat) :
    (OfScientific.ofScientific digits true places : ℝ) = digits / 10 ^ places := by
  have isRational : (OfScientific.ofScientific digits true places : ℚ) = digits / 10 ^ places := by
    change Rat.ofScientific digits true places = _
    rw [Rat.ofScientific_true_def, Rat.mkRat_eq_div]
    push_cast
    rfl
  rw [← Rat.cast_ofScientific (K := ℝ), isRational]
  push_cast
  rfl

theorem nonNegative_iff {value : ℝ} : Scalar.le 0.0 value = true ↔ 0 ≤ value := by
  rw [le_iff]
  norm_num

theorem sum_nonNegative {values : List ℝ} (nonNegative : ∀ value ∈ values, 0 ≤ value)
    {total : ℝ} (start : 0 ≤ total) : 0 ≤ values.foldl (· + ·) total := by
  induction values generalizing total with
  | nil => exact start
  | cons value rest inductionHypothesis =>
      exact inductionHypothesis
        (fun other isOther => nonNegative other (List.mem_cons_of_mem value isOther))
        (add_nonneg start (nonNegative value List.mem_cons_self))

end Exact

instance : UnitArithmetic ℝ where
  isNaN_of_nonNegative _ := rfl
  le_of_not_lt _ _ notLt := by
    rw [Exact.le_iff]
    rw [← Bool.not_eq_true, Exact.lt_iff] at notLt
    exact not_lt.mp notLt
  literal_inUnit _ small := by
    rw [Thresholds.inUnit_iff, Exact.literal_eq]
    refine ⟨by positivity, (div_le_one (by positivity)).mpr ?_⟩
    exact_mod_cast small
  literal_positive _ positive _ := by
    rw [Exact.lt_iff, Exact.zero_eq, Exact.literal_eq]
    exact div_pos (Nat.cast_pos.mpr positive) (by positivity)
  add_nonNegative isLeft isRight := by
    rw [Exact.nonNegative_iff] at *
    exact add_nonneg isLeft isRight
  mul_nonNegative isLeft _ isRight := by
    rw [Thresholds.inUnit_iff] at isLeft
    rw [Exact.nonNegative_iff] at *
    exact mul_nonneg isLeft.1 isRight
  mul_inUnit isLeft isRight := by
    rw [Thresholds.inUnit_iff] at *
    exact ⟨mul_nonneg isLeft.1 isRight.1, mul_le_one₀ isLeft.2 isRight.1 isRight.2⟩
  average_inUnit isLeft isRight := by
    rw [Thresholds.inUnit_iff] at *
    norm_num
    constructor <;> linarith
  mean_nonNegative {values} _ inUnits := by
    rw [Exact.nonNegative_iff]
    refine div_nonneg (Exact.sum_nonNegative ?_ (by norm_num)) (Nat.cast_nonneg values.length)
    intro value isValue
    exact (Thresholds.inUnit_iff.mp (inUnits value isValue)).1

end GrowthEstimate
