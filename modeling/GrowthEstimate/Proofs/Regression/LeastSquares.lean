import GrowthEstimate.Proofs.Regression.ExactCosts
import GrowthEstimate.Proofs.Verdict.Decision

/-!
Contract: the fit of a class to any samples, in exact numbers.

Owns: the squared error of a coefficient, that a fit has the one coefficient of least error, and
the intervals that the marks of a fit lie in.

Does **not** own: which fit wins, and the fit to costs that follow a class
(`Proofs.Regression.ExactCosts`).

The squared error is a parabola in the coefficient.  Its square is completed at the coefficient
of the fit, because what the fit leaves of the costs is orthogonal to the growth function.
-/

set_option autoImplicit false

namespace GrowthEstimate

theorem GrowthClass.simplicity_inUnit (growth : GrowthClass) :
    (0 : ℝ) ≤ growth.simplicity ∧ (growth.simplicity : ℝ) ≤ 1 := by
  unfold simplicity position?
  by_cases known : growth.isKnown
  · have few : growth.rank ≤ 8 := by
      revert known
      cases growth <;> decide
    have rank : (growth.rank : ℝ) ≤ 8 := by exact_mod_cast few
    have notNegative : (0 : ℝ) ≤ growth.rank := Nat.cast_nonneg _
    rw [if_pos known]
    show (0 : ℝ) ≤ 1.0 - (growth.rank : ℝ) / 8.0 ∧ 1.0 - (growth.rank : ℝ) / 8.0 ≤ 1
    norm_num
    constructor <;> linarith
  · rw [if_neg known]
    norm_num

namespace Fit

open Exact

/-! ## The squared error -/

/-- The sum of the squares of what a coefficient leaves of the costs. -/
noncomputable def squaredError (growth : GrowthClass) (samples : List (CostSample ℝ))
    (coefficient : ℝ) : ℝ :=
  (samples.map fun sample => (sample.cost - predicted coefficient growth sample.size) ^ 2).sum

section Samples

variable (growth : GrowthClass) (samples : List (CostSample ℝ))

theorem ofSamples_residuals :
    (ofSamples growth samples).residuals =
      samples.map fun sample => sample.cost - (ofSamples growth samples).predict sample.size := by
  show (samples.map CostSample.cost).zipWith (fun cost value => cost - _ * value)
    (samples.map fun sample => growth.evaluateAt sample.size) = _
  rw [List.zipWith_map, List.zipWith_self]
  rfl

theorem basis_squares :
    (basis growth samples : List ℝ).map Scalar.square =
      samples.map fun sample => (growth.evaluateAt sample.size : ℝ) ^ 2 := by
  rw [basis, List.map_map]
  apply List.map_congr_left
  intro sample _
  exact (sq _).symm

theorem ofSamples_coefficient :
    (ofSamples growth samples).coefficient =
      (samples.map fun sample => sample.cost * growth.evaluateAt sample.size).sum /
        (samples.map fun sample => (growth.evaluateAt sample.size : ℝ) ^ 2).sum := by
  have products : (samples.map CostSample.cost).zipWith (· * ·) (basis growth samples) =
      samples.map fun sample => sample.cost * growth.evaluateAt sample.size := by
    rw [basis, List.zipWith_map, List.zipWith_self]
  show leastSquares (samples.map CostSample.cost) (basis growth samples) = _
  rw [leastSquares, products, basis_squares, sum_eq, sum_eq]

variable {growth samples}
variable (nonzero : ∃ sample ∈ samples, (growth.evaluateAt sample.size : ℝ) ≠ 0)

include nonzero

theorem sum_basis_square_pos :
    0 < (samples.map fun sample => (growth.evaluateAt sample.size : ℝ) ^ 2).sum := by
  obtain ⟨sample, isSample, notZero⟩ := nonzero
  rw [← basis_squares, ← sum_eq]
  exact sum_square_pos ⟨_, List.mem_map_of_mem isSample, notZero⟩

/-- What the fit leaves of the costs is orthogonal to the growth function. -/
theorem sum_residual_basis :
    (samples.map fun sample =>
      (sample.cost - (ofSamples growth samples).predict sample.size)
        * growth.evaluateAt sample.size).sum = 0 := by
  have positive := sum_basis_square_pos nonzero
  have expanded (sample : CostSample ℝ) :
      (sample.cost - (ofSamples growth samples).predict sample.size)
          * growth.evaluateAt sample.size =
        sample.cost * growth.evaluateAt sample.size
          + -(ofSamples growth samples).coefficient
            * (growth.evaluateAt sample.size : ℝ) ^ 2 := by
    show (_ - (ofSamples growth samples).coefficient * growth.evaluateAt sample.size) * _ = _
    ring
  simp only [expanded]
  rw [List.sum_map_add, List.sum_map_mul_left, neg_mul, ofSamples_coefficient,
    div_mul_cancel₀ _ positive.ne', add_neg_cancel]

/-- The error of any coefficient is that of the fit and a square more. -/
theorem squaredError_eq (coefficient : ℝ) :
    squaredError growth samples coefficient =
      squaredError growth samples (ofSamples growth samples).coefficient
        + (coefficient - (ofSamples growth samples).coefficient) ^ 2
          * (samples.map fun sample => (growth.evaluateAt sample.size : ℝ) ^ 2).sum := by
  have expanded (sample : CostSample ℝ) :
      (sample.cost - predicted coefficient growth sample.size) ^ 2 =
        (sample.cost - (ofSamples growth samples).predict sample.size) ^ 2
          + ((coefficient - (ofSamples growth samples).coefficient) ^ 2
              * (growth.evaluateAt sample.size : ℝ) ^ 2
            + -2 * (coefficient - (ofSamples growth samples).coefficient)
              * ((sample.cost - (ofSamples growth samples).predict sample.size)
                * growth.evaluateAt sample.size)) := by
    show (_ - coefficient * growth.evaluateAt sample.size) ^ 2 =
      (_ - (ofSamples growth samples).coefficient * growth.evaluateAt sample.size) ^ 2
        + (_ + _ * ((_ - (ofSamples growth samples).coefficient
          * growth.evaluateAt sample.size) * _))
    ring
  unfold squaredError
  simp only [expanded]
  rw [List.sum_map_add, List.sum_map_add, List.sum_map_mul_left, List.sum_map_mul_left,
    sum_residual_basis nonzero, mul_zero, add_zero]
  rfl

end Samples

/-! ## Least squares -/

/-- The fit has the one coefficient of least squared error, and its residuals are what that
coefficient leaves. -/
structure IsLeastSquares (fit : Fit ℝ) (samples : List (CostSample ℝ)) : Prop where
  least : ∀ coefficient, squaredError fit.growth samples fit.coefficient ≤
    squaredError fit.growth samples coefficient
  unique : ∀ coefficient, squaredError fit.growth samples coefficient ≤
    squaredError fit.growth samples fit.coefficient → coefficient = fit.coefficient
  residuals : fit.residuals = samples.map fun sample => sample.cost - fit.predict sample.size
  orthogonal : (fit.residuals.zipWith (· * ·) (basis fit.growth samples)).sum = 0

/-- The marks of a fit lie where they should, and it may be selected as soon as it explains
anything. -/
structure IsMarked (fit : Fit ℝ) : Prop where
  rSquared : 0 ≤ fit.rSquared ∧ fit.rSquared ≤ 1
  confidence : 0 ≤ fit.confidence ∧ fit.confidence ≤ 1
  compositeScore : 0 ≤ fit.compositeScore ∧ fit.compositeScore ≤ 1
  standardError : 0 ≤ fit.standardError
  pValue : fit.pValue ∈ [0.001, 0.01, 0.05, 0.1, 0.5]
  selectable : fit.selectable = true ↔ 0 < fit.rSquared

theorem ofSamples_isLeastSquares {growth : GrowthClass} {samples : List (CostSample ℝ)}
    (nonzero : ∃ sample ∈ samples, (growth.evaluateAt sample.size : ℝ) ≠ 0) :
    (ofSamples growth samples).IsLeastSquares samples := by
  have positive := sum_basis_square_pos nonzero
  constructor
  case least =>
    intro coefficient
    show squaredError growth samples _ ≤ squaredError growth samples coefficient
    rw [squaredError_eq nonzero coefficient]
    exact le_add_of_nonneg_right (mul_nonneg (sq_nonneg _) positive.le)
  case unique =>
    intro coefficient notGreater
    change squaredError growth samples coefficient ≤ squaredError growth samples _ at notGreater
    rw [squaredError_eq nonzero coefficient] at notGreater
    have noMore := nonpos_of_mul_nonpos_left (add_le_iff_nonpos_right _ |>.mp notGreater) positive
    have noDistance := pow_eq_zero_iff two_ne_zero |>.mp (le_antisymm noMore (sq_nonneg _))
    exact sub_eq_zero.mp noDistance
  case residuals => exact ofSamples_residuals growth samples
  case orthogonal =>
    rw [ofSamples_residuals, basis, List.zipWith_map, List.zipWith_self]
    exact sum_residual_basis nonzero

/-! ## Marks -/

theorem pValueOf_mem (statistic? : Option ℝ) :
    pValueOf statistic? ∈ [0.001, 0.01, 0.05, 0.1, (0.5 : ℝ)] := by
  cases statistic? with
  | none => simp [pValueOf]
  | some statistic =>
      simp only [pValueOf]
      split_ifs <;> simp

theorem pValueOf_inUnit (statistic? : Option ℝ) :
    0 ≤ pValueOf statistic? ∧ pValueOf statistic? ≤ 1 := by
  have listed := pValueOf_mem statistic?
  simp only [List.mem_cons, List.not_mem_nil, or_false] at listed
  rcases listed with is | is | is | is | is <;> rw [is] <;> norm_num

/-- The weights of a score add up to one, so a score of marks in the unit interval lies in it. -/
theorem compositeOf_inUnit (growth : GrowthClass) {rSquared confidence pValue : ℝ}
    (good : 0 ≤ rSquared ∧ rSquared ≤ 1) (confident : 0 ≤ confidence ∧ confidence ≤ 1)
    (significant : 0 ≤ pValue ∧ pValue ≤ 1) :
    0 ≤ compositeOf growth rSquared confidence pValue ∧
      compositeOf growth rSquared confidence pValue ≤ 1 := by
  obtain ⟨notNegative, atMostOne⟩ := growth.simplicity_inUnit
  unfold compositeOf
  norm_num
  constructor <;> linarith

theorem ofSamples_isMarked (growth : GrowthClass) (samples : List (CostSample ℝ)) :
    (ofSamples growth samples).IsMarked := by
  have confidenceInUnit := Thresholds.inUnit_iff.mp
    (confidenceOf_inUnit (ofSamples growth samples).rSquared samples.length
      (ofSamples growth samples).standardError (ofSamples growth samples).coefficient)
  constructor
  case rSquared => exact goodness_inUnit _ _
  case confidence => exact confidenceInUnit
  case compositeScore =>
    exact compositeOf_inUnit growth (goodness_inUnit _ _) confidenceInUnit (pValueOf_inUnit _)
  case standardError => exact errorOf_notNegative _ _
  case pValue => exact pValueOf_mem _
  case selectable =>
    -- a real is always finite
    show Scalar.lt 0.0 (ofSamples growth samples).rSquared = true ↔ _
    rw [lt_iff, zero_eq]

/-- A fit is a least-squares fit.  If the growth function does not vanish on all sizes, the
coefficient is the one of least squared error, and what it leaves of the costs is orthogonal to
the growth function.  Whatever the costs are, the goodness of fit, the confidence and the score
lie in the unit interval, the error is not negative, the p-value is one of five, and the fit may
be selected if and only if it explains anything. -/
theorem ofSamples_fits {growth : GrowthClass} {samples : List (CostSample ℝ)}
    (nonzero : ∃ sample ∈ samples, (growth.evaluateAt sample.size : ℝ) ≠ 0) :
    (ofSamples growth samples).growth = growth ∧
      (ofSamples growth samples).IsLeastSquares samples ∧ (ofSamples growth samples).IsMarked :=
  ⟨rfl, ofSamples_isLeastSquares nonzero, ofSamples_isMarked growth samples⟩

/-- A logarithm, which vanishes on the first size, fitted to no cost, to a negative one and to
two costs of one size. -/
theorem ofSamples_fits_log :
    let samples : List (CostSample ℝ) := [⟨1, 2, 1, 1⟩, ⟨4, 0, 1, 1⟩, ⟨8, -3, 1, 1⟩, ⟨8, 5, 2, 1⟩]
    (∃ sample ∈ samples, (GrowthClass.log.evaluateAt sample.size : ℝ) ≠ 0) ∧
      (ofSamples .log samples).growth = .log ∧ (ofSamples .log samples).IsLeastSquares samples ∧
      (ofSamples .log samples).IsMarked := by
  intro samples
  have nonzero : ∃ sample ∈ samples, (GrowthClass.log.evaluateAt sample.size : ℝ) ≠ 0 := by
    refine ⟨⟨4, 0, 1, 1⟩, by simp [samples], ?_⟩
    show Real.logb 2 (Scalar.larger ((4 : Nat) : ℝ) 1.0) ≠ 0
    rw [larger_eq]
    exact (Real.logb_pos one_lt_two (by norm_num)).ne'
  exact ⟨nonzero, ofSamples_fits nonzero⟩

end Fit

end GrowthEstimate
