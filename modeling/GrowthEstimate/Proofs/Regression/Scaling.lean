import Mathlib
import GrowthEstimate.Proofs.Number.Unit
import GrowthEstimate.Proofs.Regression.Report
import GrowthEstimate.Regression.Report

/-!
Contract: a measurement does not depend on the unit in which costs are counted.

Owns: samples, fits, diagnostics and reports with their costs multiplied by a factor, how each
step of a regression passes the factor on or loses it, and that a report on multiplied costs is
the multiplied report.

Does **not** own: samples without a cost, for which residuals are compared with a fixed number,
and what rounding makes of a factor.

The factor is lost wherever one cost is divided by another: in relative residuals, in the
relative error of a coefficient and in the quotients that outliers are judged on.  Where raw
costs are judged it reaches the fences, which move with it.  A growth function that vanishes on
all sizes has the coefficient zero here and explains nothing, so its fit never wins, as with the
undefined coefficient of doubles.
-/

set_option autoImplicit false

namespace GrowthEstimate

/-! ## Multiplied costs -/

section Scaled

variable {α : Type} [Scalar α]

def CostSample.scaled (factor : α) (sample : CostSample α) : CostSample α :=
  { sample with cost := factor * sample.cost }

theorem CostSample.costs_scaled (factor : α) (samples : List (CostSample α)) :
    (samples.map (CostSample.scaled factor)).map CostSample.cost =
      (samples.map CostSample.cost).map (factor * ·) := by
  rw [List.map_map, List.map_map]
  rfl

/-- The fit with all that is counted in costs multiplied by a factor: the coefficient, its error
and the residuals. -/
def Fit.scaled (factor : α) (fit : Fit α) : Fit α :=
  { fit with
    coefficient := factor * fit.coefficient
    standardError := factor * fit.standardError
    residuals := fit.residuals.map (factor * ·) }

/-- The diagnostics with the variance, which is counted in squares of costs, multiplied by the
square of a factor. -/
def SampleDiagnostics.scaled (factor : α) (diagnostics : SampleDiagnostics α) :
    SampleDiagnostics α :=
  { diagnostics with variance := Scalar.square factor * diagnostics.variance }

def RegressionReport.scaled (factor : α) (report : RegressionReport α) : RegressionReport α :=
  { report with
    best := report.best.map (Fit.scaled factor)
    candidates := report.candidates.map (Fit.scaled factor)
    diagnostics := report.diagnostics.scaled factor }

end Scaled

/-! ## Numbers -/

namespace Exact

section Comparisons

variable {factor : ℝ} (positive : 0 < factor) (left right : ℝ)

include positive

theorem lt_scaled : Scalar.lt (factor * left) (factor * right) = Scalar.lt left right := by
  rw [Bool.eq_iff_iff, lt_iff, lt_iff]
  exact mul_lt_mul_iff_right₀ positive

theorem le_scaled : Scalar.le (factor * left) (factor * right) = Scalar.le left right := by
  rw [Bool.eq_iff_iff, le_iff, le_iff]
  exact mul_le_mul_iff_right₀ positive

theorem precedes_scaled :
    Scalar.precedes (factor * left) (factor * right) = Scalar.precedes left right := by
  rw [Bool.eq_iff_iff, precedes_iff, precedes_iff]
  exact mul_le_mul_iff_right₀ positive

theorem larger_scaled :
    Scalar.larger (factor * left) (factor * right) = factor * Scalar.larger left right := by
  rw [larger_eq, larger_eq]
  exact (mul_max_of_nonneg left right positive.le).symm

end Comparisons

theorem sum_scaled (factor : ℝ) (values : List ℝ) :
    Scalar.sum (values.map (factor * ·)) = factor * Scalar.sum values := by
  rw [sum_eq, sum_eq, List.sum_map_mul_left, List.map_id']

theorem sum_square_scaled (factor : ℝ) (values : List ℝ) :
    Scalar.sum ((values.map (factor * ·)).map Scalar.square) =
      Scalar.square factor * Scalar.sum (values.map Scalar.square) := by
  have squares : (values.map (factor * ·)).map Scalar.square =
      (values.map Scalar.square).map (Scalar.square factor * ·) := by
    rw [List.map_map, List.map_map]
    apply List.map_congr_left
    intro value _
    exact mul_mul_mul_comm factor value factor value
  rw [squares, sum_scaled]

end Exact

/-! ## Fits -/

namespace Fit

open Exact

theorem leastSquares_scaled (factor : ℝ) (costs values : List ℝ) :
    leastSquares (costs.map (factor * ·)) values = factor * leastSquares costs values := by
  have products : (costs.map (factor * ·)).zipWith (· * ·) values =
      (costs.zipWith (· * ·) values).map (factor * ·) := by
    rw [List.zipWith_map_left, List.map_zipWith]
    simp only [mul_assoc]
  rw [leastSquares, products, sum_scaled, mul_div_assoc]
  rfl

/-- What a multiplied coefficient leaves of multiplied costs. -/
theorem residuals_scaled (factor coefficient : ℝ) (costs values : List ℝ) :
    (costs.map (factor * ·)).zipWith (fun cost value => cost - factor * coefficient * value)
        values =
      (costs.zipWith (fun cost value => cost - coefficient * value) values).map (factor * ·) := by
  rw [List.zipWith_map_left, List.map_zipWith]
  simp only [mul_assoc, mul_sub]

theorem relativeResidual_of_measured {cost : ℝ} (measured : cost ≠ 0) (residual : ℝ) :
    relativeResidual cost residual = residual / cost := by
  rw [relativeResidual, eq_zero_eq_false measured]
  rfl

theorem relativeResidual_scaled {factor cost : ℝ} (nonzero : factor ≠ 0) (measured : cost ≠ 0)
    (residual : ℝ) :
    relativeResidual (factor * cost) (factor * residual) = relativeResidual cost residual := by
  rw [relativeResidual_of_measured measured,
    relativeResidual_of_measured (mul_ne_zero nonzero measured), mul_div_mul_left _ _ nonzero]

theorem goodness_scaled {factor : ℝ} (nonzero : factor ≠ 0) {costs : List ℝ}
    (measured : ∀ cost ∈ costs, cost ≠ 0) (residuals : List ℝ) :
    goodness (costs.map (factor * ·)) (residuals.map (factor * ·)) = goodness costs residuals := by
  have sameRelative : (costs.map (factor * ·)).zipWith relativeResidual
      (residuals.map (factor * ·)) = costs.zipWith relativeResidual residuals := by
    induction costs generalizing residuals with
    | nil => rfl
    | cons cost costs inductionHypothesis =>
        obtain ⟨here, there⟩ := List.forall_mem_cons.mp measured
        cases residuals with
        | nil => rfl
        | cons residual residuals =>
            simp only [List.map_cons, List.zipWith_cons_cons]
            rw [relativeResidual_scaled nonzero here, inductionHypothesis there]
  unfold goodness
  rw [sameRelative, List.isEmpty_map, List.length_map]

theorem errorOf_scaled {factor : ℝ} (notNegative : 0 ≤ factor) (values residuals : List ℝ) :
    errorOf values (residuals.map (factor * ·)) = factor * errorOf values residuals := by
  unfold errorOf
  rw [List.length_map, sum_square_scaled]
  split
  · show Real.sqrt _ = factor * Real.sqrt _
    rw [mul_div_assoc, mul_div_assoc, Scalar.square, Real.sqrt_mul (mul_self_nonneg factor),
      Real.sqrt_mul_self notNegative]
  · rw [zero_eq, mul_zero]

/-- The relative error of a coefficient has no unit. -/
theorem confidenceOf_scaled {factor : ℝ} (positive : 0 < factor) (rSquared : ℝ) (count : Nat)
    (standardError coefficient : ℝ) :
    confidenceOf rSquared count (factor * standardError) (factor * coefficient) =
      confidenceOf rSquared count standardError coefficient := by
  have sameZero : Scalar.eq (factor * coefficient) 0.0 = Scalar.eq coefficient 0.0 := by
    rw [Bool.eq_iff_iff, eq_iff, eq_iff, zero_eq]
    simp [positive.ne']
  have sameQuotient : factor * standardError / Scalar.abs (factor * coefficient) =
      standardError / Scalar.abs coefficient := by
    show factor * standardError / |factor * coefficient| = standardError / |coefficient|
    rw [abs_mul, abs_of_pos positive, mul_div_mul_left _ _ positive.ne']
  unfold confidenceOf
  rw [sameZero, sameQuotient]

theorem ofSamples_scaled {factor : ℝ} (positive : 0 < factor) {samples : List (CostSample ℝ)}
    (measured : ∀ sample ∈ samples, sample.cost ≠ 0) (growth : GrowthClass) :
    ofSamples growth (samples.map (CostSample.scaled factor)) =
      (ofSamples growth samples).scaled factor := by
  have sameBasis : (basis growth (samples.map (CostSample.scaled factor)) : List ℝ) =
      basis growth samples := by
    rw [basis, List.map_map]
    rfl
  have costsMeasured : ∀ cost ∈ samples.map CostSample.cost, cost ≠ 0 := by
    simpa using measured
  unfold ofSamples
  simp only [sameBasis, CostSample.costs_scaled, List.length_map, leastSquares_scaled,
    residuals_scaled, goodness_scaled positive.ne' costsMeasured, errorOf_scaled positive.le,
    confidenceOf_scaled positive]
  rfl

end Fit

/-! ## Diagnostics -/

namespace SampleDiagnostics

open Exact

theorem varianceOf_scaled (factor : ℝ) (values : List ℝ) :
    varianceOf (values.map (factor * ·)) = Scalar.square factor * varianceOf values := by
  have deviations (mean : ℝ) : (values.map (factor * ·)).map
        (fun value => Scalar.square (value - factor * mean)) =
      ((values.map fun value => value - mean).map (factor * ·)).map Scalar.square := by
    simp only [List.map_map, Function.comp_def, mul_sub]
  unfold varianceOf
  rw [List.length_map, sum_scaled, mul_div_assoc]
  split
  · rw [zero_eq, mul_zero]
  · simp only [deviations]
    rw [sum_square_scaled, mul_div_assoc, List.map_map]
    rfl

theorem quartile_scaled (factor : ℝ) (ordered : List ℝ) (quarters : Nat) :
    quartile (ordered.map (factor * ·)) quarters = factor * quartile ordered quarters := by
  have entry (index : Nat) :
      (ordered.map (factor * ·)).getD index 0.0 = factor * ordered.getD index 0.0 := by
    rw [zero_eq, List.getD_eq_getElem?_getD, List.getD_eq_getElem?_getD, List.getElem?_map]
    cases ordered[index]? with
    | none => exact (mul_zero factor).symm
    | some value => rfl
  unfold quartile
  rw [List.length_map]
  simp only [entry, ← mul_sub, mul_assoc, ← mul_add]

section Positive

variable {factor : ℝ} (positive : 0 < factor)

include positive

theorem fences_scaled (values : List ℝ) :
    fences (values.map (factor * ·)) =
      (factor * (fences values).1, factor * (fences values).2) := by
  have ordered : (values.map (factor * ·)).mergeSort Scalar.precedes =
      (values.mergeSort Scalar.precedes).map (factor * ·) :=
    (List.map_mergeSort fun left _ right _ => (precedes_scaled positive left right).symm).symm
  have height (third : ℝ) : Scalar.abs (factor * third) * leastSpread =
      factor * (Scalar.abs third * leastSpread) := by
    show |factor * third| * _ = factor * (|third| * _)
    rw [abs_mul, abs_of_pos positive, mul_assoc]
  unfold fences
  simp only [ordered, quartile_scaled, height, ← mul_sub, larger_scaled positive]
  apply Prod.ext
  · ring
  · ring

theorem outliersOf_scaled (values : List ℝ) :
    outliersOf (values.map (factor * ·)) = outliersOf values := by
  unfold outliersOf
  rw [List.length_map, fences_scaled positive]
  split
  · rfl
  · simp only [List.zipIdx_map, List.filter_map, List.map_map, Function.comp_def, Prod.map,
      lt_scaled positive]
    rfl

theorem monotonicityOf_scaled (values : List ℝ) :
    monotonicityOf (values.map (factor * ·)) = monotonicityOf values := by
  have sameSteps : risingSteps (values.map (factor * ·)) = risingSteps values := by
    unfold risingSteps
    rw [← List.map_tail, List.zip_map, List.countP_map]
    simp only [Function.comp_def, Prod.map, le_scaled positive]
  unfold monotonicityOf
  rw [sameSteps, List.length_map]

theorem predictionRatios?_scaled (samples : List (CostSample ℝ)) (reference : Fit ℝ) :
    predictionRatios? (samples.map (CostSample.scaled factor)) (reference.scaled factor) =
      predictionRatios? samples reference := by
  have predicted (size : Nat) :
      (reference.scaled factor).predict size = factor * reference.predict size :=
    mul_assoc factor reference.coefficient _
  have samePositive (value : ℝ) : Scalar.lt 0.0 (factor * value) = Scalar.lt 0.0 value := by
    rw [Bool.eq_iff_iff, lt_iff, lt_iff, zero_eq]
    exact mul_pos_iff_of_pos_left positive
  unfold predictionRatios?
  rw [List.mapM_map]
  congr 1
  funext sample
  show (if Scalar.isFinite ((reference.scaled factor).predict sample.size)
      && Scalar.lt 0.0 ((reference.scaled factor).predict sample.size)
    then some (factor * sample.cost / (reference.scaled factor).predict sample.size) else none) = _
  rw [predicted, samePositive, mul_div_mul_left _ _ positive.ne']
  rfl

/-- Quotients with predictions lose the factor, raw costs keep it, and neither has other
outliers for it. -/
theorem outliersOf_judged_scaled (samples : List (CostSample ℝ)) (reference : Option (Fit ℝ)) :
    outliersOf (judged (samples.map (CostSample.scaled factor))
        (reference.map (Fit.scaled factor))) = outliersOf (judged samples reference) := by
  unfold judged
  rw [CostSample.costs_scaled]
  cases reference with
  | none => exact outliersOf_scaled positive _
  | some fit =>
      rw [Option.map_some, Option.bind_some, Option.bind_some, predictionRatios?_scaled positive]
      cases predictionRatios? samples fit with
      | none => exact outliersOf_scaled positive _
      | some ratios => rfl

theorem ofSamples_scaled (samples : List (CostSample ℝ)) (reference : Option (Fit ℝ)) :
    ofSamples (samples.map (CostSample.scaled factor)) (reference.map (Fit.scaled factor)) =
      (ofSamples samples reference).scaled factor := by
  unfold ofSamples
  simp only [CostSample.costs_scaled, varianceOf_scaled, outliersOf_judged_scaled positive,
    monotonicityOf_scaled positive]
  rfl

end Positive

end SampleDiagnostics

/-! ## Reports -/

namespace CostSample

open Exact

theorem sorted_scaled {factor : ℝ} (positive : 0 < factor) (samples : List (CostSample ℝ)) :
    sorted (samples.map (scaled factor)) = (sorted samples).map (scaled factor) := by
  refine (List.map_mergeSort fun left _ right _ => ?_).symm
  show sizeCostLE left right =
    if left.size = right.size then Scalar.precedes (factor * left.cost) (factor * right.cost)
    else _
  rw [precedes_scaled positive]
  rfl

theorem sorted_measured {samples : List (CostSample ℝ)}
    (measured : ∀ sample ∈ samples, sample.cost ≠ 0) :
    ∀ sample ∈ sorted samples, sample.cost ≠ 0 :=
  fun sample isSample => measured sample (List.mem_mergeSort.mp isSample)

end CostSample

namespace RegressionReport

/-- Fits compete by their scores alone, so a change that keeps the scores moves the winner. -/
theorem select_map {α : Type} [Scalar α] (change : Fit α → Fit α)
    (sameScore : ∀ fit, (change fit).compositeScore = fit.compositeScore)
    (sameSelectable : ∀ fit, (change fit).selectable = fit.selectable)
    (candidates : List (Fit α)) :
    select (candidates.map change) = (select candidates).map change := by
  have kept : (candidates.map change).filter Fit.selectable =
      (candidates.filter Fit.selectable).map change := by
    rw [List.filter_map]
    congr 2
    funext fit
    exact sameSelectable fit
  have changed (incumbent : Option (Fit α)) (challenger : Fit α) :
      challenge (incumbent.map change) (change challenger) =
        (challenge incumbent challenger).map change := by
    cases incumbent with
    | none => rfl
    | some current =>
        show (if Scalar.le (change challenger).compositeScore _ then _ else _) = _
        rw [sameScore, sameScore, challenge]
        split <;> rfl
  unfold select
  rw [kept, List.foldl_map]
  show List.foldl _ (Option.map change none) _ = _
  apply List.foldl_hom
  exact changed

theorem advisoriesOn_scaled (factor : ℝ) (best : Option (Fit ℝ))
    (diagnostics : SampleDiagnostics ℝ) :
    advisoriesOn (best.map (Fit.scaled factor)) (diagnostics.scaled factor) =
      advisoriesOn best diagnostics := by
  cases best with
  | none => rfl
  | some fit => rfl

theorem ofSamples_scaled {factor : ℝ} (positive : 0 < factor) {samples : List (CostSample ℝ)}
    (measured : ∀ sample ∈ samples, sample.cost ≠ 0) :
    ofSamples (samples.map (CostSample.scaled factor)) =
      (ofSamples samples).map (scaled factor) := by
  have sameFits : (GrowthClass.canonical.map fun growth =>
        Fit.ofSamples growth ((CostSample.sorted samples).map (CostSample.scaled factor))) =
      (GrowthClass.canonical.map fun growth =>
        Fit.ofSamples growth (CostSample.sorted samples)).map (Fit.scaled factor) := by
    rw [List.map_map]
    apply List.map_congr_left
    intro growth _
    exact Fit.ofSamples_scaled positive (CostSample.sorted_measured measured) growth
  have selected (candidates : List (Fit ℝ)) :
      select (candidates.map (Fit.scaled factor)) =
        (select candidates).map (Fit.scaled factor) :=
    select_map (Fit.scaled factor) (fun _ => rfl) (fun _ => rfl) candidates
  unfold ofSamples
  rw [List.length_map, CostSample.sorted_scaled positive]
  split
  · rfl
  · simp only [sameFits, selected, SampleDiagnostics.ofSamples_scaled positive,
      advisoriesOn_scaled, List.length_map]
    rfl

end RegressionReport

namespace GrowthChange

theorem halfFit?_scaled {factor : ℝ} (positive : 0 < factor) {half : List (CostSample ℝ)}
    (measured : ∀ sample ∈ half, sample.cost ≠ 0) :
    halfFit? (half.map (CostSample.scaled factor)) = halfFit? half := by
  unfold halfFit?
  rw [RegressionReport.ofSamples_scaled positive measured]
  cases RegressionReport.ofSamples half with
  | error count => rfl
  | ok report =>
      show (report.best.map (Fit.scaled factor)).map _ = report.best.map _
      rw [Option.map_map]
      rfl

/-- Both halves of multiplied samples are multiplied halves, and what is compared of their
fits has no unit. -/
theorem ofSamples_scaled {factor : ℝ} (positive : 0 < factor) {samples : List (CostSample ℝ)}
    (measured : ∀ sample ∈ samples, sample.cost ≠ 0) :
    ofSamples (samples.map (CostSample.scaled factor)) = ofSamples samples := by
  have sortedMeasured := CostSample.sorted_measured measured
  have sameLower (middle : Nat) :
      halfFit? (((CostSample.sorted samples).take middle).map (CostSample.scaled factor)) =
        halfFit? ((CostSample.sorted samples).take middle) :=
    halfFit?_scaled positive fun sample isLower =>
      sortedMeasured sample (List.mem_of_mem_take isLower)
  have sameUpper (middle : Nat) :
      halfFit? (((CostSample.sorted samples).drop middle).map (CostSample.scaled factor)) =
        halfFit? ((CostSample.sorted samples).drop middle) :=
    halfFit?_scaled positive fun sample isUpper =>
      sortedMeasured sample (List.mem_of_mem_drop isUpper)
  have samePoint (upper : List (CostSample ℝ)) :
      (upper.map (CostSample.scaled factor)).head?.map CostSample.size =
        upper.head?.map CostSample.size := by
    rw [List.head?_map, Option.map_map]
    rfl
  unfold ofSamples
  simp only [CostSample.sorted_scaled positive, List.length_map, ← List.map_take,
    ← List.map_drop, sameLower, sameUpper, samePoint]

end GrowthChange

/-- A report does not depend on the unit of costs.  If no cost is zero, multiplying all costs by
a positive factor multiplies coefficients, their errors and residuals by it and the variance by
its square; classes, scores, confidences, outliers, advisories and whether the growth changes
stay as they are. -/
theorem regression_scaled {factor : ℝ} (positive : 0 < factor) {samples : List (CostSample ℝ)}
    (enough : 3 ≤ samples.length) (measured : ∀ sample ∈ samples, sample.cost ≠ 0) :
    ∃ report, RegressionReport.ofSamples samples = .ok report ∧
      RegressionReport.ofSamples (samples.map (CostSample.scaled factor)) =
        .ok (report.scaled factor) ∧
      (report.scaled factor).bestClass = report.bestClass ∧
      GrowthChange.ofSamples (samples.map (CostSample.scaled factor)) =
        GrowthChange.ofSamples samples := by
  obtain ⟨report, reported⟩ := RegressionReport.ofSamples_of_enough enough
  refine ⟨report, reported, ?_, ?_, GrowthChange.ofSamples_scaled positive measured⟩
  · rw [RegressionReport.ofSamples_scaled positive measured, reported]
    rfl
  · show ((report.best.map (Fit.scaled factor)).map Fit.growth).getD _ = _
    rw [Option.map_map]
    rfl

/-- Four samples counted in halves: a size measured twice, a size below one and a negative
cost. -/
theorem regression_scaled_halves :
    let samples : List (CostSample ℝ) :=
      [⟨20, 7, 1, 1⟩, ⟨0, 4, 1, 1⟩, ⟨10, -2, 3, 1⟩, ⟨10, 5, 1, 2⟩]
    (0 : ℝ) < 1 / 2 ∧ 3 ≤ samples.length ∧ (∀ sample ∈ samples, sample.cost ≠ 0) ∧
      ∃ report, RegressionReport.ofSamples samples = .ok report ∧
        RegressionReport.ofSamples (samples.map (CostSample.scaled (1 / 2))) =
          .ok (report.scaled (1 / 2)) ∧
        (report.scaled (1 / 2)).bestClass = report.bestClass ∧
        GrowthChange.ofSamples (samples.map (CostSample.scaled (1 / 2))) =
          GrowthChange.ofSamples samples := by
  intro samples
  have positive : (0 : ℝ) < 1 / 2 := by norm_num
  have enough : 3 ≤ samples.length := by decide
  have measured : ∀ sample ∈ samples, sample.cost ≠ 0 := by
    simp [samples]
  exact ⟨positive, enough, measured, regression_scaled positive enough measured⟩

end GrowthEstimate
