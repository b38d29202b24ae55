import GrowthEstimate.Proofs.Number.Unit
import GrowthEstimate.Proofs.Regression.Scaling
import GrowthEstimate.Proofs.Regression.Report

/-!
Contract: costs that follow a class exactly are never taken for those of a class that grows
faster.

Owns: the fit of a class to costs that are a multiple of its growth function, the highest score
that any fit of a class may have, how the selection treats a candidate that no later one
exceeds, and the class and the change that exact costs are reported with.

Does **not** own: which class wins among those that do not grow faster, and costs with noise.

A slower class may win by right: growth functions coincide on small and on capped sizes.
-/

set_option autoImplicit false

namespace GrowthEstimate

/-! ## Numbers -/

namespace Exact

theorem clampUnit_mono {left right : ℝ} (below : left ≤ right) :
    Scalar.clampUnit left ≤ Scalar.clampUnit right := by
  rw [clampUnit_eq, clampUnit_eq]
  exact max_le_max le_rfl (min_le_min_right 1 below)

theorem sum_square_pos {values : List ℝ} (nonzero : ∃ value ∈ values, value ≠ 0) :
    0 < Scalar.sum (values.map Scalar.square) := by
  obtain ⟨value, isValue, notZero⟩ := nonzero
  have notNegative : ∀ square ∈ values.map Scalar.square, 0 ≤ square := by
    intro square isSquare
    obtain ⟨other, -, rfl⟩ := List.mem_map.mp isSquare
    exact mul_self_nonneg other
  rw [sum_eq]
  calc 0 < value * value := mul_self_pos.mpr notZero
    _ ≤ (values.map Scalar.square).sum :=
      List.single_le_sum notNegative _ (List.mem_map_of_mem isValue)

theorem sum_square_of_none (count : Nat) :
    Scalar.sum ((List.replicate count (0 : ℝ)).map Scalar.square) = 0 := by
  rw [List.map_replicate, sum_eq, List.sum_replicate, Scalar.square, mul_zero, smul_zero]

end Exact

namespace GrowthClass

theorem simplicity_antitone {growth other : GrowthClass} (known : other.isKnown = true)
    (below : growth ≤ other) : (other.simplicity : ℝ) ≤ growth.simplicity := by
  have growthKnown : growth.isKnown = true := below.1.trans known
  have ranks : (growth.rank : ℝ) ≤ other.rank := Nat.cast_le.mpr below.2
  unfold simplicity position?
  rw [if_pos known, if_pos growthKnown]
  show 1.0 - (other.rank : ℝ) / 8.0 ≤ 1.0 - (growth.rank : ℝ) / 8.0
  have eighths : (growth.rank : ℝ) / 8.0 ≤ other.rank / 8.0 :=
    div_le_div_of_nonneg_right ranks (by norm_num)
  linarith

end GrowthClass

/-! ## What a fit may score -/

namespace Fit

open Exact

theorem goodness_inUnit (costs residuals : List ℝ) :
    0 ≤ goodness costs residuals ∧ goodness costs residuals ≤ 1 := by
  unfold goodness
  split
  · rw [zero_eq]
    exact ⟨le_rfl, zero_le_one⟩
  · rw [clampUnit_eq]
    exact ⟨le_max_left _ _, max_le zero_le_one (min_le_right _ _)⟩

theorem errorOf_notNegative (values residuals : List ℝ) : 0 ≤ errorOf values residuals := by
  unfold errorOf
  split
  · exact Real.sqrt_nonneg _
  · exact zero_eq.ge

theorem countAdjustment_notNegative (count : Nat) : (0 : ℝ) ≤ countAdjustment count := by
  unfold countAdjustment
  split_ifs <;> norm_num

theorem least_le_pValueOf (statistic? : Option ℝ) : 0.001 ≤ pValueOf statistic? := by
  cases statistic? with
  | none => exact le_rfl
  | some statistic =>
      simp only [pValueOf]
      split_ifs <;> norm_num

/-- No fit of a number of samples is more confident than their number allows. -/
theorem confidenceOf_le {rSquared standardError : ℝ} (inUnit : 0 ≤ rSquared ∧ rSquared ≤ 1)
    (notNegative : 0 ≤ standardError) (count : Nat) (coefficient : ℝ) :
    confidenceOf rSquared count standardError coefficient ≤
      Scalar.clampUnit (countAdjustment count) := by
  unfold confidenceOf
  extract_lets relativeError confidence
  have errorNotNegative : 0 ≤ relativeError := by
    show 0 ≤ if !Scalar.eq coefficient 0.0 then
      Scalar.smaller (standardError / |coefficient|) 0.5 else 0.5
    split
    · rw [smaller_eq]
      exact le_min (div_nonneg notNegative (abs_nonneg coefficient)) (by norm_num)
    · norm_num
  have adjusted : (0 : ℝ) ≤ countAdjustment count := countAdjustment_notNegative count
  have diminishes : 1.0 - relativeError ≤ 1 := by
    norm_num
    exact errorNotNegative
  have confidenceBounded : confidence ≤ countAdjustment count :=
    calc rSquared * countAdjustment count * (1.0 - relativeError)
        ≤ rSquared * countAdjustment count :=
          mul_le_of_le_one_right (mul_nonneg inUnit.1 adjusted) diminishes
      _ ≤ countAdjustment count := mul_le_of_le_one_left adjusted inUnit.2
  exact clampUnit_mono confidenceBounded

/-- The fit that leaves nothing of the costs. -/
noncomputable def perfect (growth : GrowthClass) (factor : ℝ) (count : Nat) : Fit ℝ :=
  { growth
    coefficient := factor
    rSquared := 1
    standardError := 0
    pValue := 0.001
    residuals := List.replicate count 0
    confidence := Scalar.clampUnit (countAdjustment count)
    compositeScore := compositeOf growth 1 (Scalar.clampUnit (countAdjustment count)) 0.001
    selectable := true }

theorem compositeOf_mono {growth other : GrowthClass} (known : other.isKnown = true)
    (below : growth ≤ other) {rSquared confidence pValue rSquared' confidence' pValue' : ℝ}
    (good : rSquared ≤ rSquared') (confident : confidence ≤ confidence')
    (significant : pValue' ≤ pValue) :
    compositeOf other rSquared confidence pValue ≤
      compositeOf growth rSquared' confidence' pValue' := by
  have simpler := GrowthClass.simplicity_antitone known below
  unfold compositeOf
  norm_num
  linarith

/-- Whatever the samples are, no fit scores more than the perfect fit of a class that does not
grow faster. -/
theorem compositeScore_le_perfect {growth other : GrowthClass} (known : other.isKnown = true)
    (below : growth ≤ other) (factor : ℝ) (samples : List (CostSample ℝ)) :
    (ofSamples other samples).compositeScore ≤
      (perfect growth factor samples.length).compositeScore :=
  compositeOf_mono known below (goodness_inUnit _ _).2
    (confidenceOf_le (goodness_inUnit _ _) (errorOf_notNegative _ _) samples.length _)
    (least_le_pValueOf _)

end Fit

/-! ## Exact costs -/

/-- Each cost is the factor times what the class grows to at the size. -/
def CostSample.Follow (growth : GrowthClass) (factor : ℝ) (samples : List (CostSample ℝ)) :
    Prop :=
  ∀ sample ∈ samples, sample.cost = factor * growth.evaluateAt sample.size

theorem CostSample.Follow.sorted {growth : GrowthClass} {factor : ℝ}
    {samples : List (CostSample ℝ)} (follow : Follow growth factor samples) :
    Follow growth factor (CostSample.sorted samples) :=
  fun sample isSample => follow sample (List.mem_mergeSort.mp isSample)

namespace Fit

open Exact

theorem leastSquares_of_multiple (factor : ℝ) {values : List ℝ}
    (nonzero : ∃ value ∈ values, value ≠ 0) :
    leastSquares (values.map (factor * ·)) values = factor := by
  have own : leastSquares values values = 1 := by
    unfold leastSquares
    rw [List.zipWith_self]
    exact div_self (sum_square_pos nonzero).ne'
  rw [leastSquares_scaled, own, mul_one]

theorem residuals_of_multiple (factor : ℝ) (values : List ℝ) :
    (values.map (factor * ·)).zipWith (fun cost value => cost - factor * value) values =
      List.replicate values.length 0 := by
  rw [List.zipWith_map_left, List.zipWith_self]
  simp only [sub_self]
  exact List.map_const'

/-- Nothing left of a cost is nothing, also in relation to no cost. -/
theorem relativeResidual_of_none (cost : ℝ) : relativeResidual cost 0 = 0 := by
  have isNegligible : Scalar.lt (Scalar.abs (0 : ℝ)) negligible = true := by
    rw [lt_iff]
    show |(0 : ℝ)| < 1.0 / ((Nat.pow 2 52 : Nat) : ℝ)
    rw [abs_zero]
    exact div_pos (by norm_num) (Nat.cast_pos.mpr (Nat.two_pow_pos 52))
  unfold relativeResidual
  rw [isNegligible, zero_div]
  split
  · rfl
  · exact zero_eq

theorem goodness_of_none {costs : List ℝ} (notEmpty : costs ≠ []) :
    goodness costs (List.replicate costs.length 0) = 1 := by
  have noRelative : costs.zipWith relativeResidual (List.replicate costs.length 0) =
      List.replicate costs.length 0 := by
    rw [← List.map_const', List.zipWith_map_right, List.zipWith_self]
    simp only [relativeResidual_of_none]
  unfold goodness
  rw [noRelative, if_neg (by simpa using notEmpty)]
  show Scalar.clampUnit (1.0 - Scalar.sum _ / _) = 1
  rw [sum_square_of_none, zero_div, clampUnit_eq]
  norm_num

theorem errorOf_of_none (values : List ℝ) (count : Nat) :
    errorOf values (List.replicate count 0) = 0 := by
  unfold errorOf
  split
  · rw [sum_square_of_none, zero_div, zero_div]
    exact Real.sqrt_zero
  · exact zero_eq

theorem pValueOf_of_perfect (count : Nat) : pValueOf (fStatistic? (1 : ℝ) count) = 0.001 := by
  unfold fStatistic?
  rw [if_pos (by rw [le_iff]; norm_num)]
  rfl

theorem confidenceOf_of_perfect {coefficient : ℝ} (nonzero : coefficient ≠ 0) (count : Nat) :
    confidenceOf 1 count 0 coefficient = Scalar.clampUnit (countAdjustment count) := by
  have noError : Scalar.smaller (0 / Scalar.abs coefficient) 0.5 = 0 := by
    rw [smaller_eq, zero_div]
    norm_num
  have undiminished : 1 * countAdjustment count * (1.0 - (0 : ℝ)) = countAdjustment count := by
    norm_num
  unfold confidenceOf
  rw [eq_zero_eq_false nonzero]
  simp only [Bool.not_false, if_true, noError, undiminished]
  rfl

/-- The fit of a class to costs that follow it is perfect. -/
theorem ofSamples_of_follow {growth : GrowthClass} {factor : ℝ} (positive : 0 < factor)
    {samples : List (CostSample ℝ)} (follow : CostSample.Follow growth factor samples)
    (measured : ∃ sample ∈ samples, sample.cost ≠ 0) :
    ofSamples growth samples = perfect growth factor samples.length := by
  have costs : samples.map CostSample.cost = (basis growth samples).map (factor * ·) := by
    rw [basis, List.map_map]
    exact List.map_congr_left follow
  have basisLength : (basis growth samples : List ℝ).length = samples.length :=
    List.length_map _
  have nonzero : ∃ value ∈ (basis growth samples : List ℝ), value ≠ 0 := by
    obtain ⟨sample, isSample, costNonzero⟩ := measured
    refine ⟨growth.evaluateAt sample.size, List.mem_map_of_mem isSample, ?_⟩
    rw [follow sample isSample] at costNonzero
    exact right_ne_zero_of_mul costNonzero
  have costsNotEmpty : (basis growth samples : List ℝ).map (factor * ·) ≠ [] := by
    obtain ⟨value, isValue, -⟩ := nonzero
    exact List.ne_nil_of_mem (List.mem_map_of_mem isValue)
  have good := goodness_of_none costsNotEmpty
  rw [List.length_map, basisLength] at good
  unfold ofSamples
  simp only [costs, leastSquares_of_multiple factor nonzero, residuals_of_multiple, basisLength,
    good, errorOf_of_none, pValueOf_of_perfect, confidenceOf_of_perfect positive.ne']
  have aboveNone : Scalar.lt 0.0 (1 : ℝ) = true := by
    rw [lt_iff, zero_eq]
    exact zero_lt_one
  rw [aboveNone]
  rfl

end Fit

/-! ## The selection -/

namespace RegressionReport

open Exact

/-- If no later candidate scores more than one that may win, that one or one before it wins. -/
theorem select_of_leader (before : List (Fit ℝ)) {after : List (Fit ℝ)} {leader : Fit ℝ}
    (mayWin : leader.selectable = true)
    (leads : ∀ fit ∈ after, fit.compositeScore ≤ leader.compositeScore) :
    ∃ best, select (before ++ leader :: after) = some best ∧
      (best ∈ before ∨ best = leader) := by
  have finite : ∀ fit ∈ before ++ leader :: after, fit.selectable = true →
      Scalar.isFinite fit.compositeScore = true := fun _ _ _ => rfl
  rcases select_cases finite with ⟨-, noneMay⟩ | ⟨best, isBest, wins⟩
  · rw [noneMay leader (List.mem_append_right before List.mem_cons_self)] at mayWin
    contradiction
  · refine ⟨best, isBest, ?_⟩
    obtain ⟨early, late, split, isAhead⟩ := wins.first
    rcases List.append_eq_append_iff.mp split with ⟨gap, isEarly, isRest⟩ | ⟨gap, isBefore, isRest⟩
    · cases gap with
      | nil => exact Or.inr (List.cons.inj isRest).1.symm
      | cons first others =>
          -- a winner behind the leader would have a higher score
          obtain ⟨rfl, rfl⟩ := List.cons.inj isRest
          have lower := isAhead leader (isEarly ▸ List.mem_append_right _ List.mem_cons_self) mayWin
          have notHigher := leads best (List.mem_append_right _ List.mem_cons_self)
          exact absurd notHigher (not_le.mpr (lt_iff.mp lower))
    · cases gap with
      | nil => exact Or.inr (List.cons.inj isRest).1
      | cons first others =>
          left
          rw [isBefore, (List.cons.inj isRest).1]
          exact List.mem_append_right early List.mem_cons_self

/-! ## Reports and changes -/

theorem select_of_follow {growth : GrowthClass} (isCanonical : growth ∈ GrowthClass.canonical)
    {factor : ℝ} (positive : 0 < factor) {samples : List (CostSample ℝ)}
    (follow : CostSample.Follow growth factor samples)
    (measured : ∃ sample ∈ samples, sample.cost ≠ 0) :
    ∃ best, select (GrowthClass.canonical.map fun candidate => Fit.ofSamples candidate samples) =
      some best ∧ best.growth ≤ growth := by
  -- candidates stand in the order of growth, so a winner before the exact one is no fault
  obtain ⟨slower, faster, split⟩ := List.append_of_mem isCanonical
  have ascending := GrowthClass.canonical_ascending
  rw [split, List.pairwise_append] at ascending
  have leader := Fit.ofSamples_of_follow positive follow measured
  have leads : ∀ fit ∈ faster.map (Fit.ofSamples · samples),
      fit.compositeScore ≤ (Fit.ofSamples growth samples).compositeScore := by
    intro fit isFit
    obtain ⟨other, isFaster, rfl⟩ := List.mem_map.mp isFit
    have known : other.isKnown = true := by
      apply GrowthClass.isKnown_of_canonical
      rw [split]
      exact List.mem_append_right slower (List.mem_cons_of_mem growth isFaster)
    rw [leader]
    exact Fit.compositeScore_le_perfect known
      ((List.pairwise_cons.mp ascending.2.1).1 other isFaster) factor samples
  have mayWin : (Fit.ofSamples growth samples).selectable = true := by
    rw [leader]
    rfl
  obtain ⟨best, selected, origin⟩ :=
    select_of_leader (slower.map (Fit.ofSamples · samples)) mayWin leads
  refine ⟨best, ?_, ?_⟩
  · rw [split, List.map_append, List.map_cons]
    exact selected
  · rcases origin with fromSlower | isLeader
    · obtain ⟨other, isSlower, rfl⟩ := List.mem_map.mp fromSlower
      exact ascending.2.2 other isSlower growth List.mem_cons_self
    · rw [isLeader]
      exact le_refl growth

/-- Exact costs have a report, in which a class wins that does not grow faster. -/
theorem ofSamples_of_follow {growth : GrowthClass} (isCanonical : growth ∈ GrowthClass.canonical)
    {factor : ℝ} (positive : 0 < factor) {samples : List (CostSample ℝ)}
    (enough : CostSample.fewest ≤ samples.length) (follow : CostSample.Follow growth factor samples)
    (measured : ∃ sample ∈ samples, sample.cost ≠ 0) :
    ∃ report best, ofSamples samples = .ok report ∧
      (∀ fit, fit ∈ report.candidates ∧ fit.growth = growth ↔
        fit = Fit.perfect growth factor samples.length) ∧
      report.best = some best ∧ best.growth ≤ growth := by
  have sortedMeasured : ∃ sample ∈ CostSample.sorted samples, sample.cost ≠ 0 := by
    obtain ⟨sample, isSample, nonzero⟩ := measured
    exact ⟨sample, List.mem_mergeSort.mpr isSample, nonzero⟩
  have fitted : Fit.ofSamples growth (CostSample.sorted samples) =
      Fit.perfect growth factor samples.length := by
    rw [Fit.ofSamples_of_follow positive follow.sorted sortedMeasured, CostSample.sorted,
      List.length_mergeSort]
  obtain ⟨best, selected, notFaster⟩ :=
    select_of_follow isCanonical positive follow.sorted sortedMeasured
  unfold ofSamples
  rw [if_neg (Nat.not_lt.mpr enough)]
  refine ⟨_, best, rfl, ?_, selected, notFaster⟩
  intro fit
  constructor
  · rintro ⟨isCandidate, isGrowth⟩
    obtain ⟨other, -, rfl⟩ := List.mem_map.mp isCandidate
    have same : other = growth := isGrowth
    rw [same, fitted]
  · intro isPerfect
    rw [isPerfect, ← fitted]
    exact ⟨List.mem_map_of_mem isCanonical, rfl⟩

end RegressionReport

namespace GrowthChange

/-- Whatever half of constant costs is fitted, it is fitted with a constant. -/
theorem halfFit?_of_constant {factor : ℝ} (positive : 0 < factor) {half : List (CostSample ℝ)}
    (follow : CostSample.Follow .const factor half) {fit : HalfFit ℝ}
    (isFit : halfFit? half = some fit) : fit.growth = .const := by
  by_cases enough : CostSample.fewest ≤ half.length
  · have measured : ∃ sample ∈ half, sample.cost ≠ 0 := by
      have notEmpty : 0 < half.length := Nat.lt_of_lt_of_le (by decide) enough
      obtain ⟨sample, isSample⟩ := List.exists_mem_of_length_pos notEmpty
      refine ⟨sample, isSample, ?_⟩
      rw [follow sample isSample]
      show factor * 1.0 ≠ 0
      norm_num
      exact positive.ne'
    obtain ⟨report, best, reported, -, isBest, notFaster⟩ :=
      RegressionReport.ofSamples_of_follow (by decide) positive enough follow measured
    rw [halfFit?, reported] at isFit
    simp only [isBest, Option.map_some] at isFit
    rw [← Option.some.inj isFit]
    exact le_antisymm notFaster (GrowthClass.const_le notFaster.1)
  · rw [halfFit?, RegressionReport.ofSamples, if_pos (Nat.lt_of_not_le enough)] at isFit
    contradiction

theorem hasChange_of_constant {factor : ℝ} (positive : 0 < factor)
    {samples : List (CostSample ℝ)} (follow : CostSample.Follow .const factor samples) :
    (ofSamples samples).hasChange = false := by
  unfold ofSamples
  extract_lets ordered middle upper
  split
  · next before after isBefore isAfter =>
    have lowerFollow : CostSample.Follow .const factor (ordered.take middle) :=
      fun sample isLower => follow.sorted sample (List.mem_of_mem_take isLower)
    have upperFollow : CostSample.Follow .const factor upper :=
      fun sample isUpper => follow.sorted sample (List.mem_of_mem_drop isUpper)
    show (before.growth != after.growth && _ && _) = false
    rw [halfFit?_of_constant positive lowerFollow isBefore,
      halfFit?_of_constant positive upperFollow isAfter]
    rfl
  · rfl

end GrowthChange

/-- A regression never over-estimates exact costs.  If all costs are one positive multiple of
the growth function of a class and not all are zero, the class has the perfect fit, and a class
wins that does not grow faster; constant costs are found constant and without a change. -/
theorem regression_of_exactCosts {growth : GrowthClass}
    (isCanonical : growth ∈ GrowthClass.canonical) {factor : ℝ} (positive : 0 < factor)
    {samples : List (CostSample ℝ)} (enough : 3 ≤ samples.length)
    (follow : CostSample.Follow growth factor samples)
    (measured : ∃ sample ∈ samples, sample.cost ≠ 0) :
    ∃ report best, RegressionReport.ofSamples samples = .ok report ∧
      (∀ fit, fit ∈ report.candidates ∧ fit.growth = growth ↔
        fit = Fit.perfect growth factor samples.length) ∧
      report.best = some best ∧ best.growth ≤ growth ∧
      (growth = .const →
        report.bestClass = .const ∧ (GrowthChange.ofSamples samples).hasChange = false) := by
  obtain ⟨report, best, reported, candidate, isBest, notFaster⟩ :=
    RegressionReport.ofSamples_of_follow isCanonical positive enough follow measured
  refine ⟨report, best, reported, candidate, isBest, notFaster, ?_⟩
  rintro rfl
  constructor
  · have constant : best.growth = .const :=
      le_antisymm notFaster (GrowthClass.const_le notFaster.1)
    rw [RegressionReport.bestClass, isBest, Option.map_some, constant]
    rfl
  · exact GrowthChange.hasChange_of_constant positive follow

/-- Twice the square of the size, unordered, with a size measured twice and a size that counts
as one. -/
theorem regression_of_exactCosts_squares :
    let samples : List (CostSample ℝ) :=
      [⟨10, 200, 1, 1⟩, ⟨0, 2, 1, 1⟩, ⟨3, 18, 1, 1⟩, ⟨3, 18, 7, 2⟩]
    GrowthClass.quadratic ∈ GrowthClass.canonical ∧ (0 : ℝ) < 2 ∧ 3 ≤ samples.length ∧
      CostSample.Follow .quadratic 2 samples ∧ (∃ sample ∈ samples, sample.cost ≠ 0) ∧
      ∃ report best, RegressionReport.ofSamples samples = .ok report ∧
        (∀ fit, fit ∈ report.candidates ∧ fit.growth = .quadratic ↔
          fit = Fit.perfect .quadratic 2 samples.length) ∧
        report.best = some best ∧ best.growth ≤ .quadratic ∧
        (GrowthClass.quadratic = .const →
          report.bestClass = .const ∧ (GrowthChange.ofSamples samples).hasChange = false) := by
  intro samples
  have isCanonical : GrowthClass.quadratic ∈ GrowthClass.canonical := by decide
  have positive : (0 : ℝ) < 2 := by norm_num
  have enough : 3 ≤ samples.length := by decide
  have square (size : Nat) : (GrowthClass.quadratic.evaluateAt size : ℝ) =
      max (size : ℝ) 1.0 * max (size : ℝ) 1.0 := by
    rw [← Exact.larger_eq]
    rfl
  have follow : CostSample.Follow .quadratic 2 samples := by
    intro sample isSample
    rw [square]
    simp only [samples, List.mem_cons, List.not_mem_nil, or_false] at isSample
    rcases isSample with rfl | rfl | rfl | rfl <;> norm_num
  have measured : ∃ sample ∈ samples, sample.cost ≠ 0 :=
    ⟨⟨10, 200, 1, 1⟩, List.mem_cons_self, by norm_num⟩
  exact ⟨isCanonical, positive, enough, follow, measured,
    regression_of_exactCosts isCanonical positive enough follow measured⟩

end GrowthEstimate
