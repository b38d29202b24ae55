import GrowthEstimate.Proofs.Number.Order
import GrowthEstimate.Regression.Report

/-!
Contract: a measurement is a bag of samples.

Owns: that sorting leaves one order of sizes and costs, that fits and diagnostics read
nothing else of ordered samples, and that neither a report nor a change depends on the
order in which samples were taken.

Does **not** own: whether the numbers of a report are any good.

Sums of doubles depend on the order of their terms, so nothing here may regroup one.  What
is compared are the lists of sizes and costs on which the sums run; samples of one size and
cost may change places, and only what no fit reads of them tells them apart.
-/

set_option autoImplicit false

namespace GrowthEstimate

variable {α : Type} [Scalar α]

/-! ## The points of samples -/

namespace CostSample

/-- What is read of a sample: its size and its cost. -/
def point {α : Type} (sample : CostSample α) : Nat × α :=
  (sample.size, sample.cost)

/-- Whether a point does not come after another in the order by size and then by cost. -/
def PointLE (left right : Nat × α) : Prop :=
  if left.1 = right.1 then Scalar.precedes left.2 right.2 = true else left.1 < right.1

theorem sizeCostLE_iff {left right : CostSample α} :
    sizeCostLE left right = true ↔ PointLE left.point right.point := by
  unfold sizeCostLE PointLE point
  split
  · exact Iff.rfl
  · exact decide_eq_true_iff

section Order

variable [LinearPrecedence α]

theorem sizeCostLE_total (left right : CostSample α) :
    (sizeCostLE left right || sizeCostLE right left) = true := by
  rw [Bool.or_eq_true, sizeCostLE_iff, sizeCostLE_iff]
  unfold PointLE
  by_cases sameSize : left.size = right.size
  · simp [point, sameSize, LinearPrecedence.total left.cost right.cost]
  · have apart : left.size < right.size ∨ right.size < left.size := by omega
    simpa only [point, sameSize, Ne.symm sameSize, if_false] using apart

theorem sizeCostLE_trans (left middle right : CostSample α)
    (first : sizeCostLE left middle = true) (second : sizeCostLE middle right = true) :
    sizeCostLE left right = true := by
  rw [sizeCostLE_iff] at first second ⊢
  unfold PointLE at first second ⊢
  split at first
  · next sameAsMiddle =>
    rw [← sameAsMiddle] at second
    split at second
    · next sameAsRight =>
      rw [if_pos sameAsRight]
      exact LinearPrecedence.trans first second
    · next apart => rwa [if_neg apart]
  · split at second
    · next sameAsRight =>
      rw [if_neg (by omega)]
      omega
    · rw [if_neg (by omega)]
      omega

theorem PointLE.antisymm {left right : Nat × α} (first : PointLE left right)
    (second : PointLE right left) : left = right := by
  unfold PointLE at first second
  by_cases sameSize : left.1 = right.1
  · rw [if_pos sameSize] at first
    rw [if_pos sameSize.symm] at second
    exact Prod.ext sameSize (LinearPrecedence.antisymm first second)
  · rw [if_neg sameSize] at first
    rw [if_neg (Ne.symm sameSize)] at second
    omega

/-- Sorting puts the same points into the same order. -/
theorem sorted_points_of_perm {samples others : List (CostSample α)}
    (permutation : (samples.map point).Perm (others.map point)) :
    (sorted samples).map point = (sorted others).map point := by
  have inOrder (list : List (CostSample α)) : ((sorted list).map point).Pairwise PointLE := by
    rw [List.pairwise_map]
    exact (List.pairwise_mergeSort sizeCostLE_trans sizeCostLE_total list).imp sizeCostLE_iff.mp
  have kept (list : List (CostSample α)) : ((sorted list).map point).Perm (list.map point) :=
    (List.mergeSort_perm list sizeCostLE).map point
  have together : ((sorted samples).map point).Perm ((sorted others).map point) :=
    (kept samples).trans (permutation.trans (kept others).symm)
  exact together.eq_of_pairwise (fun _ _ _ _ => PointLE.antisymm) (inOrder samples)
    (inOrder others)

end Order

/-! ## What is read of ordered samples -/

section SamePoints

variable {samples others : List (CostSample α)}

omit [Scalar α] in
theorem costs_of_points (same : samples.map point = others.map point) :
    samples.map cost = others.map cost := by
  have costs := congrArg (List.map Prod.snd) same
  rwa [List.map_map, List.map_map] at costs

omit [Scalar α] in
theorem sizes_of_points (same : samples.map point = others.map point) :
    samples.map size = others.map size := by
  have sizes := congrArg (List.map Prod.fst) same
  rwa [List.map_map, List.map_map] at sizes

omit [Scalar α] in
theorem length_of_points (same : samples.map point = others.map point) :
    samples.length = others.length := by
  simpa using congrArg List.length same

end SamePoints

end CostSample

open CostSample

section SamePoints

variable {samples others : List (CostSample α)}

theorem Fit.basis_of_points (growth : GrowthClass)
    (same : samples.map point = others.map point) :
    basis growth samples = basis growth others := by
  have values := congrArg (List.map fun size => (growth.evaluateAt size : α))
    (sizes_of_points same)
  rwa [List.map_map, List.map_map] at values

theorem Fit.ofSamples_of_points (growth : GrowthClass)
    (same : samples.map point = others.map point) :
    Fit.ofSamples growth samples = Fit.ofSamples growth others := by
  unfold Fit.ofSamples
  rw [Fit.basis_of_points growth same, costs_of_points same, length_of_points same]

namespace SampleDiagnostics

theorem predictionRatios?_of_points (reference : Fit α)
    (same : samples.map point = others.map point) :
    predictionRatios? samples reference = predictionRatios? others reference := by
  -- the quotient of a sample is a function of its point
  let ratio? : Nat × α → Option α := fun read =>
    if Scalar.isFinite (reference.predict read.1) && Scalar.lt 0.0 (reference.predict read.1)
    then some (read.2 / reference.predict read.1) else none
  have readsPoints (list : List (CostSample α)) :
      predictionRatios? list reference = (list.map point).mapM ratio? := by
    rw [List.mapM_map]
    rfl
  rw [readsPoints, readsPoints, same]

theorem ofSamples_of_points (reference : Option (Fit α))
    (same : samples.map point = others.map point) :
    SampleDiagnostics.ofSamples samples reference =
      SampleDiagnostics.ofSamples others reference := by
  have sameJudged : judged samples reference = judged others reference := by
    unfold judged
    rw [costs_of_points same]
    cases reference with
    | none => rfl
    | some fit => rw [Option.bind_some, Option.bind_some, predictionRatios?_of_points fit same]
  unfold SampleDiagnostics.ofSamples
  rw [costs_of_points same, sameJudged]

end SampleDiagnostics

end SamePoints

/-! ## Reports and changes -/

section Permuted

variable [LinearPrecedence α] {samples others : List (CostSample α)}

/-- A report, or the fault of too few samples, depends on the bag of points only. -/
theorem RegressionReport.ofSamples_of_points_perm
    (permutation : (samples.map point).Perm (others.map point)) :
    RegressionReport.ofSamples samples = RegressionReport.ofSamples others := by
  have sameCount : samples.length = others.length := by
    simpa using permutation.length_eq
  have samePoints := sorted_points_of_perm permutation
  have sameFits : (GrowthClass.canonical.map fun growth => Fit.ofSamples growth (sorted samples)) =
      GrowthClass.canonical.map fun growth => Fit.ofSamples growth (sorted others) :=
    List.map_congr_left fun growth _ => Fit.ofSamples_of_points growth samePoints
  unfold RegressionReport.ofSamples
  simp only [sameCount, sameFits, length_of_points samePoints,
    SampleDiagnostics.ofSamples_of_points _ samePoints]

theorem GrowthChange.halfFit?_of_points
    (same : samples.map CostSample.point = others.map CostSample.point) :
    halfFit? samples = halfFit? others := by
  have sameReport := RegressionReport.ofSamples_of_points_perm (List.Perm.of_eq same)
  unfold halfFit?
  rw [sameReport]

/-- Equal points leave equal halves. -/
theorem GrowthChange.ofSamples_of_points_perm
    (permutation : (samples.map CostSample.point).Perm (others.map CostSample.point)) :
    GrowthChange.ofSamples samples = GrowthChange.ofSamples others := by
  have samePoints := sorted_points_of_perm permutation
  have sameMiddle := length_of_points samePoints
  have sameLower (middle : Nat) :
      halfFit? ((sorted samples).take middle) = halfFit? ((sorted others).take middle) := by
    apply halfFit?_of_points
    rw [List.map_take, List.map_take, samePoints]
  have upperPoints (middle : Nat) :
      ((sorted samples).drop middle).map CostSample.point =
        ((sorted others).drop middle).map CostSample.point := by
    rw [List.map_drop, List.map_drop, samePoints]
  have samePoint (middle : Nat) : ((sorted samples).drop middle).head?.map CostSample.size =
      ((sorted others).drop middle).head?.map CostSample.size := by
    rw [← List.head?_map, ← List.head?_map, sizes_of_points (upperPoints middle)]
  unfold GrowthChange.ofSamples
  simp only [sameMiddle, sameLower, halfFit?_of_points (upperPoints _), samePoint]

/-- The order in which samples are given changes nothing: permuted samples have the same
report, or the same fault, and the same change.  The numbers may be any that are sorted
linearly, doubles and their undefined value among them. -/
theorem regression_of_perm (permutation : samples.Perm others) :
    RegressionReport.ofSamples samples = RegressionReport.ofSamples others ∧
      GrowthChange.ofSamples samples = GrowthChange.ofSamples others :=
  ⟨RegressionReport.ofSamples_of_points_perm (permutation.map point),
    GrowthChange.ofSamples_of_points_perm (permutation.map point)⟩

end Permuted

/-- Six samples and the same backwards, with a size measured three times: once without a
value, and twice at one cost with different memory. -/
theorem regression_of_perm_backwards :
    let undefined : Float := Scalar.undefined
    let samples : List (CostSample Float) :=
      [⟨50, 7.5, 1, 1.0⟩, ⟨10, undefined, 1, 1.0⟩, ⟨10, 3.0, 2, 1.0⟩, ⟨10, 3.0, 5, 8.0⟩,
        ⟨20, 0.0, 1, 1.0⟩, ⟨20, -0.0, 1, 1.0⟩]
    samples.Perm samples.reverse ∧
      RegressionReport.ofSamples samples = RegressionReport.ofSamples samples.reverse ∧
      GrowthChange.ofSamples samples = GrowthChange.ofSamples samples.reverse := by
  intro undefined samples
  have permutation : samples.Perm samples.reverse := (List.reverse_perm samples).symm
  exact ⟨permutation, regression_of_perm permutation⟩

end GrowthEstimate
