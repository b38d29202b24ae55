import Mathlib
import GrowthEstimate.Proofs.Number.Unit
import GrowthEstimate.Regression.Report

/-!
Contract: the outliers among samples and whether their costs rise, in exact numbers.

Owns: quartiles that lie between the values next to their rank, fences around the middle half,
the values that are judged, which samples are outliers, and when costs count as monotonic.

Does **not** own: the fit that samples are judged against, and what rounding makes of a fence.

A rank is cut from a number of quarters, so it is always one of the list.  Fences stand around
the quartiles because the least spread is never negative; that is all that keeps a value of the
middle half from being an outlier.
-/

set_option autoImplicit false

namespace GrowthEstimate.SampleDiagnostics

open Exact

/-! ## Quartiles -/

theorem ordered_ascending (values : List ℝ) :
    (values.mergeSort Scalar.precedes).Pairwise (· ≤ ·) := by
  have inOrder : (values.mergeSort Scalar.precedes).Pairwise
      fun left right => Scalar.precedes left right = true := by
    apply List.pairwise_mergeSort
    · intro left middle right first second
      rw [precedes_iff] at *
      exact first.trans second
    · intro left right
      rw [Bool.or_eq_true, precedes_iff, precedes_iff]
      exact le_total left right
  exact inOrder.imp precedes_iff.mp

/-- There is one ascending order of some values. -/
theorem ordered_eq {values ordered : List ℝ} (permutation : ordered.Perm values)
    (ascending : ordered.Pairwise (· ≤ ·)) : ordered = values.mergeSort Scalar.precedes := by
  have together : ordered.Perm (values.mergeSort Scalar.precedes) :=
    permutation.trans (List.mergeSort_perm _ _).symm
  exact together.eq_of_pairwise (fun _ _ _ _ => le_antisymm) ascending (ordered_ascending values)

theorem getD_mono {ordered : List ℝ} (ascending : ordered.Pairwise (· ≤ ·)) {first second : Nat}
    (before : first ≤ second) (inRange : second < ordered.length) :
    ordered.getD first 0.0 ≤ ordered.getD second 0.0 := by
  rw [List.getD_eq_getElem _ _ inRange, List.getD_eq_getElem _ _ (before.trans_lt inRange)]
  exact ascending.rel_get_of_le (a := ⟨first, before.trans_lt inRange⟩) (b := ⟨second, inRange⟩)
    before

/-- A quartile lies between the values on both sides of its rank, which is counted in quarters of
an index. -/
theorem quartile_eq (ordered : List ℝ) (quarters : Nat) :
    let rank := quarters * (ordered.length - 1)
    let below := ordered.getD (rank / 4) 0.0
    let above := ordered.getD ((rank + 3) / 4) 0.0
    quartile ordered quarters = below + (above - below) * ((rank % 4 : Nat) / 4) := by
  intro rank below above
  have isUpper : (if rank % 4 = 0 then rank / 4 else rank / 4 + 1) = (rank + 3) / 4 := by
    split <;> omega
  have isWeight : (Scalar.ofCount (rank % 4) / 4.0 : ℝ) = ((rank % 4 : Nat) : ℝ) / 4 := by
    show ((rank % 4 : Nat) : ℝ) / 4.0 = _
    norm_num
  show below + (ordered.getD _ 0.0 - below) * (Scalar.ofCount (rank % 4) / 4.0) = _
  rw [isUpper, isWeight]

/-- The rank of a quartile lies between two indices of the list, and the quartile lies between the
values there. -/
theorem quartile_between {ordered : List ℝ} (ascending : ordered.Pairwise (· ≤ ·))
    (notEmpty : ordered ≠ []) (quarters : Nat) (atMost : quarters ≤ 4) :
    let rank := quarters * (ordered.length - 1)
    (rank + 3) / 4 < ordered.length ∧
      ordered.getD (rank / 4) 0.0 ≤ quartile ordered quarters ∧
      quartile ordered quarters ≤ ordered.getD ((rank + 3) / 4) 0.0 := by
  intro rank
  have some : 0 < ordered.length := List.length_pos_of_ne_nil notEmpty
  have rankAtMost : rank ≤ 4 * (ordered.length - 1) := Nat.mul_le_mul_right _ atMost
  have inRange : (rank + 3) / 4 < ordered.length := by omega
  have rises : ordered.getD (rank / 4) 0.0 ≤ ordered.getD ((rank + 3) / 4) 0.0 :=
    getD_mono ascending (by omega) inRange
  obtain ⟨weight, isWeight⟩ : ∃ weight : ℝ, weight = ((rank % 4 : Nat) : ℝ) / 4 := ⟨_, rfl⟩
  have notNegative : 0 ≤ weight := by
    rw [isWeight]
    positivity
  have atMostOne : weight ≤ 1 := by
    have small : ((rank % 4 : Nat) : ℝ) ≤ 4 := by
      exact_mod_cast (Nat.mod_lt rank (by decide)).le
    rw [isWeight]
    linarith
  rw [quartile_eq, ← isWeight]
  refine ⟨inRange, ?_, ?_⟩
  · exact le_add_of_nonneg_right (mul_nonneg (sub_nonneg.mpr rises) notNegative)
  · have atMostGap := mul_le_of_le_one_right (sub_nonneg.mpr rises) atMostOne
    linarith

noncomputable def firstQuartile (values : List ℝ) : ℝ :=
  quartile (values.mergeSort Scalar.precedes) 1

noncomputable def thirdQuartile (values : List ℝ) : ℝ :=
  quartile (values.mergeSort Scalar.precedes) 3

section Ordered

variable {values : List ℝ}

theorem ordered_notEmpty (notEmpty : values ≠ []) : values.mergeSort Scalar.precedes ≠ [] := by
  rw [← List.length_pos_iff, List.length_mergeSort, List.length_pos_iff]
  exact notEmpty

theorem firstQuartile_le_thirdQuartile (enough : 3 ≤ values.length) :
    firstQuartile values ≤ thirdQuartile values := by
  have notEmpty : values ≠ [] := List.ne_nil_of_length_pos (by omega)
  have ascending := ordered_ascending values
  have first := quartile_between ascending (ordered_notEmpty notEmpty) 1 (by decide)
  have third := quartile_between ascending (ordered_notEmpty notEmpty) 3 (by decide)
  have count : (values.mergeSort Scalar.precedes).length = values.length :=
    List.length_mergeSort values
  exact first.2.2.trans ((getD_mono ascending (by omega) (by omega)).trans third.2.1)

/-- Quartiles keep the bounds of the values. -/
theorem quartile_of_bounds {low high : ℝ} (notEmpty : values ≠ [])
    (bounded : ∀ value ∈ values, low ≤ value ∧ value ≤ high) {quarters : Nat}
    (atMost : quarters ≤ 4) :
    low ≤ quartile (values.mergeSort Scalar.precedes) quarters ∧
      quartile (values.mergeSort Scalar.precedes) quarters ≤ high := by
  have between :=
    quartile_between (ordered_ascending values) (ordered_notEmpty notEmpty) quarters atMost
  have entry {index : Nat} (inRange : index < (values.mergeSort Scalar.precedes).length) :
      low ≤ (values.mergeSort Scalar.precedes).getD index 0.0 ∧
        (values.mergeSort Scalar.precedes).getD index 0.0 ≤ high := by
    rw [List.getD_eq_getElem _ _ inRange]
    exact bounded _ (List.mem_mergeSort.mp (List.getElem_mem inRange))
  exact ⟨(entry (by omega)).1.trans between.2.1, between.2.2.trans (entry between.1).2⟩

end Ordered

/-- In the ascending order of the values, whichever way it was found, the quartile lies between the
values next to its rank, which is counted in quarters of an index, and as near to the upper one
as the rank is. -/
def BetweenRanks (values : List ℝ) (quarters : Nat) (quartile : ℝ) : Prop :=
  ∀ ordered : List ℝ, ordered.Perm values → ordered.Pairwise (· ≤ ·) →
    let rank := quarters * (values.length - 1)
    ∃ below above, ordered[rank / 4]? = some below ∧ ordered[(rank + 3) / 4]? = some above ∧
      below ≤ quartile ∧ quartile ≤ above ∧
      quartile = below + (above - below) * ((rank % 4 : Nat) / 4)

theorem quartile_betweenRanks {values : List ℝ} (notEmpty : values ≠ []) {quarters : Nat}
    (atMost : quarters ≤ 4) :
    BetweenRanks values quarters (quartile (values.mergeSort Scalar.precedes) quarters) := by
  intro ordered permutation ascending rank
  rw [← ordered_eq permutation ascending]
  have sameLength : ordered.length = values.length := permutation.length_eq
  have orderedNotEmpty : ordered ≠ [] :=
    List.ne_nil_of_length_pos (sameLength ▸ List.length_pos_of_ne_nil notEmpty)
  obtain ⟨inRange, atLeast, atMost⟩ :=
    quartile_between ascending orderedNotEmpty quarters atMost
  have isQuartile := quartile_eq ordered quarters
  rw [sameLength] at inRange atLeast atMost isQuartile
  have entry {index : Nat} (isIndex : index < ordered.length) :
      ordered[index]? = some (ordered.getD index 0.0) := by
    rw [List.getD_eq_getElem _ _ isIndex, List.getElem?_eq_getElem isIndex]
  exact ⟨_, _, entry (by omega), entry (by omega), atLeast, atMost, isQuartile⟩

/-! ## Fences -/

/-- The fences stand around the middle half of the values. -/
theorem fences_around (values : List ℝ) :
    (fences values).1 ≤ firstQuartile values ∧ thirdQuartile values ≤ (fences values).2 := by
  have spreads : 0 ≤ fenceFactor *
      Scalar.larger (thirdQuartile values - firstQuartile values)
        (Scalar.abs (thirdQuartile values) * leastSpread) := by
    have least : (0 : ℝ) ≤ |thirdQuartile values| * 1e-6 := by positivity
    rw [larger_eq]
    exact mul_nonneg (by norm_num [fenceFactor]) (le_max_of_le_right least)
  exact ⟨sub_le_self _ spreads, le_add_of_nonneg_right spreads⟩

theorem fences_of_perm {values others : List ℝ} (permutation : values.Perm others) :
    fences values = fences others := by
  have same : values.mergeSort Scalar.precedes = others.mergeSort Scalar.precedes :=
    ordered_eq ((List.mergeSort_perm _ _).trans permutation) (ordered_ascending values)
  unfold fences
  rw [same]

/-- Of enough values those outside the fences are outliers. -/
theorem mem_outliersOf {values : List ℝ} {index : Nat} :
    index ∈ outliersOf values ↔ 4 ≤ values.length ∧ ∃ value, values[index]? = some value ∧
      (value < (fences values).1 ∨ (fences values).2 < value) := by
  unfold outliersOf
  split
  · next few => simp [few]
  · next enough =>
      rw [Nat.not_lt] at enough
      simp [enough, List.mem_zipIdx_iff_getElem?]

theorem outliersOf_ascending (values : List ℝ) : (outliersOf values).Pairwise (· < ·) := by
  unfold outliersOf
  split
  · exact List.Pairwise.nil
  · have ascending : (values.zipIdx.map Prod.snd).Pairwise (· < ·) := by
      rw [List.zipIdx_map_snd]
      exact List.pairwise_lt_range'
    rw [List.pairwise_map] at ascending ⊢
    exact ascending.filter _

/-- Which of some values are outliers. -/
structure Flags (values : List ℝ) (outliers : List Nat) : Prop where
  ascending : outliers.Pairwise (· < ·)
  valid : ∀ index ∈ outliers, index < values.length
  few : values.length < 4 → outliers = []
  first : values ≠ [] → BetweenRanks values 1 (firstQuartile values)
  third : values ≠ [] → BetweenRanks values 3 (thirdQuartile values)
  outside : ∀ index value, 4 ≤ values.length → values[index]? = some value →
    (index ∈ outliers ↔ value < (fences values).1 ∨ (fences values).2 < value)
  /-- There is a middle half within the fences, and nothing in it is an outlier. -/
  quartiles : 4 ≤ values.length → firstQuartile values ≤ thirdQuartile values
  around : (fences values).1 ≤ firstQuartile values ∧ thirdQuartile values ≤ (fences values).2
  middle : ∀ index value, values[index]? = some value → firstQuartile values ≤ value →
    value ≤ thirdQuartile values → index ∉ outliers
  /-- With a value above the upper fence all values that are no smaller are outliers. -/
  above : ∀ index value other greater, index ∈ outliers → values[index]? = some value →
    (fences values).2 < value → values[other]? = some greater → value ≤ greater →
    other ∈ outliers
  below : ∀ index value other smaller, index ∈ outliers → values[index]? = some value →
    value < (fences values).1 → values[other]? = some smaller → smaller ≤ value →
    other ∈ outliers
  equal : (∀ value ∈ values, ∀ other ∈ values, value = other) → outliers = []

theorem outliersOf_flags (values : List ℝ) : Flags values (outliersOf values) := by
  obtain ⟨low, high⟩ := fences_around values
  have middle : ∀ index value, values[index]? = some value → firstQuartile values ≤ value →
      value ≤ thirdQuartile values → index ∉ outliersOf values := by
    intro index value isValue atLeast atMost isOutlier
    obtain ⟨_, other, isOther, outside⟩ := mem_outliersOf.mp isOutlier
    rw [isValue] at isOther
    obtain rfl := Option.some.inj isOther
    rcases outside with isBelow | isAbove
    · exact absurd (low.trans atLeast) (not_le.mpr isBelow)
    · exact absurd (atMost.trans high) (not_le.mpr isAbove)
  constructor
  case ascending => exact outliersOf_ascending values
  case valid =>
    intro index isOutlier
    obtain ⟨_, value, isValue, _⟩ := mem_outliersOf.mp isOutlier
    exact (List.getElem?_eq_some_iff.mp isValue).1
  case few => exact fun few => if_pos few
  case first => exact fun notEmpty => quartile_betweenRanks notEmpty (by decide)
  case third => exact fun notEmpty => quartile_betweenRanks notEmpty (by decide)
  case outside =>
    intro index value enough isValue
    simp only [mem_outliersOf, enough, isValue, Option.some.injEq, true_and, exists_eq_left']
  case quartiles => exact fun enough => firstQuartile_le_thirdQuartile (by omega)
  case around => exact ⟨low, high⟩
  case middle => exact middle
  case above =>
    intro index value other greater isOutlier _ isAbove isGreater atMost
    exact mem_outliersOf.mpr ⟨(mem_outliersOf.mp isOutlier).1, greater, isGreater,
      Or.inr (isAbove.trans_le atMost)⟩
  case below =>
    intro index value other smaller isOutlier _ isBelow isSmaller atMost
    exact mem_outliersOf.mpr ⟨(mem_outliersOf.mp isOutlier).1, smaller, isSmaller,
      Or.inl (atMost.trans_lt isBelow)⟩
  case equal =>
    intro allEqual
    rw [List.eq_nil_iff_forall_not_mem]
    intro index isOutlier
    obtain ⟨_, value, isValue, _⟩ := mem_outliersOf.mp isOutlier
    have isMember := List.mem_of_getElem? isValue
    have bounded : ∀ other ∈ values, value ≤ other ∧ other ≤ value := fun other isOther =>
      ⟨(allEqual value isMember other isOther).le, (allEqual other isOther value isMember).le⟩
    have notEmpty := List.ne_nil_of_mem isMember
    exact middle index value isValue (quartile_of_bounds notEmpty bounded (by decide)).2
      (quartile_of_bounds notEmpty bounded (by decide)).1 isOutlier

/-! ## Judged values -/

/-- The reference predicts a positive cost for every sample. -/
def Predicts (reference : Fit ℝ) (samples : List (CostSample ℝ)) : Prop :=
  ∀ sample ∈ samples, 0 < reference.predict sample.size

section Judged

variable {samples : List (CostSample ℝ)}

theorem predictionRatios?_of_predicts {reference : Fit ℝ} (predicts : Predicts reference samples) :
    predictionRatios? samples reference =
      some (samples.map fun sample => sample.cost / reference.predict sample.size) := by
  induction samples with
  | nil => rfl
  | cons sample rest inductionHypothesis =>
      obtain ⟨here, there⟩ := List.forall_mem_cons.mp predicts
      have isPositive : Scalar.lt 0.0 (reference.predict sample.size) = true := by
        rwa [lt_iff, zero_eq]
      have others := inductionHypothesis there
      unfold predictionRatios? at others ⊢
      simp only [List.mapM_cons, others, isPositive]
      rfl

theorem predictionRatios?_of_not_predicts {reference : Fit ℝ}
    (fails : ¬Predicts reference samples) : predictionRatios? samples reference = none := by
  induction samples with
  | nil => exact absurd (List.forall_mem_nil _) fails
  | cons sample rest inductionHypothesis =>
      unfold Predicts at fails
      rw [List.forall_mem_cons, Classical.not_and_iff_not_or_not] at fails
      unfold predictionRatios? at inductionHypothesis ⊢
      rw [List.mapM_cons]
      rcases fails with here | there
      · have notPositive : Scalar.lt 0.0 (reference.predict sample.size) = false := by
          rw [← Bool.not_eq_true, lt_iff, zero_eq]
          exact here
        simp only [notPositive, Bool.and_false]
        rfl
      · rw [inductionHypothesis there]
        -- Whatever the first sample gives, the rest gives nothing.
        have nothing : ∀ first : Option ℝ, (first >>= fun ratio =>
            (none : Option (List ℝ)) >>= fun ratios => pure (ratio :: ratios)) = none := by
          intro first
          cases first <;> rfl
        exact nothing _

theorem judged_of_predicts {reference : Fit ℝ} (predicts : Predicts reference samples) :
    judged samples (some reference) =
      samples.map fun sample => sample.cost / reference.predict sample.size := by
  rw [judged, Option.bind_some, predictionRatios?_of_predicts predicts, Option.getD_some]

theorem judged_of_not_predicts {reference : Option (Fit ℝ)}
    (fails : ∀ fit ∈ reference, ¬Predicts fit samples) :
    judged samples reference = samples.map CostSample.cost := by
  cases reference with
  | none => rfl
  | some fit =>
      rw [judged, Option.bind_some, predictionRatios?_of_not_predicts (fails fit rfl),
        Option.getD_none]

theorem predicts_of_perm {reference : Fit ℝ} {others : List (CostSample ℝ)}
    (permutation : others.Perm samples) : Predicts reference others ↔ Predicts reference samples :=
  forall_congr' fun _ => imp_congr_left permutation.mem_iff

/-- Samples are judged one by one, in a way that does not depend on their order. -/
theorem exists_judge (samples : List (CostSample ℝ)) (reference : Option (Fit ℝ)) :
    ∃ judge : CostSample ℝ → ℝ, ∀ others, others.Perm samples →
      judged others reference = others.map judge := by
  by_cases predicted : ∃ fit ∈ reference, Predicts fit samples
  · obtain ⟨fit, rfl, predicts⟩ := predicted
    exact ⟨_, fun others permutation =>
      judged_of_predicts ((predicts_of_perm permutation).mpr predicts)⟩
  · refine ⟨CostSample.cost, fun others permutation => judged_of_not_predicts ?_⟩
    intro fit isFit predicts
    exact predicted ⟨fit, isFit, (predicts_of_perm permutation).mp predicts⟩

theorem length_judged (samples : List (CostSample ℝ)) (reference : Option (Fit ℝ)) :
    (judged samples reference).length = samples.length := by
  obtain ⟨judge, isJudge⟩ := exists_judge samples reference
  rw [isJudge samples (List.Perm.refl _), List.length_map]

/-- The samples in another order. -/
def reorder (samples : List (CostSample ℝ)) (relabel : Equiv.Perm (Fin samples.length)) :
    List (CostSample ℝ) :=
  List.ofFn (samples.get ∘ relabel)

theorem reorder_perm (relabel : Equiv.Perm (Fin samples.length)) :
    (reorder samples relabel).Perm samples := by
  simpa [reorder, List.ofFn_get] using Equiv.Perm.ofFn_comp_perm relabel samples.get

/-- Samples in another order have the same outliers at their new places. -/
theorem mem_outliers_reorder (reference : Option (Fit ℝ))
    (relabel : Equiv.Perm (Fin samples.length)) (index : Fin samples.length) :
    index.val ∈ (ofSamples (reorder samples relabel) reference).outliers ↔
      (relabel index).val ∈ (ofSamples samples reference).outliers := by
  obtain ⟨judge, isJudge⟩ := exists_judge samples reference
  have permutation := reorder_perm relabel
  have sameFences : fences ((reorder samples relabel).map judge) = fences (samples.map judge) :=
    fences_of_perm (permutation.map judge)
  have sameValue : ((reorder samples relabel).map judge)[index.val]? =
      (samples.map judge)[(relabel index).val]? := by
    simp [reorder]
  unfold ofSamples
  rw [isJudge _ permutation, isJudge _ (List.Perm.refl _), mem_outliersOf, mem_outliersOf,
    sameFences, sameValue, List.length_map, List.length_map, permutation.length_eq]

end Judged

/-! ## Rising costs -/

theorem risingSteps_le (values : List ℝ) : risingSteps values ≤ values.length - 1 := by
  have atMost := List.countP_le_length (l := values.zip values.tail)
    (p := fun (before, after) => Scalar.le before after)
  rw [List.length_zip, List.length_tail] at atMost
  exact atMost.trans (min_le_right _ _)

/-- All steps rise just if no value falls below an earlier one. -/
theorem risingSteps_eq_iff (values : List ℝ) :
    risingSteps values = values.length - 1 ↔ values.Pairwise (· ≤ ·) := by
  induction values with
  | nil => simp [risingSteps]
  | cons first rest inductionHypothesis =>
      cases rest with
      | nil => simp [risingSteps]
      | cons second rest =>
          have atMost := risingSteps_le (second :: rest)
          have count : risingSteps (first :: second :: rest) =
              risingSteps (second :: rest) + if first ≤ second then 1 else 0 := by
            simp [risingSteps, List.countP_cons]
          rw [List.pairwise_cons_cons_iff_of_trans, ← inductionHypothesis, count]
          simp only [List.length_cons] at atMost ⊢
          by_cases rises : first ≤ second
          · rw [if_pos rises]
            simp only [rises, true_and]
            omega
          · rw [if_neg rises]
            simp only [rises, false_and, iff_false]
            omega

theorem isMonotonic_iff (samples : List (CostSample ℝ)) (reference : Option (Fit ℝ)) :
    (ofSamples samples reference).isMonotonic = true ↔
      (samples.map CostSample.cost).Pairwise (· ≤ ·) := by
  obtain ⟨costs, isCosts⟩ : ∃ costs, costs = samples.map CostSample.cost := ⟨_, rfl⟩
  have share : (ofSamples samples reference).monotonicity = monotonicityOf costs := by
    rw [isCosts]
    rfl
  rw [isMonotonic, share, le_iff, ← isCosts, ← risingSteps_eq_iff, monotonicityOf]
  have atMost := risingSteps_le costs
  split
  · next few =>
      have none : risingSteps costs = costs.length - 1 := by omega
      simp [none]
  · next enough =>
      have positive : (0 : ℝ) < (costs.length - 1 : Nat) := by
        exact_mod_cast (by omega : 0 < costs.length - 1)
      have asQuotient : (Scalar.ofCount (risingSteps costs) / Scalar.ofCount (costs.length - 1) : ℝ)
          = (risingSteps costs : ℝ) / (costs.length - 1 : Nat) := rfl
      have one : (1.0 : ℝ) = 1 := by norm_num
      rw [asQuotient, one, one_le_div₀ positive, Nat.cast_le]
      omega

/-- Of samples, whatever the reference, one value each is judged: the quotient of cost and
prediction if all predictions are positive, and the cost otherwise.  The outliers are those of
the judged values, and follow the samples into any other order.  Costs are monotonic just if
none falls below an earlier one. -/
theorem ofSamples_flags (samples : List (CostSample ℝ)) (reference : Option (Fit ℝ)) :
    (∀ fit ∈ reference, Predicts fit samples → judged samples reference =
        samples.map fun sample => sample.cost / fit.predict sample.size)
      ∧ ((∀ fit ∈ reference, ¬Predicts fit samples) →
        judged samples reference = samples.map CostSample.cost)
      ∧ Flags (judged samples reference) (ofSamples samples reference).outliers
      ∧ (judged samples reference).length = samples.length
      ∧ (∀ (relabel : Equiv.Perm (Fin samples.length)) (index : Fin samples.length),
        index.val ∈ (ofSamples (reorder samples relabel) reference).outliers ↔
          (relabel index).val ∈ (ofSamples samples reference).outliers)
      ∧ ((ofSamples samples reference).isMonotonic = true ↔
        (samples.map CostSample.cost).Pairwise (· ≤ ·)) := by
  refine ⟨?ratios, judged_of_not_predicts, outliersOf_flags _, length_judged samples reference,
    mem_outliers_reorder reference, isMonotonic_iff samples reference⟩
  case ratios =>
    rintro fit rfl predicts
    exact judged_of_predicts predicts

end GrowthEstimate.SampleDiagnostics
