import Mathlib.Data.Finset.Fold
import Mathlib.Data.List.Pairwise
import GrowthEstimate.Number.Binary64
import GrowthEstimate.Proofs.Growth.Order
import GrowthEstimate.Verdict.Final

/-!
Contract: what a level of agreement says about the labels it was found for.

Owns: which labels are compared, that nothing but three known labels agree highly, and the two
labels behind a conflict; what a property of all pairs says of all labels, the spread of labels, the
level that their number, their equality and their spread decide, and that it is the level of any
list of them.

Does **not** own: the class that is reported at a level.
-/

set_option autoImplicit false

namespace GrowthEstimate

/-! ## Labels behind a level -/

namespace Agreement

theorem mem_labels {structural measured label : GrowthClass} {pattern : Option GrowthClass} :
    label ∈ labels structural pattern measured ↔
      (label = structural ∨ label = pattern.getD structural ∨ label = measured)
        ∧ label.isKnown = true := by
  simp [labels]

/-- Labels agree highly only if all three are known. -/
theorem isKnown_of_high {structural measured : GrowthClass} {pattern : Option GrowthClass}
    {mediumSteps conflictSteps : Nat}
    (high : levelWithin mediumSteps conflictSteps (labels structural pattern measured) = .high) :
    measured.isKnown = true := by
  have unanimous : isUnanimous (labels structural pattern measured) = true := by
    by_contra notUnanimous
    unfold levelWithin at high
    rw [if_neg notUnanimous] at high
    simp only at high
    split_ifs at high
  have three : (labels structural pattern measured).length = 3 :=
    of_decide_eq_true (Bool.and_eq_true_iff.mp unanimous).1
  have allKnown := List.length_filter_eq_length_iff.mp three
  exact allKnown measured (by simp)

theorem mem_of_mem_pairs {β : Type} {items : List β} {left right : β}
    (member : (left, right) ∈ pairs items) : left ∈ items ∧ right ∈ items := by
  induction items with
  | nil => simp [pairs] at member
  | cons first rest inductionHypothesis =>
      simp only [pairs, List.mem_append, List.mem_map, Prod.mk.injEq] at member
      rcases member with ⟨second, isLater, isFirst, isSecond⟩ | bothLater
      · rw [← isFirst, ← isSecond]
        exact ⟨List.mem_cons_self, List.mem_cons_of_mem first isLater⟩
      · obtain ⟨leftLater, rightLater⟩ := inductionHypothesis bothLater
        exact ⟨List.mem_cons_of_mem first leftLater, List.mem_cons_of_mem first rightLater⟩

theorem exists_of_mem_distances {compared : List GrowthClass} {distance : Nat}
    (member : distance ∈ distances compared) :
    ∃ left ∈ compared, ∃ right ∈ compared, left.distance? right = some distance := by
  obtain ⟨⟨left, right⟩, isPair, found⟩ := List.mem_filterMap.mp member
  obtain ⟨leftMember, rightMember⟩ := mem_of_mem_pairs isPair
  exact ⟨left, leftMember, right, rightMember, found⟩

/-- Behind a conflict there are two labels that are too far apart. -/
theorem exists_apart_of_conflict {mediumSteps conflictSteps : Nat}
    {compared : List GrowthClass}
    (conflict : levelWithin mediumSteps conflictSteps compared = .conflict) :
    ∃ left ∈ compared, ∃ right ∈ compared, ∃ distance,
      left.distance? right = some distance ∧ conflictSteps < distance := by
  unfold levelWithin at conflict
  simp only at conflict
  have someApart :
      ((distances compared).any fun distance => conflictSteps < distance) = true := by
    by_contra noneApart
    rw [if_neg noneApart] at conflict
    split_ifs at conflict
  obtain ⟨distance, member, apart⟩ := List.any_eq_true.mp someApart
  obtain ⟨left, leftMember, right, rightMember, found⟩ := exists_of_mem_distances member
  exact ⟨left, leftMember, right, rightMember, distance, found, by simpa using apart⟩

/-! ## Spread

The level is computed from the distances of all pairs.  No pair is further apart than the
highest and the lowest label, and if these differ they are a pair, so the largest distance is
the spread; the distance zero is found if and only if some label is there twice. -/

/-! ### Pairs -/

/-- The pairs of a list are what `List.Pairwise` is about. -/
theorem forall_pairs_iff_pairwise {β : Type} (related : β → β → Prop) {items : List β} :
    (∀ pair ∈ pairs items, related pair.1 pair.2) ↔ items.Pairwise related := by
  induction items with
  | nil => simp [pairs]
  | cons first rest inductionHypothesis =>
      rw [List.pairwise_cons, ← inductionHypothesis, pairs, List.forall_mem_append,
        List.forall_mem_map]

theorem pairs_eq_nil_iff {β : Type} {items : List β} : pairs items = [] ↔ items.length < 2 := by
  match items with
  | [] => simp [pairs]
  | [_] => simp [pairs]
  | _ :: _ :: _ => simp [pairs]

/-! ### Distances -/

/-- How many places of the canonical order two labels are apart. -/
def steps (left right : GrowthClass) : Nat :=
  max left.rank right.rank - min left.rank right.rank

theorem distances_eq {compared : List GrowthClass}
    (known : ∀ label ∈ compared, label.isKnown = true) :
    distances compared = (pairs compared).map fun pair => steps pair.1 pair.2 := by
  unfold distances
  rw [← List.filterMap_eq_map]
  apply List.filterMap_congr
  rintro ⟨left, right⟩ isPair
  obtain ⟨isLeft, isRight⟩ := mem_of_mem_pairs isPair
  simp [GrowthClass.distance?, known left isLeft, known right isRight, steps]

theorem distances_isEmpty_iff {compared : List GrowthClass}
    (known : ∀ label ∈ compared, label.isKnown = true) :
    (distances compared).isEmpty = true ↔ compared.length < 2 := by
  rw [distances_eq known, List.isEmpty_iff, List.map_eq_nil_iff, pairs_eq_nil_iff]

/-- Two known labels are no distance apart if and only if some label is there twice. -/
theorem distances_contains_zero_iff {compared : List GrowthClass}
    (known : ∀ label ∈ compared, label.isKnown = true) :
    (distances compared).contains 0 = true ↔ ¬compared.Nodup := by
  have apart (left right : GrowthClass) : steps left right ≠ 0 ↔ left ≠ right := by
    rw [not_iff_not]
    refine ⟨fun none => GrowthClass.rank_injective ?_, fun same => ?_⟩
    · unfold steps at none
      omega
    · rw [same, steps, max_self, min_self, Nat.sub_self]
  rw [List.contains_iff_mem, distances_eq known, ← not_iff_not, not_not, List.Nodup,
    ← forall_pairs_iff_pairwise]
  simp only [List.mem_map, not_exists, not_and]
  exact forall₂_congr fun pair _ => apart pair.1 pair.2

/-! ### The spread -/

/-- The highest place of a label. -/
def highest (labels : Multiset GrowthClass) : Nat :=
  labels.toFinset.fold max 0 GrowthClass.rank

/-- The lowest place of a label. -/
def lowest (labels : Multiset GrowthClass) : Nat :=
  labels.toFinset.fold min (highest labels) GrowthClass.rank

def spread (labels : Multiset GrowthClass) : Nat :=
  highest labels - lowest labels

theorem spread_le_iff {labels : Multiset GrowthClass} {limit : Nat} :
    spread labels ≤ limit ↔
      ∀ left ∈ labels, ∀ right ∈ labels, left.rank ≤ right.rank + limit := by
  have lowEnough : highest labels ≤ lowest labels + limit ↔
      ∀ right ∈ labels, highest labels ≤ right.rank + limit := by
    rw [← Nat.sub_le_iff_le_add, lowest, Finset.le_fold_min]
    simp
  rw [spread, Nat.sub_le_iff_le_add', lowEnough]
  simp only [highest, Finset.fold_max_le, Nat.zero_le, true_and, Multiset.mem_toFinset]
  exact ⟨fun all left isLeft right isRight => all right isRight left isLeft,
    fun all right isRight left isLeft => all left isLeft right isRight⟩

theorem spread_of_same {labels : Multiset GrowthClass}
    (same : ∀ left ∈ labels, ∀ right ∈ labels, left = right) : spread labels = 0 := by
  refine Nat.le_zero.mp (spread_le_iff.mpr fun left isLeft right isRight => ?_)
  rw [same left isLeft right isRight, Nat.add_zero]

/-- All distances stay within a limit if and only if the spread does. -/
theorem distances_le_iff {compared : List GrowthClass}
    (known : ∀ label ∈ compared, label.isKnown = true) {limit : Nat} :
    (∀ distance ∈ distances compared, distance ≤ limit) ↔
      spread (compared : Multiset GrowthClass) ≤ limit := by
  have near (left right : GrowthClass) : steps left right ≤ limit ↔
      left.rank ≤ right.rank + limit ∧ right.rank ≤ left.rank + limit := by
    unfold steps
    omega
  rw [distances_eq known, spread_le_iff]
  simp only [List.forall_mem_map, Multiset.mem_coe]
  rw [forall_pairs_iff_pairwise fun left right => steps left right ≤ limit]
  constructor
  · intro pairwise left isLeft right isRight
    have : Std.Symm fun left right => steps left right ≤ limit :=
      ⟨fun left right close => (near right left).mpr ((near left right).mp close).symm⟩
    have itself (label : GrowthClass) : steps label label ≤ limit :=
      (near label label).mpr ⟨Nat.le_add_right _ _, Nat.le_add_right _ _⟩
    have close := pairwise.forall_of_forall (fun label _ => itself label) isLeft isRight
    exact ((near left right).mp close).1
  · intro all
    refine List.pairwise_of_forall_mem_list fun left isLeft right isRight => ?_
    exact (near left right).mpr ⟨all left isLeft right isRight, all right isRight left isLeft⟩

theorem distances_any_iff {compared : List GrowthClass}
    (known : ∀ label ∈ compared, label.isKnown = true) {limit : Nat} :
    ((distances compared).any fun distance => limit < distance) = true ↔
      limit < spread (compared : Multiset GrowthClass) := by
  rw [← not_iff_not, not_lt, ← distances_le_iff known]
  simp

/-! ### The level -/

/-- The level of a bag of labels, by their number, their equality and their spread. -/
def levelBySpread (mediumSteps conflictSteps : Nat) (labels : Multiset GrowthClass) :
    AgreementLevel :=
  if labels.card = 3 ∧ ∀ left ∈ labels, ∀ right ∈ labels, left = right then .high
  else if labels.card < 2 then .low
  else if conflictSteps < spread labels then .conflict
  else if ¬labels.Nodup ∨ spread labels ≤ mediumSteps then .medium
  else .low

/-- Labels conflict if and only if their spread exceeds the limit; too few labels and equal
ones have none. -/
theorem levelBySpread_eq_conflict_iff {mediumSteps conflictSteps : Nat}
    {labels : Multiset GrowthClass} :
    levelBySpread mediumSteps conflictSteps labels = .conflict ↔ conflictSteps < spread labels := by
  have sameOfFew (few : labels.card < 2) : ∀ left ∈ labels, ∀ right ∈ labels, left = right := by
    rcases Nat.le_one_iff_eq_zero_or_eq_one.mp (Nat.le_of_lt_succ few) with isNone | isOne
    · simp [Multiset.card_eq_zero.mp isNone]
    · obtain ⟨label, isSingle⟩ := Multiset.card_eq_one.mp isOne
      simp [isSingle]
  unfold levelBySpread
  split_ifs with unanimous few apart
  · simp [spread_of_same unanimous.2]
  · simp [spread_of_same (sameOfFew few)]
  · simp [apart]
  · simp [apart]
  · simp [apart]

theorem isUnanimous_iff {compared : List GrowthClass} :
    isUnanimous compared = true ↔
      compared.length = 3 ∧ ∀ left ∈ compared, ∀ right ∈ compared, left = right := by
  unfold isUnanimous
  rw [Bool.and_eq_true, beq_iff_eq, and_congr_right_iff]
  intro three
  obtain ⟨first, rest, isCons⟩ := List.exists_cons_of_length_eq_add_one three
  rw [isCons]
  simp only [List.all_eq_true, List.head?_cons, beq_iff_eq, Option.some.injEq]
  constructor
  · intro isFirst left isLeft right isRight
    rw [isFirst left isLeft, isFirst right isRight]
  · intro same label isLabel
    exact same label isLabel first List.mem_cons_self

theorem levelWithin_eq {compared : List GrowthClass}
    (known : ∀ label ∈ compared, label.isKnown = true) (mediumSteps conflictSteps : Nat) :
    levelWithin mediumSteps conflictSteps compared =
      levelBySpread mediumSteps conflictSteps compared := by
  have unanimous : isUnanimous compared = true ↔ compared.length = 3 ∧
      ∀ left ∈ compared, ∀ right ∈ compared, left = right :=
    isUnanimous_iff
  have tooFew := distances_isEmpty_iff known
  have apart : ((distances compared).any fun distance => conflictSteps < distance) = true ↔
      conflictSteps < spread (compared : Multiset GrowthClass) :=
    distances_any_iff known
  have close : ((distances compared).contains 0
      || (distances compared).all fun distance => distance ≤ mediumSteps) = true ↔
        ¬compared.Nodup ∨ spread (compared : Multiset GrowthClass) ≤ mediumSteps := by
    rw [Bool.or_eq_true, distances_contains_zero_iff known, ← distances_le_iff known]
    simp
  unfold levelWithin levelBySpread
  simp only [unanimous, tooFew, apart, close, Multiset.coe_card, Multiset.mem_coe,
    Multiset.coe_nodup]

/-- The level of known labels is decided by the bag of them: it is high for three equal labels,
low for fewer than two, and otherwise decided by the spread and by whether a label is there twice.
So their order does not matter, and no conflict arises from a conflict limit that is raised. -/
theorem level_bySpread {α : Type} (thresholds : Thresholds α) {compared : List GrowthClass}
    (known : ∀ label ∈ compared, label.isKnown = true) :
    level thresholds compared =
        levelBySpread thresholds.mediumSteps thresholds.conflictSteps compared ∧
      (∀ permuted : List GrowthClass, compared.Perm permuted →
        level thresholds permuted = level thresholds compared) ∧
      (∀ raised : Thresholds α, thresholds.conflictSteps ≤ raised.conflictSteps →
        level raised compared = .conflict → level thresholds compared = .conflict) := by
  have bySpread (chosen : Thresholds α) {labels : List GrowthClass}
      (knownLabels : ∀ label ∈ labels, label.isKnown = true) :
      level chosen labels = levelBySpread chosen.mediumSteps chosen.conflictSteps labels :=
    levelWithin_eq knownLabels chosen.mediumSteps chosen.conflictSteps
  refine ⟨bySpread thresholds known, fun permuted isPermuted => ?_, fun raised above conflict => ?_⟩
  · have knownPermuted : ∀ label ∈ permuted, label.isKnown = true :=
      fun label isLabel => known label (isPermuted.mem_iff.mpr isLabel)
    rw [bySpread thresholds knownPermuted, bySpread thresholds known,
      Multiset.coe_eq_coe.mpr isPermuted]
  · rw [bySpread raised known] at conflict
    rw [bySpread thresholds known]
    rw [levelBySpread_eq_conflict_iff] at conflict ⊢
    exact Nat.lt_of_le_of_lt above conflict

/-- Two labels that are equal do not hide a third one far off, in whatever order they come,
and only a conflict limit that is raised past their spread settles the conflict. -/
theorem level_bySpread_farLabel :
    let thresholds : Thresholds Float := .standard
    let compared : List GrowthClass := [.linear, .exponential, .linear, .const]
    let permuted : List GrowthClass := [.const, .linear, .linear, .exponential]
    let raised : Thresholds Float := { thresholds with conflictSteps := 6 }
    (∀ label ∈ compared, label.isKnown = true) ∧ compared.Perm permuted ∧
      thresholds.conflictSteps ≤ raised.conflictSteps ∧ level raised compared = .conflict ∧
      level thresholds compared =
        levelBySpread thresholds.mediumSteps thresholds.conflictSteps compared ∧
      level thresholds permuted = level thresholds compared ∧
      level thresholds compared = .conflict := by
  intro thresholds compared permuted raised
  have known : ∀ label ∈ compared, label.isKnown = true := by decide
  have isPermuted : compared.Perm permuted := by decide
  have above : thresholds.conflictSteps ≤ raised.conflictSteps := by decide
  have conflict : level raised compared = .conflict := by decide
  obtain ⟨isLevel, sameLevel, stays⟩ := level_bySpread thresholds known
  exact ⟨known, isPermuted, above, conflict, isLevel, sameLevel permuted isPermuted,
    stays raised above conflict⟩

end Agreement

end GrowthEstimate
