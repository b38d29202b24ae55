import GrowthEstimate.Growth.Class
import Mathlib.Data.Fintype.OfMap
import Mathlib.Order.RelClasses

/-!
Contract: the canonical order of the growth classes, and how their combinations keep
it.

Owns: the partial order, in which `unknown` is comparable with itself alone; the laws
of `join`, `meet`, `product` and the neighbours in it; and the bounds of a list that is
joined or met.

Does **not** own: what a class is combined for.

The order is partial on purpose.  A statement `left ≤ right` about a known class says
that the other one is known too, so it never holds because something is missing.
-/

set_option autoImplicit false

namespace GrowthEstimate

/-- Folding a combination that chooses one of its sides gives the start or an item. -/
theorem foldl_mem_of_choosing {β : Type} {combine : β → β → β}
    (chooses : ∀ left right, combine left right = left ∨ combine left right = right)
    (items : List β) (start : β) :
    items.foldl combine start = start ∨ items.foldl combine start ∈ items := by
  induction items generalizing start with
  | nil => exact Or.inl rfl
  | cons head tail inductionHypothesis =>
      rcases inductionHypothesis (combine start head) with kept | found
      · rw [List.foldl_cons, kept]
        rcases chooses start head with isStart | isHead
        · exact Or.inl isStart
        · exact Or.inr (by simp [isHead])
      · exact Or.inr (List.mem_cons_of_mem head found)

namespace GrowthClass

/-! ## The order -/

theorem rank_injective {left right : GrowthClass} (ranks : left.rank = right.rank) :
    left = right := by
  revert ranks
  cases left <;> cases right <;> decide

instance : PartialOrder GrowthClass where
  le left right := left.isKnown = right.isKnown ∧ left.rank ≤ right.rank
  le_refl growth := ⟨rfl, le_refl growth.rank⟩
  le_trans _ _ _ first second := ⟨first.1.trans second.1, first.2.trans second.2⟩
  le_antisymm _ _ below above := rank_injective (le_antisymm below.2 above.2)

instance (left right : GrowthClass) : Decidable (left ≤ right) :=
  inferInstanceAs (Decidable (left.isKnown = right.isKnown ∧ left.rank ≤ right.rank))

instance : Fintype GrowthClass :=
  Fintype.ofList (canonical ++ [unknown]) (by intro growth; cases growth <;> decide)

theorem isKnown_iff {growth : GrowthClass} : growth.isKnown = true ↔ growth ≠ unknown := by
  simp [isKnown]

theorem le_of_rank_le {left right : GrowthClass} (leftKnown : left.isKnown = true)
    (rightKnown : right.isKnown = true) (ranks : left.rank ≤ right.rank) : left ≤ right :=
  ⟨leftKnown.trans rightKnown.symm, ranks⟩

theorem const_le {growth : GrowthClass} (known : growth.isKnown = true) : const ≤ growth :=
  le_of_rank_le rfl known (Nat.zero_le growth.rank)

theorem isKnown_of_canonical : ∀ growth ∈ canonical, growth.isKnown = true := by
  decide

theorem canonical_ascending : canonical.Pairwise (· ≤ ·) := by
  decide

/-! ## Join and meet -/

theorem join_of_left_unknown {left : GrowthClass} (missing : left.isKnown = false)
    (right : GrowthClass) : left.join right = right := by
  simp [join, missing]

theorem isKnown_join (left right : GrowthClass) :
    (left.join right).isKnown = (left.isKnown || right.isKnown) := by
  cases left <;> cases right <;> rfl

theorem left_le_join {left : GrowthClass} (known : left.isKnown = true)
    (right : GrowthClass) : left ≤ left.join right := by
  revert known
  cases left <;> cases right <;> decide

theorem right_le_join (left : GrowthClass) {right : GrowthClass}
    (known : right.isKnown = true) : right ≤ left.join right := by
  revert known
  cases left <;> cases right <;> decide

/-- A join is one of its two sides. -/
theorem join_eq_or (left right : GrowthClass) :
    left.join right = left ∨ left.join right = right := by
  cases left <;> cases right <;> decide

theorem join_of_le {left right : GrowthClass} (below : left ≤ right) :
    left.join right = right := by
  revert below
  cases left <;> cases right <;> decide

theorem join_of_ge {left right : GrowthClass} (above : right ≤ left) :
    left.join right = left := by
  revert above
  cases left <;> cases right <;> decide

theorem join_mono {left right left' right' : GrowthClass} (lefts : left ≤ left')
    (rights : right ≤ right') : left.join right ≤ left'.join right' := by
  rcases h : left.isKnown with _ | _
  · have missing : left'.isKnown = false := lefts.1.symm.trans h
    rw [join_of_left_unknown h, join_of_left_unknown missing]
    exact rights
  · have known : left'.isKnown = true := lefts.1.symm.trans h
    rcases join_eq_or left right with chosen | chosen
    · rw [chosen]
      exact lefts.trans (left_le_join known right')
    · rw [chosen]
      rcases k : right.isKnown with _ | _
      · -- a join is known as soon as its left side is
        have joined := isKnown_join left right
        rw [chosen, h, k] at joined
        contradiction
      · exact rights.trans (right_le_join left' (rights.1.symm.trans k))

theorem isKnown_meet (left right : GrowthClass) :
    (left.meet right).isKnown = (left.isKnown || right.isKnown) := by
  cases left <;> cases right <;> rfl

theorem meet_le_left {left : GrowthClass} (known : left.isKnown = true)
    (right : GrowthClass) : left.meet right ≤ left := by
  revert known
  cases left <;> cases right <;> decide

theorem meet_le_right (left : GrowthClass) {right : GrowthClass}
    (known : right.isKnown = true) : left.meet right ≤ right := by
  revert known
  cases left <;> cases right <;> decide

/-- A meet is one of its two sides. -/
theorem meet_eq_or (left right : GrowthClass) :
    left.meet right = left ∨ left.meet right = right := by
  cases left <;> cases right <;> decide

/-! ## Products

The table of products has no formula behind it, so its laws are read off its entries. -/

theorem product_comm (left right : GrowthClass) :
    left.product right = right.product left := by
  cases left <;> cases right <;> rfl

theorem left_le_product {left : GrowthClass} (known : left.isKnown = true)
    (right : GrowthClass) : left ≤ left.product right := by
  revert known
  cases left <;> cases right <;> decide

theorem right_le_product (left : GrowthClass) {right : GrowthClass}
    (known : right.isKnown = true) : right ≤ left.product right := by
  rw [product_comm]
  exact left_le_product known left

/-- The table is monotone along every row. -/
theorem product_mono_right (left : GrowthClass) {right right' : GrowthClass}
    (below : right ≤ right') : left.product right ≤ left.product right' := by
  revert left right right'
  decide +kernel

theorem product_mono {left right left' right' : GrowthClass} (lefts : left ≤ left')
    (rights : right ≤ right') : left.product right ≤ left'.product right' :=
  calc
    left.product right ≤ left.product right' := product_mono_right left rights
    _ = right'.product left := product_comm left right'
    _ ≤ right'.product left' := product_mono_right right' lefts
    _ = left'.product right' := product_comm right' left'

/-! ## Neighbours -/

theorem easier_le (growth : GrowthClass) : growth.easier ≤ growth := by
  cases growth <;> decide

theorem le_harder (growth : GrowthClass) : growth ≤ growth.harder := by
  cases growth <;> decide

/-! ## Distances -/

/-- Two classes are no further apart than two others that they lie between. -/
theorem distance?_of_between {lower left right upper : GrowthClass} {distance : Nat}
    (found : left.distance? right = some distance) (lowerLeft : lower ≤ left)
    (lowerRight : lower ≤ right) (leftUpper : left ≤ upper) (rightUpper : right ≤ upper) :
    ∃ wider, lower.distance? upper = some wider ∧ distance ≤ wider := by
  unfold distance? at found ⊢
  rw [lowerLeft.1, ← leftUpper.1]
  split at found
  · next known =>
      have leftKnown := (Bool.and_eq_true_iff.mp known).1
      have isDistance := Option.some.inj found
      have ranks := And.intro lowerLeft.2 lowerRight.2
      have ranks' := And.intro leftUpper.2 rightUpper.2
      refine ⟨_, by rw [leftKnown]; rfl, ?_⟩
      omega
  · contradiction

/-! ## Lists of classes -/

theorem isKnown_orConst (growth : GrowthClass) : growth.orConst.isKnown = true := by
  cases growth <;> rfl

theorem orConst_of_known {growth : GrowthClass} (known : growth.isKnown = true) :
    growth.orConst = growth := by
  simp [orConst, known]

theorem orConst_mono {left right : GrowthClass} (below : left ≤ right) :
    left.orConst ≤ right.orConst := by
  unfold orConst
  rw [← below.1]
  split
  · exact below
  · exact le_refl const

section Combining

variable {combine : GrowthClass → GrowthClass → GrowthClass}

variable {R : GrowthClass → GrowthClass → Prop} [IsPreorder GrowthClass R]

private theorem foldl_bounds_start
    (isKnown_combine : ∀ left right,
      (combine left right).isKnown = (left.isKnown || right.isKnown))
    (boundsLeft : ∀ left right, left.isKnown = true → R left (combine left right))
    {start : GrowthClass} (known : start.isKnown = true) (classes : List GrowthClass) :
    R start (classes.foldl combine start) := by
  induction classes generalizing start with
  | nil => exact refl_of R start
  | cons head tail inductionHypothesis =>
      have combined : (combine start head).isKnown = true := by
        simp [isKnown_combine, known]
      exact trans_of R (boundsLeft start head known) (inductionHypothesis combined)

/-- Folding a combination that bounds its sides bounds every known label.  It serves
`join` with the order and `meet` with the order reversed. -/
private theorem foldl_bounds
    (isKnown_combine : ∀ left right,
      (combine left right).isKnown = (left.isKnown || right.isKnown))
    (boundsLeft : ∀ left right, left.isKnown = true → R left (combine left right))
    (boundsRight : ∀ left right, right.isKnown = true → R right (combine left right))
    {classes : List GrowthClass} {label : GrowthClass} (member : label ∈ classes)
    (known : label.isKnown = true) (start : GrowthClass) :
    R label (classes.foldl combine start) := by
  induction classes generalizing start with
  | nil => simp at member
  | cons head tail inductionHypothesis =>
      rcases List.mem_cons.mp member with isHead | inTail
      · subst label
        have combined : (combine start head).isKnown = true := by
          simp [isKnown_combine, known]
        exact trans_of R (boundsRight start head known)
          (foldl_bounds_start isKnown_combine boundsLeft combined tail)
      · exact inductionHypothesis inTail (combine start head)

end Combining

theorem foldl_join_mem (classes : List GrowthClass) (start : GrowthClass) :
    classes.foldl join start = start ∨ classes.foldl join start ∈ classes :=
  foldl_mem_of_choosing join_eq_or classes start

theorem foldl_meet_mem (classes : List GrowthClass) (start : GrowthClass) :
    classes.foldl meet start = start ∨ classes.foldl meet start ∈ classes :=
  foldl_mem_of_choosing meet_eq_or classes start

theorem start_le_foldl_join {start : GrowthClass} (known : start.isKnown = true)
    (classes : List GrowthClass) : start ≤ classes.foldl join start :=
  foldl_bounds_start (R := (· ≤ ·)) isKnown_join (fun _ right known => left_le_join known right)
    known classes

theorem le_foldl_join {classes : List GrowthClass} {label : GrowthClass}
    (member : label ∈ classes) (known : label.isKnown = true) (start : GrowthClass) :
    label ≤ classes.foldl join start :=
  foldl_bounds (R := (· ≤ ·)) isKnown_join (fun _ right known => left_le_join known right)
    (fun left _ known => right_le_join left known) member known start

theorem foldl_meet_le {classes : List GrowthClass} {label : GrowthClass}
    (member : label ∈ classes) (known : label.isKnown = true) (start : GrowthClass) :
    classes.foldl meet start ≤ label :=
  foldl_bounds (R := (· ≥ ·)) isKnown_meet (fun _ right known => meet_le_left known right)
    (fun left _ known => meet_le_right left known) member known start

theorem foldl_join_mono {classes classes' : List GrowthClass}
    (pointwise : List.Forall₂ (· ≤ ·) classes classes') {start start' : GrowthClass}
    (starts : start ≤ start') : classes.foldl join start ≤ classes'.foldl join start' := by
  induction pointwise generalizing start start' with
  | nil => exact starts
  | cons heads _ inductionHypothesis => exact inductionHypothesis (join_mono starts heads)

theorem isKnown_joinAll (classes : List GrowthClass) : (joinAll classes).isKnown = true :=
  isKnown_orConst _

theorem le_joinAll {classes : List GrowthClass} {label : GrowthClass}
    (member : label ∈ classes) (known : label.isKnown = true) : label ≤ joinAll classes := by
  have below := le_foldl_join member known unknown
  have joined : (classes.foldl join unknown).isKnown = true := below.1.symm.trans known
  rw [joinAll, orConst_of_known joined]
  exact below

theorem joinAll_mono {classes classes' : List GrowthClass}
    (pointwise : List.Forall₂ (· ≤ ·) classes classes') :
    joinAll classes ≤ joinAll classes' :=
  orConst_mono (foldl_join_mono pointwise (le_refl unknown))

end GrowthClass

end GrowthEstimate
