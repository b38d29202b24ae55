import GrowthEstimate.Proofs.Growth.Order
import GrowthEstimate.Proofs.Number.Unit
import GrowthEstimate.Proofs.Tree.Forest

/-!
Contract: the estimate of a node in relation to those of its children.

Owns: the estimates that cover a list of children, the lemma for each rule by which parsing combines
children, the growth of estimates toward the root of a parsed source, and that the confidence of
every node lies in the unit interval.

Does **not** own: factors, which nothing here looks at.
-/

set_option autoImplicit false

namespace GrowthEstimate

/-! ## Classes

A combining rule is good here for one of two reasons.  It joins what it is given, or it
multiplies it, and a product is never below either of its sides. -/

/-! ### Estimates that cover children -/

namespace Estimate

variable {α : Type}

@[simp] theorem withFactor_time (estimate : Estimate α) (factor : String) :
    (estimate.withFactor factor).time = estimate.time := by
  unfold withFactor
  split <;> rfl

@[simp] theorem withFactor_space (estimate : Estimate α) (factor : String) :
    (estimate.withFactor factor).space = estimate.space := by
  unfold withFactor
  split <;> rfl

@[simp] theorem withFactor_exact (estimate : Estimate α) (factor : String) :
    (estimate.withFactor factor).exact = estimate.exact := by
  unfold withFactor
  split <;> rfl

/-- Both classes of the estimate are known. -/
def IsKnown (estimate : Estimate α) : Prop :=
  estimate.time.isKnown = true ∧ estimate.space.isKnown = true

/-- The estimate covers another one: its classes are no smaller, and it is exact only if
the other one is. -/
structure Covers (upper lower : Estimate α) : Prop where
  time : lower.time ≤ upper.time
  space : lower.space ≤ upper.space
  exact : upper.exact = true → lower.exact = true

theorem Covers.trans {upper middle lower : Estimate α} (first : upper.Covers middle)
    (second : middle.Covers lower) : upper.Covers lower where
  time := second.time.trans first.time
  space := second.space.trans first.space
  exact isExact := second.exact (first.exact isExact)

end Estimate

namespace SyntaxNode

variable {α : Type}

/-- The estimate of one node covers that of another. -/
def Above (upper lower : SyntaxNode α) : Prop :=
  upper.estimate.Covers lower.estimate

instance : IsTrans (SyntaxNode α) Above :=
  ⟨fun _ _ _ first second => Estimate.Covers.trans first second⟩

/-- The estimate is known and covers those of the children. -/
def CoveredBy (children : List (SyntaxNode α)) (estimate : Estimate α) : Prop :=
  estimate.IsKnown ∧ ∀ child ∈ children, estimate.Covers child.estimate

/-- Confidence and factors do not matter. -/
theorem CoveredBy.congr {children : List (SyntaxNode α)} {estimate other : Estimate α}
    (covered : CoveredBy children estimate) (time : other.time = estimate.time)
    (space : other.space = estimate.space) (exact : other.exact = estimate.exact) :
    CoveredBy children other := by
  obtain ⟨known, covers⟩ := covered
  constructor
  · unfold Estimate.IsKnown
    rw [time, space]
    exact known
  · intro child isChild
    have childCovered := covers child isChild
    constructor
    · rw [time]
      exact childCovered.time
    · rw [space]
      exact childCovered.space
    · rw [exact]
      exact childCovered.exact

theorem CoveredBy.withFactor {children : List (SyntaxNode α)} {estimate : Estimate α}
    (covered : CoveredBy children estimate) (factor : String) :
    CoveredBy children (estimate.withFactor factor) :=
  covered.congr (by simp) (by simp) (by simp)

end SyntaxNode

/-! ### The rules that combine children -/

namespace Parse

open SyntaxNode

variable {α : Type}

section Joined

variable {children : List (SyntaxNode α)} {child : SyntaxNode α}

theorem isKnown_joinedTime (children : List (SyntaxNode α)) :
    (joinedTime children).isKnown = true :=
  GrowthClass.isKnown_joinAll _

theorem isKnown_joinedSpace (children : List (SyntaxNode α)) :
    (joinedSpace children).isKnown = true :=
  GrowthClass.isKnown_joinAll _

theorem le_joinedTime (isChild : child ∈ children) (known : child.estimate.IsKnown) :
    child.estimate.time ≤ joinedTime children :=
  GrowthClass.le_joinAll (List.mem_map_of_mem isChild) known.1

theorem le_joinedSpace (isChild : child ∈ children) (known : child.estimate.IsKnown) :
    child.estimate.space ≤ joinedSpace children :=
  GrowthClass.le_joinAll (List.mem_map_of_mem isChild) known.2

/-- An estimate covers children as soon as it is above their joined classes. -/
theorem coveredBy_of_joined {estimate : Estimate α}
    (known : ∀ child ∈ children, child.estimate.IsKnown)
    (time : joinedTime children ≤ estimate.time)
    (space : joinedSpace children ≤ estimate.space)
    (exact : estimate.exact = true → allExact children = true) :
    CoveredBy children estimate := by
  constructor
  · exact ⟨time.1.symm.trans (isKnown_joinedTime children),
      space.1.symm.trans (isKnown_joinedSpace children)⟩
  · intro child isChild
    have childKnown := known child isChild
    refine ⟨(le_joinedTime isChild childKnown).trans time,
      (le_joinedSpace isChild childKnown).trans space, ?_⟩
    intro isExact
    exact List.all_eq_true.mp (exact isExact) child isChild

end Joined

variable [Scalar α]

theorem isKnown_statementEstimate (kind : NodeKind) (code : List Char) :
    (statementEstimate kind code : Estimate α).IsKnown := by
  unfold statementEstimate Statement.libraryGrowth?
  split
  · next time isTime =>
      have isLinearithmic : time = .linearithmic := by
        split at isTime
        · exact (Option.some.inj isTime).symm
        · contradiction
      simp [Estimate.IsKnown, Estimate.guess, isLinearithmic, GrowthClass.isKnown]
  · split
    · simp [Estimate.IsKnown, Estimate.guess, GrowthClass.isKnown]
    · split
      · simp [Estimate.IsKnown, Estimate.guess, GrowthClass.isKnown]
      · simp [Estimate.IsKnown, Estimate.constant, GrowthClass.isKnown]

theorem isKnown_leafEstimate (kind : NodeKind) (code : List Char)
    (container : Option ContainerKind) :
    (leafEstimate kind code container : Estimate α).IsKnown := by
  have statement := isKnown_statementEstimate (α := α) kind code
  cases container with
  | none => exact statement
  | some found =>
      refine ⟨?_, ?_⟩
      · simpa [leafEstimate] using statement.1
      · cases found <;> simp [leafEstimate, ContainerKind.space, GrowthClass.isKnown]

section Block

variable {children : List (SyntaxNode α)}
  (known : ∀ child ∈ children, child.estimate.IsKnown)

include known

theorem plainEstimate_covers (confidence : α) :
    CoveredBy children (plainEstimate confidence children) :=
  coveredBy_of_joined known (le_refl _) (le_refl _) fun isExact => isExact

theorem loopEstimate_covers (kind : LoopKind) (iteration : IterationPattern) :
    CoveredBy children (loopEstimate kind iteration children) := by
  refine coveredBy_of_joined known ?_ (le_refl _) ?_
  · exact GrowthClass.right_le_product _ (isKnown_joinedTime children)
  · intro isExact
    exact (Bool.and_eq_true_iff.mp isExact).2

/-- A recursion costs no less than its contents: a single call multiplies them, and any
other recursion is joined with them. -/
theorem recursiveEstimate_covers (shape : RecursionShape α) :
    CoveredBy children (recursiveEstimate shape children) := by
  refine ((coveredBy_of_joined known ?_ ?_ ?_).withFactor _).withFactor _
  · simp only [Estimate.guess]
    split
    · exact GrowthClass.right_le_product _ (isKnown_joinedTime children)
    · exact GrowthClass.right_le_join _ (isKnown_joinedTime children)
  · exact GrowthClass.right_le_join _ (isKnown_joinedSpace children)
  · intro isExact
    contradiction

theorem functionEstimate_covers (sites : Nat) (body : List CodeLine) :
    CoveredBy children (functionEstimate sites body children) := by
  unfold functionEstimate
  split
  · exact plainEstimate_covers known _
  · exact recursiveEstimate_covers known _

theorem buildBlock_covers (header : CodeLine) (body : List CodeLine)
    (outer : List (List Char)) (statement : Statement.Classified) :
    CoveredBy children (buildBlock header body outer statement children).estimate := by
  unfold buildBlock
  split
  · exact loopEstimate_covers known _ _
  · exact functionEstimate_covers known _ body
  · exact (plainEstimate_covers known _).withFactor _

end Block

@[simp] theorem programEstimate_time (children : List (SyntaxNode α)) (stats : ParseStats) :
    (programEstimate children stats).time = joinedTime children := by
  unfold programEstimate
  simp only
  split <;> split <;> simp [plainEstimate, Estimate.guess]

@[simp] theorem programEstimate_space (children : List (SyntaxNode α)) (stats : ParseStats) :
    (programEstimate children stats).space = joinedSpace children := by
  unfold programEstimate
  simp only
  split <;> split <;> simp [plainEstimate, Estimate.guess]

@[simp] theorem programEstimate_exact (children : List (SyntaxNode α)) (stats : ParseStats) :
    (programEstimate children stats).exact = allExact children := by
  unfold programEstimate
  simp only
  split <;> split <;> simp [plainEstimate]

theorem programEstimate_covers {children : List (SyntaxNode α)}
    (known : ∀ child ∈ children, child.estimate.IsKnown) (stats : ParseStats) :
    CoveredBy children (programEstimate children stats) := by
  apply coveredBy_of_joined known
  · rw [programEstimate_time]
  · rw [programEstimate_space]
  · rw [programEstimate_exact]
    exact fun isExact => isExact

/-- Every node that parsing builds covers its children. -/
theorem forest_covered (maxDepth depth : Nat) (outer : List (List Char))
    (lines : List CodeLine) :
    ∀ node ∈ walkAll (forest maxDepth depth outer lines : Forest α).nodes,
      CoveredBy node.children node.estimate := by
  apply forest_forall
  · intro line kind name _
    rw [leaf_children]
    exact ⟨isKnown_leafEstimate kind line.code _, by simp⟩
  · intro header body outer statement children below
    rw [buildBlock_children]
    apply buildBlock_covers
    intro child isChild
    have childInWalk := mem_walkAll.mpr ⟨child, isChild, self_mem_walk child⟩
    exact (below child childInWalk).1

end Parse

/-! ### Parsed sources -/

namespace SyntaxNode

variable {α : Type}

/-- Estimates grow toward the root: all classes are known, and each node covers all nodes
below it. -/
structure GrowsTowardRoot (root : SyntaxNode α) : Prop where
  known : ∀ node ∈ root.walk,
    node.estimate.time ≠ .unknown ∧ node.estimate.space ≠ .unknown
  time : ∀ node ∈ root.walk, ∀ below ∈ walkAll node.children,
    below.estimate.time ≤ node.estimate.time
  space : ∀ node ∈ root.walk, ∀ below ∈ walkAll node.children,
    below.estimate.space ≤ node.estimate.space
  /-- Nothing below an exact estimate is guessed. -/
  exact : ∀ node ∈ root.walk, node.estimate.exact = true →
    ∀ below ∈ walkAll node.children, below.estimate.exact = true

theorem GrowsTowardRoot.of_covered {root : SyntaxNode α}
    (covered : ∀ node ∈ root.walk, CoveredBy node.children node.estimate) :
    root.GrowsTowardRoot := by
  have above : ∀ node ∈ root.walk, ∀ below ∈ walkAll node.children, Above node below :=
    related_to_descendants fun parent inWalk child isChild =>
      (covered parent inWalk).2 child isChild
  constructor
  case known =>
    intro node member
    obtain ⟨timeKnown, spaceKnown⟩ := (covered node member).1
    exact ⟨GrowthClass.isKnown_iff.mp timeKnown, GrowthClass.isKnown_iff.mp spaceKnown⟩
  case time => exact fun node member below isBelow => (above node member below isBelow).time
  case space => exact fun node member below isBelow => (above node member below isBelow).space
  case exact =>
    exact fun node member isExact below isBelow =>
      (above node member below isBelow).exact isExact

end SyntaxNode

namespace ParsedSource

open SyntaxNode

variable {α : Type} [Scalar α]

theorem ofSource_covered (maxDepth : Nat) (source : NormalizedSource) :
    ∀ node ∈ (ofSource maxDepth source : ParsedSource α).root.walk,
      CoveredBy node.children node.estimate := by
  intro node member
  have below := Parse.forest_covered (α := α) (max maxDepth 1) 0 [] source.lines
  rw [walk_eq] at member
  rcases List.mem_cons.mp member with isRoot | isBelow
  · rw [isRoot]
    apply Parse.programEstimate_covers
    intro child isChild
    exact (below child (mem_walkAll.mpr ⟨child, isChild, self_mem_walk child⟩)).1
  · exact below node isBelow

/-- In the tree of every source text, complexity only grows toward the root. -/
theorem ofSource_growsTowardRoot (maxDepth : Nat) (text : List Char) :
    (ofSource maxDepth (NormalizedSource.ofText text) : ParsedSource α).root.GrowsTowardRoot :=
  .of_covered (ofSource_covered maxDepth (NormalizedSource.ofText text))

end ParsedSource

/-! ## Confidences

Estimates clamp their confidence, so all that has to be shown of a rule is that the value
it clamps is defined.  It is, because no rule leaves the numbers that are not negative. -/

open Thresholds (inUnit)
open UnitArithmetic

/-! ### Estimates -/

namespace Estimate

@[simp] theorem withFactor_confidence {α : Type} (estimate : Estimate α) (factor : String) :
    (estimate.withFactor factor).confidence = estimate.confidence := by
  unfold withFactor
  split <;> rfl

variable {α : Type} [Scalar α] [UnitArithmetic α]

theorem guess_inUnit (time space : GrowthClass) {confidence : α}
    (nonNegative : Scalar.le 0.0 confidence = true) :
    inUnit (guess time space confidence).confidence = true :=
  clampUnit_inUnit (isNaN_of_nonNegative nonNegative)

theorem guess_literal_inUnit (time space : GrowthClass) {digits places : Nat}
    (few : places ≤ 2) (small : digits ≤ 10 ^ places) :
    inUnit (guess time space (OfScientific.ofScientific digits true places : α)).confidence
      = true :=
  guess_inUnit time space (nonNegative_of_inUnit (literal_inUnit few small))

end Estimate

namespace Parse

variable {α : Type} [Scalar α] [UnitArithmetic α]

/-! ### Leaves -/

theorem statementEstimate_inUnit (kind : NodeKind) (code : List Char) :
    inUnit (statementEstimate kind code : Estimate α).confidence = true := by
  unfold statementEstimate
  split
  · rw [Estimate.withFactor_confidence]
    exact Estimate.guess_literal_inUnit _ _ (by decide) (by decide)
  · split_ifs
    · rw [Estimate.withFactor_confidence]
      exact Estimate.guess_literal_inUnit _ _ (by decide) (by decide)
    · rw [Estimate.withFactor_confidence]
      exact Estimate.guess_literal_inUnit _ _ (by decide) (by decide)
    · exact one_inUnit

theorem leafEstimate_inUnit (kind : NodeKind) (code : List Char)
    (container : Option ContainerKind) :
    inUnit (leafEstimate kind code container : Estimate α).confidence = true := by
  cases container with
  | none => exact statementEstimate_inUnit kind code
  | some found =>
      rw [leafEstimate, Estimate.withFactor_confidence]
      exact statementEstimate_inUnit kind code

/-! ### Blocks -/

section Blocks

variable {children : List (SyntaxNode α)}
  (inUnits : ∀ child ∈ children, inUnit child.estimate.confidence = true)

include inUnits

theorem leastConfidence_inUnit : inUnit (leastConfidence children) = true := by
  cases children with
  | nil => exact one_inUnit
  | cons first rest =>
      unfold leastConfidence
      refine List.foldlRecOn (motive := fun least => inUnit least = true) rest _ ?_ ?_
      · exact inUnits first List.mem_cons_self
      · intro least isLeast child isChild
        exact smaller_inUnit isLeast (inUnits child (List.mem_cons_of_mem first isChild))

/-- What is lowered by the confidences below stays defined. -/
theorem tempered_nonNegative {base : α} (isUnit : inUnit base = true)
    (positive : Scalar.lt 0.0 base = true) :
    Scalar.le 0.0 (tempered base (leastConfidence children)) = true := by
  have share : inUnit (0.2 * leastConfidence children) = true :=
    mul_inUnit (literal_inUnit (by decide) (by decide)) (leastConfidence_inUnit inUnits)
  have rest : Scalar.le 0.0 (0.8 : α) = true :=
    nonNegative_of_inUnit (literal_inUnit (by decide) (by decide))
  exact mul_nonNegative isUnit positive (add_nonNegative rest (nonNegative_of_inUnit share))

theorem tempered_literal_nonNegative {digits places : Nat} (few : places ≤ 2)
    (some : 0 < digits) (small : digits ≤ 10 ^ places) :
    Scalar.le 0.0 (tempered (OfScientific.ofScientific digits true places)
      (leastConfidence children)) = true :=
  tempered_nonNegative inUnits (literal_inUnit few small) (literal_positive few some small)

theorem loopEstimate_inUnit (kind : LoopKind) (iteration : IterationPattern) :
    inUnit (loopEstimate kind iteration children).confidence = true := by
  have guessed : Scalar.le 0.0 (tempered (loopConfidence kind) (leastConfidence children)) =
      true := by
    cases kind <;>
      exact tempered_literal_nonNegative inUnits (by decide) (by decide) (by decide)
  exact clampUnit_inUnit (isNaN_of_nonNegative guessed)

omit inUnits in
theorem plainEstimate_inUnit {confidence : α} (nonNegative : Scalar.le 0.0 confidence = true)
    (children : List (SyntaxNode α)) :
    inUnit (plainEstimate confidence children).confidence = true :=
  clampUnit_inUnit (isNaN_of_nonNegative nonNegative)

theorem functionEstimate_inUnit (sites : Nat) (body : List CodeLine) :
    inUnit (functionEstimate sites body children).confidence = true := by
  unfold functionEstimate
  split
  · exact plainEstimate_inUnit
      (tempered_literal_nonNegative inUnits (by decide) (by decide) (by decide)) children
  · simp only [recursiveEstimate, Estimate.withFactor_confidence]
    apply Estimate.guess_inUnit
    unfold RecursionShape.ofSites
    split
    · exact tempered_literal_nonNegative inUnits (by decide) (by decide) (by decide)
    · exact tempered_literal_nonNegative inUnits (by decide) (by decide) (by decide)
    · split <;>
        exact tempered_literal_nonNegative inUnits (by decide) (by decide) (by decide)

theorem buildBlock_inUnit (header : CodeLine) (body : List CodeLine)
    (outer : List (List Char)) (statement : Statement.Classified) :
    inUnit (buildBlock header body outer statement children).estimate.confidence = true := by
  unfold buildBlock
  split
  · exact loopEstimate_inUnit inUnits _ _
  · exact functionEstimate_inUnit inUnits _ _
  · rw [buildConditional, SyntaxNode.estimate, Estimate.withFactor_confidence]
    exact plainEstimate_inUnit (nonNegative_of_inUnit (leastConfidence_inUnit inUnits)) children

end Blocks

/-! ### Programs -/

theorem forest_inUnit (maxDepth depth : Nat) (outer : List (List Char))
    (lines : List CodeLine) :
    ∀ node ∈ SyntaxNode.walkAll (forest maxDepth depth outer lines : Forest α).nodes,
      inUnit node.estimate.confidence = true := by
  apply forest_forall
  · intro line kind name _
    exact leafEstimate_inUnit _ _ _
  · intro header body outer statement children inUnits
    apply buildBlock_inUnit
    intro child isChild
    exact inUnits child (SyntaxNode.mem_walkAll.mpr ⟨child, isChild, child.self_mem_walk⟩)

theorem meanConfidence_nonNegative {children : List (SyntaxNode α)}
    (inUnits : ∀ child ∈ children, inUnit child.estimate.confidence = true) :
    Scalar.le 0.0 ((Scalar.mean?
      (children.map fun child => child.estimate.confidence)).getD 1.0) = true := by
  cases isMean : Scalar.mean? (children.map fun child => child.estimate.confidence) with
  | none => exact nonNegative_of_inUnit one_inUnit
  | some mean =>
      refine mean?_nonNegative (fun value isValue => ?_) isMean
      obtain ⟨child, isChild, rfl⟩ := List.mem_map.mp isValue
      exact inUnits child isChild

theorem programEstimate_inUnit {children : List (SyntaxNode α)}
    (inUnits : ∀ child ∈ children, inUnit child.estimate.confidence = true)
    (stats : ParseStats) : inUnit (programEstimate children stats).confidence = true := by
  have plain := plainEstimate_inUnit (meanConfidence_nonNegative inUnits) children
  have unbalanced : inUnit (0.8 : α) = true := literal_inUnit (by decide) (by decide)
  have sparse : inUnit (0.9 : α) = true := literal_inUnit (by decide) (by decide)
  unfold programEstimate
  simp only
  split_ifs
  · simp only [Estimate.withFactor_confidence]
    exact mul_inUnit (mul_inUnit plain unbalanced) sparse
  · rw [Estimate.withFactor_confidence]
    exact mul_inUnit plain sparse
  · rw [Estimate.withFactor_confidence]
    exact mul_inUnit plain unbalanced
  · exact plain

end Parse

/-- Every node of a parsed source has a confidence in the unit interval. -/
theorem ParsedSource.ofSource_inUnit {α : Type} [Scalar α] [UnitArithmetic α] (maxDepth : Nat)
    (source : NormalizedSource) :
    ∀ node ∈ (ofSource maxDepth source : ParsedSource α).root.walk,
      inUnit node.estimate.confidence = true := by
  intro node isNode
  have inForest := Parse.forest_inUnit (α := α) (max maxDepth 1) 0 [] source.lines
  rw [SyntaxNode.walk_eq] at isNode
  rcases List.mem_cons.mp isNode with rfl | isBelow
  · apply Parse.programEstimate_inUnit
    intro child isChild
    exact inForest child (SyntaxNode.mem_walkAll.mpr ⟨child, isChild, child.self_mem_walk⟩)
  · exact inForest node isBelow

end GrowthEstimate
