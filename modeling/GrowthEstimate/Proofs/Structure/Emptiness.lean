import GrowthEstimate.Proofs.Catalogue.Entry
import GrowthEstimate.Proofs.Number.Order
import GrowthEstimate.Proofs.Structure.Verdict
import GrowthEstimate.Proofs.Tree.Lines

/-!
Contract: which sources get the verdict on nothing at all.

Owns: that a tree has no nodes if and only if no line starts one, where the factors of a
verdict come from, and the exact condition for a verdict to name the input empty.

Does **not** own: what a blank source is reported as in the end.

The verdict is reached from the tree and not from the text.  A source whose lines are all
skipped has a tree without nodes just as an empty one has, so it is called empty too.
-/

set_option autoImplicit false

namespace GrowthEstimate

open Thresholds (inUnit)

/-! ## Trees without nodes -/

theorem Parse.forest_nodes_eq_nil_iff {α : Type} [Scalar α] (maxDepth depth : Nat)
    (outer : List (List Char)) (lines : List CodeLine) :
    (forest maxDepth depth outer lines : Forest α).nodes = [] ↔
      ∀ line ∈ lines, line.isPlaced = false := by
  fun_induction forest (α := α) maxDepth depth outer lines with
  | case1 => simp [Forest.none]
  | case2 depth outer line rest isBlank inductionHypothesis =>
      simp [inductionHypothesis, CodeLine.isPlaced, isBlank]
  | case3 depth outer line rest isCode noKind others isNoise inductionHypothesis =>
      simpa [isPlaced_eq_false_of_classify noKind] using inductionHypothesis
  | case4 depth outer line rest isCode noKind others isSkipped inductionHypothesis =>
      show (forest maxDepth depth outer rest : Forest α).nodes = [] ↔ _
      simpa [isPlaced_eq_false_of_classify noKind] using inductionHypothesis
  | case5 depth outer line rest isCode statement isKind isSingle inductionHypothesis =>
      simp [Forest.afterLeaf, CodeLine.isPlaced_of_classify isCode isKind]
  | case6 depth outer line rest isCode statement isKind isBlock extent body inner contents behind =>
      simp [Forest.afterBlock, CodeLine.isPlaced_of_classify isCode isKind]

/-! ## Factors -/

theorem Estimate.mem_factors_withFactor {α : Type} {estimate : Estimate α}
    {factor added : String} (member : factor ∈ (estimate.withFactor added).factors) :
    factor ∈ estimate.factors ∨ factor = added := by
  unfold withFactor at member
  split at member
  · exact Or.inl member
  · simpa using member

/-- A program as a whole is only remarked on for its braces and for its skipped lines. -/
theorem Parse.mem_factors_programEstimate {α : Type} [Scalar α] {children : List (SyntaxNode α)}
    {stats : ParseStats} {factor : String}
    (member : factor ∈ (programEstimate children stats).factors) :
    factor = "unbalanced-braces" ∨ factor = "low-coverage" := by
  have onBraces {base : Estimate α} (noFactors : base.factors = [])
      (member : factor ∈ (if stats.unbalancedBlocks > 0 then
        ({ base with confidence := base.confidence * 0.8 } : Estimate α).withFactor
          "unbalanced-braces" else base).factors) : factor = "unbalanced-braces" := by
    split at member
    · rcases Estimate.mem_factors_withFactor member with isOld | isBraces
      · simp [noFactors] at isOld
      · exact isBraces
    · simp [noFactors] at member
  unfold programEstimate at member
  extract_lets mean base balanced at member
  split at member
  · rcases Estimate.mem_factors_withFactor member with isOld | isCoverage
    · exact Or.inl (onBraces rfl isOld)
    · exact Or.inr isCoverage
  · exact Or.inl (onBraces rfl member)

/-! ## Verdicts -/

namespace StructuralVerdict

variable {α : Type} [Scalar α]

/-- The verdict calls its input empty, and is sure of it. -/
def CallsEmpty (verdict : StructuralVerdict α) : Prop :=
  "empty-input" ∈ verdict.factors ∧ verdict.confidence = 1.0

/-- A tree that has nodes, or that algorithms are recognised in, is not called empty, unless
its root already is. -/
theorem ofTree_callsEmpty_iff (policy : PatternPrecedence) {root : SyntaxNode α}
    {found : List (AlgorithmMatch α)} (notSaid : "empty-input" ∉ root.estimate.factors) :
    (ofTree policy root found).CallsEmpty ↔ root.children = [] ∧ found = [] := by
  unfold ofTree CallsEmpty
  split
  · next nothing =>
      rw [Bool.and_eq_true, List.isEmpty_iff, List.isEmpty_iff] at nothing
      exact iff_of_true ⟨List.mem_cons_self, rfl⟩ nothing
  · next something =>
      rw [Bool.and_eq_true, List.isEmpty_iff, List.isEmpty_iff] at something
      refine iff_of_false ?_ something
      rintro ⟨member, _⟩
      rcases List.mem_append.mp member with ofTree | ofMatch
      · exact notSaid ofTree
      · obtain ⟨one, _, isPattern⟩ := List.mem_map.mp ofMatch
        have sameText := congrArg String.toList isPattern
        rw [String.toList_append] at sameText
        exact absurd (List.cons.inj sameText).1 (by decide)

/-- Code without functions, loops and matches is given one half. -/
theorem ofTree_half [UnitOrder α] (policy : PatternPrecedence) {root : SyntaxNode α}
    (someNodes : root.children ≠ []) (noFunctions : root.count .function = 0)
    (noLoops : root.count .loop = 0) : (ofTree policy root []).confidence = 0.5 := by
  have noneWeighed : (root.walk.filter fun node => node.kind == .function || node.kind == .loop)
      = [] := by
    rw [List.filter_eq_nil_iff]
    intro node isNode
    have notFunction := List.countP_eq_zero.mp noFunctions node isNode
    have notLoop := List.countP_eq_zero.mp noLoops node isNode
    rw [Bool.or_eq_true]
    exact not_or.mpr ⟨notFunction, notLoop⟩
  have isCode : ¬(root.children.isEmpty && ([] : List (AlgorithmMatch α)).isEmpty) = true := by
    simpa using someNodes
  rw [ofTree, if_neg isCode]
  show Scalar.clampUnit (blend _ (List.map _ (root.walk.filter _))) = 0.5
  rw [noneWeighed]
  exact UnitOrder.clampUnit_of_inUnit (UnitArithmetic.literal_inUnit (by decide) (by decide))

/-- A source is called empty for what its tree and its matches are, not for its text. -/
theorem ofSource_callsEmpty (policy : PatternPrecedence) (maxDepth : Nat)
    (source : NormalizedSource) (found : List (AlgorithmMatch α)) :
    (ofTree policy (ParsedSource.ofSource maxDepth source).root found).CallsEmpty ↔
      (∀ line ∈ source.lines, line.isPlaced = false) ∧ found = [] := by
  have childless := Parse.forest_nodes_eq_nil_iff (α := α) (max maxDepth 1) 0 [] source.lines
  rw [← childless]
  apply ofTree_callsEmpty_iff
  intro member
  rcases Parse.mem_factors_programEstimate member with isBraces | isCoverage
  · exact absurd isBraces (by decide)
  · exact absurd isCoverage (by decide)

/-- A source is called empty if and only if no line of it starts a node and nothing is
recognised in it.  Sources without code are, and code that starts some node but has no
function, no loop and no match is given one half. -/
theorem ofSource_callsEmpty_iff [UnitOrder α] (policy : PatternPrecedence) (maxDepth : Nat)
    (text : List Char) :
    let source := NormalizedSource.ofText text
    let root : SyntaxNode α := (ParsedSource.ofSource maxDepth source).root
    let found : List (AlgorithmMatch α) := Catalogue.detect source root
    let verdict := ofTree policy root found
    (verdict.CallsEmpty ↔ (∀ line ∈ source.lines, line.isPlaced = false) ∧ found = []) ∧
    (source.isBlank = true → verdict.CallsEmpty) ∧
    ((∃ line ∈ source.lines, line.isPlaced = true) → root.count .function = 0 →
      root.count .loop = 0 → found = [] → verdict.confidence = 0.5) := by
  intro source root found verdict
  have childless : root.children = [] ↔ ∀ line ∈ source.lines, line.isPlaced = false :=
    Parse.forest_nodes_eq_nil_iff _ _ _ _
  have callsEmpty := ofSource_callsEmpty policy maxDepth source found
  refine ⟨callsEmpty, ?_, ?_⟩
  · intro blank
    have nonePlaced : ∀ line ∈ source.lines, line.isPlaced = false := by
      intro line isLine
      simp [CodeLine.isPlaced, List.all_eq_true.mp blank line isLine]
    have nothingFound := Catalogue.detect_of_blank blank rfl (childless.mpr nonePlaced)
    exact callsEmpty.mpr ⟨nonePlaced, nothingFound⟩
  · rintro ⟨line, isLine, placed⟩ noFunctions noLoops nothingFound
    have someNodes : root.children ≠ [] := by
      intro noNodes
      rw [childless.mp noNodes line isLine] at placed
      contradiction
    show (ofTree policy root found).confidence = 0.5
    rw [nothingFound]
    exact ofTree_half policy someNodes noFunctions noLoops

/-- A single binding. -/
theorem ofSource_callsEmpty_iff_binding :
    let source := NormalizedSource.ofText "x = 1\n".toList
    let root : SyntaxNode Float := (ParsedSource.ofSource Parse.defaultMaxDepth source).root
    (∃ line ∈ source.lines, line.isPlaced = true) ∧ root.count .function = 0 ∧
      root.count .loop = 0 ∧
      (ofTree .patternFirst root (Catalogue.detect source root)).confidence = 0.5 := by
  intro source root
  have placed : ∃ line ∈ source.lines, line.isPlaced = true := by decide +kernel
  have noFunctions : root.count .function = 0 := by decide +kernel
  have noLoops : root.count .loop = 0 := by decide +kernel
  have nothingFound : (Catalogue.detect source root : List (AlgorithmMatch Float)) = [] :=
    List.isEmpty_iff.mp (by decide +kernel)
  exact ⟨placed, noFunctions, noLoops,
    (ofSource_callsEmpty_iff .patternFirst Parse.defaultMaxDepth "x = 1\n".toList).2.2 placed
      noFunctions noLoops nothingFound⟩

/-- Prose is not blank, and is called empty all the same. -/
theorem prose_callsEmpty :
    let source := NormalizedSource.ofText "lorem ipsum dolor sit amet\n".toList
    let root : SyntaxNode Float := (ParsedSource.ofSource Parse.defaultMaxDepth source).root
    let verdict := ofTree .patternFirst root (Catalogue.detect source root)
    source.isBlank = false ∧ verdict.CallsEmpty ∧ verdict.confidence ≠ 0.5 := by
  intro source root verdict
  have nonePlaced : ∀ line ∈ source.lines, line.isPlaced = false := by decide +kernel
  have noNodes : root.children = [] := (Parse.forest_nodes_eq_nil_iff _ _ _ _).mpr nonePlaced
  have noSigns : ∀ sign ∈ Catalogue.decisiveSigns,
      (Evidence.View.of source root).shows sign = false := by decide +kernel
  have nothingFound : (Catalogue.detect source root : List (AlgorithmMatch Float)) = [] :=
    Catalogue.detect_eq_nil rfl noNodes noSigns
  have callsEmpty : verdict.CallsEmpty :=
    (ofSource_callsEmpty _ _ source _).mpr ⟨nonePlaced, nothingFound⟩
  refine ⟨by decide, callsEmpty, ?_⟩
  rw [callsEmpty.2]
  intro same
  exact absurd (congrArg (Scalar.lt 0.5) same) (by decide +kernel)

end StructuralVerdict

end GrowthEstimate
