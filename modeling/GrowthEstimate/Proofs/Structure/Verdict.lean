import GrowthEstimate.Proofs.Catalogue.Entry
import GrowthEstimate.Proofs.Number.Order
import GrowthEstimate.Proofs.Tree.Estimate
import GrowthEstimate.Structure.Verdict

/-!
Contract: where the classes and the confidence of a structural verdict come from.

Owns: grounded verdicts, whose classes are known and whose time class is that of the tree or of the
strongest match; the confidences of matches, and their blend with those of functions and loops; the
first match of greatest confidence, the greatest of some classes, the bounds of means, and the laws
by which a verdict on a parsed source comes from its tree and from any matches.

Does **not** own: which matches a source has, and what rounding makes of a blend.
-/

set_option autoImplicit false

namespace GrowthEstimate

/-! ## Grounded verdicts -/

namespace StructuralVerdict

variable {α : Type}

/-- The classes of the verdict are known, its time class is one that was found, and the
split recorded for the strongest match is around the class of that match. -/
structure Grounded (verdict : StructuralVerdict α) : Prop where
  tree : verdict.treeClass.isKnown = true
  pattern : ∀ growth, verdict.patternClass = some growth → growth.isKnown = true
  time : verdict.time = verdict.treeClass ∨ verdict.patternClass = some verdict.time
  cases : ∀ name, verdict.primaryPattern = some name →
    ∀ growth, verdict.patternClass = some growth →
      ∀ split, Catalogue.casesOf? name = some split → split.Around growth

variable [Scalar α]

/-- Every policy picks one of the two signals. -/
theorem timeUnder_eq_or (policy : PatternPrecedence) (tree : Estimate α)
    (best : Option (AlgorithmMatch α)) :
    timeUnder policy tree best = tree.time
      ∨ best.map AlgorithmMatch.time = some (timeUnder policy tree best) := by
  cases best with
  | none =>
      left
      cases policy <;> rfl
  | some found =>
      cases policy with
      | patternFirst => exact Or.inr rfl
      | structureFirst => exact Or.inl rfl
      | strongest =>
          simp only [timeUnder, Option.map_some]
          split
          · exact Or.inr rfl
          · exact Or.inl rfl

theorem ofNothing_grounded (shape : CodeShape) :
    (ofNothing shape : StructuralVerdict α).Grounded where
  tree := rfl
  pattern growth isPattern := by contradiction
  time := Or.inl rfl
  cases name isPrimary := by contradiction

theorem ofTree_grounded (policy : PatternPrecedence) {root : SyntaxNode α}
    {found : List (AlgorithmMatch α)} (tree : root.estimate.time.isKnown = true)
    (listed : ∀ one ∈ found, one.Listed) : (ofTree policy root found).Grounded := by
  unfold ofTree
  split
  · exact ofNothing_grounded _
  · constructor
    case tree => exact tree
    case pattern =>
      intro growth isPattern
      obtain ⟨best, isBest, rfl⟩ := Option.map_eq_some_iff.mp isPattern
      exact (listed best (AlgorithmMatch.strongest?_mem isBest)).known
    case time => exact timeUnder_eq_or policy root.estimate _
    case cases =>
      intro name isPrimary growth isPattern split recorded
      obtain ⟨best, isBest, rfl⟩ := Option.map_eq_some_iff.mp isPattern
      have sameName : best.name = name := by simpa [isBest] using isPrimary
      rw [← sameName] at recorded
      exact (listed best (AlgorithmMatch.strongest?_mem isBest)).cases split recorded

/-- The verdict that is reached on a source from its own tree and its own matches. -/
theorem ofSource_grounded (policy : PatternPrecedence) (maxDepth : Nat)
    (source : NormalizedSource) :
    let root : SyntaxNode α := (ParsedSource.ofSource maxDepth source).root
    (ofTree policy root (Catalogue.detect source root)).Grounded := by
  intro root
  have covered := ParsedSource.ofSource_covered (α := α) maxDepth source root
    (SyntaxNode.self_mem_walk root)
  exact ofTree_grounded policy covered.1.1 (Catalogue.matchesOf_listed _)

/-- The tree of a source without code is constant, whatever is recognised in it. -/
theorem treeClass_of_blank (policy : PatternPrecedence) (maxDepth : Nat)
    {source : NormalizedSource} (blank : source.isBlank = true)
    (found : List (AlgorithmMatch α)) :
    (ofTree policy (ParsedSource.ofSource maxDepth source).root found).treeClass = .const := by
  have noNodes := Parse.forest_of_blank (α := α) (max maxDepth 1) 0 []
    (List.all_eq_true.mp blank)
  unfold ofTree
  split
  · rfl
  · show (Parse.programEstimate (α := α) _ _).time = .const
    rw [Parse.programEstimate_time, noNodes]
    rfl

end StructuralVerdict

/-! ## Confidences in the unit interval -/

section Confidences

open Thresholds (inUnit)
open UnitArithmetic

/-! ### Matches -/

namespace Catalogue

theorem entries_hundredths : ∀ entry ∈ entries, entry.hundredths ≤ 100 := by
  decide

theorem matchesOf_inUnit {α : Type} [Scalar α] [UnitArithmetic α] (evidence : Evidence) :
    ∀ found ∈ (matchesOf evidence : List (AlgorithmMatch α)),
      inUnit found.confidence = true := by
  intro found member
  obtain ⟨entry, entryMember, isMatch⟩ := List.mem_filterMap.mp member
  unfold CatalogueEntry.match? at isMatch
  split at isMatch
  · rw [← Option.some.inj isMatch]
    exact literal_inUnit (by decide) (entries_hundredths entry entryMember)
  · contradiction

end Catalogue

/-! ### Structural verdicts -/

namespace StructuralVerdict

variable {α : Type} [Scalar α]

/-- The confidences of the verdict lie in the unit interval. -/
structure InUnit (verdict : StructuralVerdict α) : Prop where
  confidence : inUnit verdict.confidence = true
  pattern : ∀ confidence, verdict.patternConfidence = some confidence →
    inUnit confidence = true

variable [UnitArithmetic α]

theorem blend_nonNegative {matched structural : List α}
    (matchedInUnit : ∀ value ∈ matched, inUnit value = true)
    (structuralInUnit : ∀ value ∈ structural, inUnit value = true) :
    Scalar.le 0.0 (blend matched structural) = true := by
  unfold blend
  split
  · next patterns shape isPatterns isShape =>
    have patternPart : Scalar.le 0.0 (0.4 * patterns) = true :=
      mul_nonNegative (literal_inUnit (by decide) (by decide))
        (literal_positive (by decide) (by decide) (by decide))
        (mean?_nonNegative matchedInUnit isPatterns)
    have shapePart : Scalar.le 0.0 (0.6 * shape) = true :=
      mul_nonNegative (literal_inUnit (by decide) (by decide))
        (literal_positive (by decide) (by decide) (by decide))
        (mean?_nonNegative structuralInUnit isShape)
    exact add_nonNegative patternPart shapePart
  · next only isOnly _ => exact mean?_nonNegative matchedInUnit isOnly
  · next only _ isOnly => exact mean?_nonNegative structuralInUnit isOnly
  · exact nonNegative_of_inUnit (literal_inUnit (by decide) (by decide))

theorem ofNothing_inUnit (shape : CodeShape) : (ofNothing shape : StructuralVerdict α).InUnit where
  confidence := one_inUnit
  pattern confidence isPattern := by contradiction

theorem ofTree_inUnit (policy : PatternPrecedence) {root : SyntaxNode α}
    {found : List (AlgorithmMatch α)}
    (nodes : ∀ node ∈ root.walk, inUnit node.estimate.confidence = true)
    (matched : ∀ one ∈ found, inUnit one.confidence = true) :
    (ofTree policy root found).InUnit := by
  unfold ofTree
  split
  · exact ofNothing_inUnit _
  · constructor
    case confidence =>
      refine clampUnit_inUnit (isNaN_of_nonNegative (blend_nonNegative ?_ ?_))
      · intro value isValue
        obtain ⟨one, isFound, rfl⟩ := List.mem_map.mp isValue
        exact matched one isFound
      · intro value isValue
        obtain ⟨node, isWeighed, rfl⟩ := List.mem_map.mp isValue
        exact nodes node (List.mem_filter.mp isWeighed).1
    case pattern =>
      intro confidence isPattern
      obtain ⟨best, isBest, rfl⟩ := Option.map_eq_some_iff.mp isPattern
      exact matched best (AlgorithmMatch.strongest?_mem isBest)

theorem ofSource_inUnit (policy : PatternPrecedence) (maxDepth : Nat)
    (source : NormalizedSource) :
    let root : SyntaxNode α := (ParsedSource.ofSource maxDepth source).root
    (ofTree policy root (Catalogue.detect source root)).InUnit :=
  ofTree_inUnit policy (ParsedSource.ofSource_inUnit maxDepth source)
    (Catalogue.matchesOf_inUnit _)

end StructuralVerdict

end Confidences

/-! ## Aggregation

The matches may be any, also such as no source has.  The tree must be one that was parsed: a
verdict on nothing at all is constant, and so is the tree of a source without statements. -/

/-! ### The first strongest match -/

namespace AlgorithmMatch

/-- The match is one of those listed.  Those before it are less confident and those after it
are not more confident. -/
def FirstStrongest (found : List (AlgorithmMatch ℝ)) (best : AlgorithmMatch ℝ) : Prop :=
  ∃ earlier later, found = earlier ++ best :: later
    ∧ (∀ one ∈ earlier, one.confidence < best.confidence)
    ∧ ∀ one ∈ later, one.confidence ≤ best.confidence

theorem FirstStrongest.le_best {found : List (AlgorithmMatch ℝ)} {best : AlgorithmMatch ℝ}
    (first : FirstStrongest found best) :
    ∀ one ∈ found, one.confidence ≤ best.confidence := by
  obtain ⟨earlier, later, rfl, isBefore, isAfter⟩ := first
  intro one isListed
  rcases List.mem_append.mp isListed with isEarlier | isRest
  · exact (isBefore one isEarlier).le
  · rcases List.mem_cons.mp isRest with rfl | isLater
    · exact le_rfl
    · exact isAfter one isLater

/-- One more match behind the others takes the lead only if it is more confident. -/
theorem FirstStrongest.concat {found : List (AlgorithmMatch ℝ)} {best : AlgorithmMatch ℝ}
    (first : FirstStrongest found best) (challenger : AlgorithmMatch ℝ) :
    FirstStrongest (found ++ [challenger])
      (if Scalar.lt best.confidence challenger.confidence then challenger else best) := by
  split
  · next stronger =>
      rw [Exact.lt_iff] at stronger
      refine ⟨found, [], rfl, ?_, List.forall_mem_nil _⟩
      intro one isListed
      exact (first.le_best one isListed).trans_lt stronger
  · next notStronger =>
      rw [Exact.lt_iff, not_lt] at notStronger
      obtain ⟨earlier, later, rfl, isBefore, isAfter⟩ := first
      refine ⟨earlier, later ++ [challenger], by simp, isBefore, ?_⟩
      intro one isLater
      rcases List.mem_append.mp isLater with isOld | isNew
      · exact isAfter one isOld
      · rw [List.mem_singleton.mp isNew]
        exact notStronger

theorem strongest?_firstStrongest {found : List (AlgorithmMatch ℝ)} (notEmpty : found ≠ []) :
    ∃ best, strongest? found = some best ∧ FirstStrongest found best := by
  cases found with
  | nil => contradiction
  | cons first rest =>
      refine ⟨_, rfl, ?_⟩
      -- the fold goes on at the end of the list, so that is where the induction adds a match
      induction rest using List.reverseRecOn with
      | nil => exact ⟨[], [], rfl, List.forall_mem_nil _, List.forall_mem_nil _⟩
      | append_singleton rest challenger inductionHypothesis =>
          rw [List.foldl_append]
          exact (inductionHypothesis (List.cons_ne_nil first rest)).concat challenger

end AlgorithmMatch

/-! ### The greatest class -/

namespace GrowthClass

/-- The classes of a list, without those that are not known. -/
def knownAmong (classes : List GrowthClass) : Set GrowthClass :=
  {growth | growth ∈ classes ∧ growth ≠ unknown}

theorem isGreatest_foldl_join {start : GrowthClass} (known : start.isKnown = true)
    (classes : List GrowthClass) :
    IsGreatest (knownAmong (start :: classes)) (classes.foldl join start) := by
  have above := start_le_foldl_join known classes
  constructor
  · refine ⟨List.mem_cons.mpr (foldl_join_mem classes start), ?_⟩
    exact isKnown_iff.mp (above.1.symm.trans known)
  · rintro growth ⟨isListed, isKnown⟩
    rcases List.mem_cons.mp isListed with rfl | isClass
    · exact above
    · exact le_foldl_join isClass (isKnown_iff.mpr isKnown) start

end GrowthClass

/-! ### Means -/

namespace Exact

section Bounds

variable {low high : ℝ}

/-- A mean lies between any bounds of its values. -/
theorem mean?_between {values : List ℝ} (bounded : ∀ value ∈ values, low ≤ value ∧ value ≤ high)
    {mean : ℝ} (isMean : Scalar.mean? values = some mean) : low ≤ mean ∧ mean ≤ high := by
  unfold Scalar.mean? at isMean
  split at isMean
  · contradiction
  · next notEmpty =>
      have some : (0 : ℝ) < values.length := by
        rw [Nat.cast_pos, List.length_pos_iff]
        simpa using notEmpty
      have atLeast := List.card_nsmul_le_sum values low fun value isValue =>
        (bounded value isValue).1
      have atMost := List.sum_le_card_nsmul values high fun value isValue =>
        (bounded value isValue).2
      rw [nsmul_eq_mul] at atLeast atMost
      rw [← Option.some.inj isMean, sum_eq]
      show low ≤ values.sum / values.length ∧ values.sum / values.length ≤ high
      rw [le_div_iff₀ some, div_le_iff₀ some, mul_comm low, mul_comm high]
      exact ⟨atLeast, atMost⟩

/-- The parts of a blend add up to a whole, so a blend lies between any bounds of what is
blended. -/
theorem blend_between {matched structural : List ℝ} (notEmpty : matched ++ structural ≠ [])
    (bounded : ∀ value ∈ matched ++ structural, low ≤ value ∧ value ≤ high) :
    low ≤ StructuralVerdict.blend matched structural ∧
      StructuralVerdict.blend matched structural ≤ high := by
  obtain ⟨matchedBounded, structuralBounded⟩ := List.forall_mem_append.mp bounded
  unfold StructuralVerdict.blend
  split
  · next patterns shape isPatterns isShape =>
      obtain ⟨lowPatterns, patternsHigh⟩ := mean?_between matchedBounded isPatterns
      obtain ⟨lowShape, shapeHigh⟩ := mean?_between structuralBounded isShape
      norm_num
      constructor <;> linarith
  · next only isOnly _ => exact mean?_between matchedBounded isOnly
  · next only _ isOnly => exact mean?_between structuralBounded isOnly
  · next noPatterns noShape =>
      simp only [Scalar.mean?, ite_eq_left_iff, reduceCtorEq, imp_false, not_not,
        List.isEmpty_iff] at noPatterns noShape
      exact absurd (List.append_eq_nil_iff.mpr ⟨noPatterns, noShape⟩) notEmpty

end Bounds

/-- Values that are there have a least and a greatest one. -/
theorem exists_extremes {values : List ℝ} (notEmpty : values ≠ []) :
    ∃ low high, IsLeast {value | value ∈ values} low ∧
      IsGreatest {value | value ∈ values} high := by
  have someValue : values.toFinset.Nonempty := List.toFinset_nonempty_iff values |>.mpr notEmpty
  have sameValues : (values.toFinset : Set ℝ) = {value | value ∈ values} := List.coe_toFinset values
  rw [← sameValues]
  exact ⟨_, _, values.toFinset.isLeast_min' someValue, values.toFinset.isGreatest_max' someValue⟩

end Exact

/-! ### Verdicts -/

/-- The tree of a source without statements is constant. -/
theorem ParsedSource.ofSource_childless {α : Type} [Scalar α] (maxDepth : Nat)
    (source : NormalizedSource) :
    let root : SyntaxNode α := (ofSource maxDepth source).root
    root.children = [] → root.estimate.time = .const ∧ root.estimate.space = .const := by
  intro root childless
  show (Parse.programEstimate root.children _).time = .const ∧
    (Parse.programEstimate root.children _).space = .const
  rw [Parse.programEstimate_time, Parse.programEstimate_space, childless]
  exact ⟨rfl, rfl⟩

namespace StructuralVerdict

/-- The confidences that a verdict blends: those of the matches, and those of functions and
loops. -/
def blended (root : SyntaxNode ℝ) (found : List (AlgorithmMatch ℝ)) : List ℝ :=
  found.map AlgorithmMatch.confidence ++
    (root.walk.filter fun node => node.kind == .function || node.kind == .loop).map
      fun node => node.estimate.confidence

/-- How a verdict comes from a tree and from matches. -/
structure Aggregates (root : SyntaxNode ℝ) (found : List (AlgorithmMatch ℝ)) : Prop where
  structureFirst : (ofTree .structureFirst root found).time = root.estimate.time
  /-- Without a match every policy leaves the class of the tree. -/
  unmatched : found = [] → ∀ policy, (ofTree policy root found).time = root.estimate.time
  matched : found ≠ [] → ∃ best, AlgorithmMatch.FirstStrongest found best ∧
    (ofTree .patternFirst root found).time = best.time ∧
    (ofTree .strongest root found).time =
      if root.estimate.confidence < best.confidence then best.time else root.estimate.time
  space : ∀ policy, IsGreatest
    (GrowthClass.knownAmong (root.estimate.space :: found.map AlgorithmMatch.space))
    (ofTree policy root found).space
  /-- The order of matches does not matter for the space. -/
  permuted : ∀ policy others, found.Perm others →
    (ofTree policy root others).space = (ofTree policy root found).space
  /-- Space does not drop where matches are added. -/
  added : ∀ policy others, found ⊆ others →
    (ofTree policy root found).space ≤ (ofTree policy root others).space
  confidence : (∀ one ∈ found, 0 ≤ one.confidence ∧ one.confidence ≤ 1) →
    blended root found ≠ [] → ∃ low high,
      IsLeast {value | value ∈ blended root found} low ∧
      IsGreatest {value | value ∈ blended root found} high ∧
      ∀ policy, low ≤ (ofTree policy root found).confidence ∧
        (ofTree policy root found).confidence ≤ high

section Trees

variable {root : SyntaxNode ℝ}

/-- The verdict on nothing is constant, which is what the policies would leave too. -/
theorem ofTree_time (bare : root.children = [] → root.estimate.time = .const)
    (policy : PatternPrecedence) (found : List (AlgorithmMatch ℝ)) :
    (ofTree policy root found).time =
      timeUnder policy root.estimate (AlgorithmMatch.strongest? found) := by
  unfold ofTree
  split
  · next nothing =>
      rw [Bool.and_eq_true, List.isEmpty_iff, List.isEmpty_iff] at nothing
      rw [nothing.2]
      cases policy <;> exact (bare nothing.1).symm
  · rfl

theorem ofTree_space (bare : root.children = [] → root.estimate.space = .const)
    (policy : PatternPrecedence) (found : List (AlgorithmMatch ℝ)) :
    (ofTree policy root found).space =
      (found.map AlgorithmMatch.space).foldl .join root.estimate.space := by
  unfold ofTree
  split
  · next nothing =>
      rw [Bool.and_eq_true, List.isEmpty_iff, List.isEmpty_iff] at nothing
      rw [nothing.2]
      exact (bare nothing.1).symm
  · rfl

theorem ofTree_space_isGreatest (bare : root.children = [] → root.estimate.space = .const)
    (known : root.estimate.space.isKnown = true) (policy : PatternPrecedence)
    (found : List (AlgorithmMatch ℝ)) :
    IsGreatest (GrowthClass.knownAmong (root.estimate.space :: found.map AlgorithmMatch.space))
      (ofTree policy root found).space := by
  rw [ofTree_space bare]
  exact GrowthClass.isGreatest_foldl_join known _

theorem ofTree_space_mono (bare : root.children = [] → root.estimate.space = .const)
    (known : root.estimate.space.isKnown = true) (policy : PatternPrecedence)
    {fewer more : List (AlgorithmMatch ℝ)} (among : fewer ⊆ more) :
    (ofTree policy root fewer).space ≤ (ofTree policy root more).space := by
  apply (ofTree_space_isGreatest bare known policy fewer).mono
    (ofTree_space_isGreatest bare known policy more)
  rintro growth ⟨isListed, isKnown⟩
  exact ⟨List.cons_subset_cons _ (List.map_subset _ among) isListed, isKnown⟩

/-- Where something is blended, the verdict is not the one on nothing. -/
theorem ofTree_confidence (isProgram : root.kind = .program)
    {found : List (AlgorithmMatch ℝ)} (notEmpty : blended root found ≠ [])
    (policy : PatternPrecedence) :
    (ofTree policy root found).confidence = Scalar.clampUnit
      (blend (found.map AlgorithmMatch.confidence)
        ((root.walk.filter fun node => node.kind == .function || node.kind == .loop).map
          fun node => node.estimate.confidence)) := by
  have something : ¬(root.children.isEmpty && found.isEmpty) = true := by
    rw [Bool.and_eq_true, List.isEmpty_iff, List.isEmpty_iff]
    rintro ⟨childless, unmatched⟩
    apply notEmpty
    rw [blended, unmatched, SyntaxNode.walk_eq, childless]
    simp [isProgram]
  rw [ofTree, if_neg something]

theorem ofTree_confidence_between (isProgram : root.kind = .program)
    {found : List (AlgorithmMatch ℝ)} (units : ∀ value ∈ blended root found, 0 ≤ value ∧ value ≤ 1)
    (notEmpty : blended root found ≠ []) {low high : ℝ}
    (bounded : ∀ value ∈ blended root found, low ≤ value ∧ value ≤ high)
    (policy : PatternPrecedence) :
    low ≤ (ofTree policy root found).confidence ∧
      (ofTree policy root found).confidence ≤ high := by
  have inUnit := Thresholds.inUnit_iff.mpr (Exact.blend_between notEmpty units)
  rw [ofTree_confidence isProgram notEmpty, UnitOrder.clampUnit_of_inUnit inUnit]
  exact Exact.blend_between notEmpty bounded

end Trees

/-- The verdict on a parsed source and on any matches.  Structure first leaves the time class of
the tree; patterns first takes that of the first match of greatest confidence; and the strongest
of the two is the match only if it is more confident than the tree.  Whatever the policy, the
space class is the greatest of those of the tree and of the matches, and the confidence lies
between the extremes of what is blended. -/
theorem ofSource_aggregates (maxDepth : Nat) (source : NormalizedSource)
    (found : List (AlgorithmMatch ℝ)) :
    Aggregates (ParsedSource.ofSource maxDepth source).root found := by
  let root : SyntaxNode ℝ := (ParsedSource.ofSource maxDepth source).root
  have bare : root.children = [] → root.estimate.time = .const ∧ root.estimate.space = .const :=
    ParsedSource.ofSource_childless maxDepth source
  have time := ofTree_time fun childless => (bare childless).1
  have bareSpace := fun childless => (bare childless).2
  have known : root.estimate.space.isKnown = true :=
    (ParsedSource.ofSource_covered maxDepth source root root.self_mem_walk).1.2
  show Aggregates root found
  constructor
  case structureFirst => exact time .structureFirst found
  case unmatched =>
    rintro rfl policy
    rw [time]
    cases policy <;> rfl
  case matched =>
    intro someMatch
    obtain ⟨best, isBest, first⟩ := AlgorithmMatch.strongest?_firstStrongest someMatch
    refine ⟨best, first, ?_, ?_⟩
    · rw [time, isBest]
      rfl
    · rw [time, isBest]
      simp only [timeUnder, Exact.lt_iff]
  case space => exact fun policy => ofTree_space_isGreatest bareSpace known policy found
  case permuted =>
    intro policy others permutation
    exact le_antisymm (ofTree_space_mono bareSpace known policy permutation.symm.subset)
      (ofTree_space_mono bareSpace known policy permutation.subset)
  case added => exact fun policy others among => ofTree_space_mono bareSpace known policy among
  case confidence =>
    intro matchUnits notEmpty
    obtain ⟨low, high, isLeast, isGreatest⟩ := Exact.exists_extremes notEmpty
    refine ⟨low, high, isLeast, isGreatest, ?_⟩
    apply ofTree_confidence_between rfl ?_ notEmpty
    · exact fun value isValue => ⟨isLeast.2 isValue, isGreatest.2 isValue⟩
    · intro value isValue
      rcases List.mem_append.mp isValue with ofMatch | ofNode
      · obtain ⟨one, isFound, rfl⟩ := List.mem_map.mp ofMatch
        exact matchUnits one isFound
      · obtain ⟨node, isWeighed, rfl⟩ := List.mem_map.mp ofNode
        exact Thresholds.inUnit_iff.mp
          (ParsedSource.ofSource_inUnit maxDepth source node (List.mem_filter.mp isWeighed).1)

/-- A loop, with matches made up for it of which two are equally confident. -/
theorem ofSource_aggregates_tie :
    let source := NormalizedSource.ofText "for x in xs:\n  use(x)\n".toList
    let root : SyntaxNode ℝ := (ParsedSource.ofSource Parse.defaultMaxDepth source).root
    let madeUp (time : GrowthClass) (confidence : ℝ) : AlgorithmMatch ℝ :=
      ⟨"made up", time, .linear, .uniform time, confidence, [], none⟩
    let found := [madeUp .log 0, madeUp .cubic 1, madeUp .linear 1]
    (∀ one ∈ found, 0 ≤ one.confidence ∧ one.confidence ≤ 1) ∧ blended root found ≠ []
      ∧ Aggregates root found := by
  intro source root madeUp found
  have matchUnits : ∀ one ∈ found, 0 ≤ one.confidence ∧ one.confidence ≤ 1 := by
    simp only [found, madeUp, List.forall_mem_cons]
    norm_num
  exact ⟨matchUnits, List.cons_ne_nil _ _,
    ofSource_aggregates Parse.defaultMaxDepth source found⟩

end StructuralVerdict

end GrowthEstimate
