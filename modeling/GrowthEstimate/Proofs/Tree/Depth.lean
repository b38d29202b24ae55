import GrowthEstimate.Number.Binary64
import GrowthEstimate.Proofs.Catalogue.Entry
import GrowthEstimate.Proofs.Tree.Estimate

/-!
Contract: the depth of a tree: what a lower limit on nesting changes, and the time class of code in
which only loops cost anything.

Owns: trees cut off at a level, the relation between a tree and a copy of it with lower estimates,
the monotonicity of each rule by which parsing combines children, and the comparison of two runs
over the same lines with different limits; the class of a number of nested loops, and that each node
of a tree of plain loops, and the catalogue on it, has the class of its own loop depth.

Does **not** own: confidences, factors and counts, which a lower limit may move either way.
-/

set_option autoImplicit false

namespace GrowthEstimate

/-! ## Limits on nesting

A block that is too deep loses its contents and nothing else.  Its estimate then starts
from no children at all, which is the least start there is, and every combining rule
passes the difference upward without turning it around. -/

/-- Both classes of the estimate are no larger than those of the other one. -/
structure Estimate.AtMost {α : Type} (lower upper : Estimate α) : Prop where
  time : lower.time ≤ upper.time
  space : lower.space ≤ upper.space

namespace SyntaxNode

variable {α : Type}

/-! ### Trees cut off -/

/-- The tree without what is more than this many levels below its root. -/
def truncate : Nat → SyntaxNode α → SyntaxNode α
  | 0, node kind name estimate lines facts _ => node kind name estimate lines facts []
  | levels + 1, node kind name estimate lines facts children =>
      node kind name estimate lines facts (children.map (truncate levels))

/-- What is left of the children of a node of which this many levels are kept. -/
def keptChildren : Nat → List (SyntaxNode α) → List (SyntaxNode α)
  | 0, _ => []
  | levels + 1, children => children.map (truncate levels)

theorem truncate_node (levels : Nat) (kind : NodeKind) (name : Option (List Char))
    (estimate : Estimate α) (lines : LineRange) (facts : NodeFacts)
    (children : List (SyntaxNode α)) :
    (node kind name estimate lines facts children).truncate levels =
      node kind name estimate lines facts (keptChildren levels children) := by
  cases levels <;> rfl

@[simp] theorem truncate_estimate (levels : Nat) (tree : SyntaxNode α) :
    (tree.truncate levels).estimate = tree.estimate := by
  cases tree
  rw [truncate_node]
  rfl

/-! ### Copies with lower estimates -/

/-- The trees have the same nodes in the same places, with the same kinds, names, line
ranges and facts, and no node of the first has a larger class than in the second. -/
inductive LowerCopyOf : SyntaxNode α → SyntaxNode α → Prop
  | node {kind : NodeKind} {name : Option (List Char)} {lines : LineRange}
      {facts : NodeFacts} {lower upper : Estimate α}
      {children children' : List (SyntaxNode α)} (estimates : lower.AtMost upper)
      (below : List.Forall₂ LowerCopyOf children children') :
      LowerCopyOf (.node kind name lower lines facts children)
        (.node kind name upper lines facts children')

theorem LowerCopyOf.estimates {tree tree' : SyntaxNode α} (copy : tree.LowerCopyOf tree') :
    tree.estimate.AtMost tree'.estimate := by
  cases copy with
  | node estimates _ => exact estimates

/-- The estimate kept by a cut is the one before it. -/
theorem LowerCopyOf.estimates_of_truncate {levels : Nat} {tree tree' : SyntaxNode α}
    (copy : tree.LowerCopyOf (tree'.truncate levels)) :
    tree.estimate.AtMost tree'.estimate := by
  rw [← truncate_estimate levels tree']
  exact copy.estimates

end SyntaxNode

/-! ### The rules that combine children are monotone -/

/-- A sign that parts are combined only makes a recursion slower. -/
theorem RecursionShape.ofSites_mono {α : Type} [Scalar α] (sites : Nat) (halving : Bool)
    {mergeLike mergeLike' : Bool} (flags : mergeLike = true → mergeLike' = true) :
    let lower : RecursionShape α := ofSites sites halving mergeLike
    let upper : RecursionShape α := ofSites sites halving mergeLike'
    lower.kind = upper.kind ∧ lower.time ≤ upper.time ∧ lower.depth ≤ upper.depth := by
  have combined : (if mergeLike then GrowthClass.linearithmic else GrowthClass.log)
      ≤ (if mergeLike' then GrowthClass.linearithmic else GrowthClass.log) := by
    revert flags
    cases mergeLike <;> cases mergeLike' <;> decide
  unfold ofSites
  split
  · exact ⟨rfl, le_refl _, le_refl _⟩
  · exact ⟨rfl, le_refl _, le_refl _⟩
  · cases halving with
    | false => exact ⟨rfl, le_refl _, le_refl _⟩
    | true => exact ⟨rfl, combined, le_refl _⟩

namespace Parse

open SyntaxNode

variable {α : Type}

/-- The joined classes of some nodes are no larger than those of others. -/
structure JoinedAtMost (children children' : List (SyntaxNode α)) : Prop where
  time : joinedTime children ≤ joinedTime children'
  space : joinedSpace children ≤ joinedSpace children'

namespace JoinedAtMost

/-- No node has smaller classes than no nodes. -/
theorem nil (children : List (SyntaxNode α)) : JoinedAtMost [] children :=
  ⟨GrowthClass.const_le (isKnown_joinedTime children),
    GrowthClass.const_le (isKnown_joinedSpace children)⟩

theorem of_pairwise {children children' : List (SyntaxNode α)}
    (pairwise : List.Forall₂ (fun lower upper => lower.estimate.AtMost upper.estimate)
      children children') : JoinedAtMost children children' := by
  constructor
  · apply GrowthClass.joinAll_mono
    rw [List.forall₂_map_left_iff, List.forall₂_map_right_iff]
    exact pairwise.imp fun _ _ estimates => estimates.time
  · apply GrowthClass.joinAll_mono
    rw [List.forall₂_map_left_iff, List.forall₂_map_right_iff]
    exact pairwise.imp fun _ _ estimates => estimates.space

theorem of_copies {levels : Nat} {children children' : List (SyntaxNode α)}
    (copies : List.Forall₂ LowerCopyOf children (children'.map (truncate levels))) :
    JoinedAtMost children children' := by
  apply of_pairwise
  rw [List.forall₂_map_right_iff] at copies
  exact copies.imp fun _ _ copy => copy.estimates_of_truncate

end JoinedAtMost

section Rules

variable [Scalar α] {children children' : List (SyntaxNode α)}

theorem plainEstimate_mono (joined : JoinedAtMost children children')
    (confidence confidence' : α) :
    (plainEstimate confidence children).AtMost (plainEstimate confidence' children') :=
  ⟨joined.time, joined.space⟩

theorem loopEstimate_mono (joined : JoinedAtMost children children') (kind : LoopKind)
    (iteration : IterationPattern) :
    (loopEstimate kind iteration children).AtMost (loopEstimate kind iteration children') :=
  ⟨GrowthClass.product_mono_right _ joined.time, joined.space⟩

theorem recursiveEstimate_mono (joined : JoinedAtMost children children')
    {shape shape' : RecursionShape α} (kind : shape.kind = shape'.kind)
    (time : shape.time ≤ shape'.time) (depth : shape.depth ≤ shape'.depth) :
    (recursiveEstimate shape children).AtMost (recursiveEstimate shape' children') := by
  constructor
  · simp only [recursiveEstimate, Estimate.withFactor_time, Estimate.guess]
    rw [kind]
    split
    · exact GrowthClass.product_mono time joined.time
    · exact GrowthClass.join_mono time joined.time
  · simp only [recursiveEstimate, Estimate.withFactor_space, Estimate.guess]
    exact GrowthClass.join_mono depth joined.space

theorem functionEstimate_mono (joined : JoinedAtMost children children') (sites : Nat)
    (body : List CodeLine) :
    (functionEstimate sites body children).AtMost
      (functionEstimate sites body children') := by
  unfold functionEstimate
  split
  · exact plainEstimate_mono joined _ _
  · -- contents that reach a linear class still do so when they grow
    have flags : (Recursion.hasMergeStep (Text.joinLines (body.map CodeLine.lowered))
          || decide (GrowthClass.linear.rank ≤ (joinedTime children).rank)) = true →
        (Recursion.hasMergeStep (Text.joinLines (body.map CodeLine.lowered))
          || decide (GrowthClass.linear.rank ≤ (joinedTime children').rank)) = true := by
      simp only [Bool.or_eq_true, decide_eq_true_eq]
      exact Or.imp_right fun reaches => reaches.trans joined.time.2
    obtain ⟨kind, time, depth⟩ := RecursionShape.ofSites_mono (α := α) sites
      (Recursion.hasHalving (Text.joinLines (body.map CodeLine.lowered))) flags
    exact recursiveEstimate_mono joined kind time depth

theorem buildBlock_mono (joined : JoinedAtMost children children') (levels : Nat)
    (below : List.Forall₂ LowerCopyOf children (keptChildren levels children'))
    (header : CodeLine) (body : List CodeLine) (outer : List (List Char))
    (statement : Statement.Classified) :
    (buildBlock header body outer statement children).LowerCopyOf
      ((buildBlock header body outer statement children').truncate levels) := by
  unfold buildBlock
  split
  · rw [buildLoop, buildLoop, truncate_node]
    exact .node (loopEstimate_mono joined _ _) below
  · rw [buildFunction, buildFunction, truncate_node]
    exact .node (functionEstimate_mono joined _ body) below
  · rw [buildConditional, buildConditional, truncate_node]
    have plain := plainEstimate_mono joined (leastConfidence children)
      (leastConfidence children')
    exact .node ⟨by simpa using plain.time, by simpa using plain.space⟩ below

end Rules

/-! ### Two limits over the same lines -/

variable [Scalar α]

theorem leaf_lowerCopy (line : CodeLine) (kind : NodeKind) (name : Option (List Char))
    (levels : Nat) :
    (leaf line kind name : SyntaxNode α).LowerCopyOf ((leaf line kind name).truncate levels) := by
  have nothingKept : keptChildren levels ([] : List (SyntaxNode α)) = [] := by
    cases levels <;> rfl
  rw [leaf, truncate_node, nothingKept]
  exact .node ⟨le_refl _, le_refl _⟩ .nil

/-- A run with a limit gives the nodes of a run with a larger one, cut off where the
smaller limit lies below the depth of the lines. -/
theorem forest_lowerCopies {shallow deep : Nat} (ordered : shallow ≤ deep) (depth : Nat)
    (outer : List (List Char)) (lines : List CodeLine) (reached : depth ≤ shallow) :
    List.Forall₂ LowerCopyOf (forest shallow depth outer lines : Forest α).nodes
      ((forest deep depth outer lines : Forest α).nodes.map (truncate (shallow - depth))) := by
  fun_induction forest (α := α) shallow depth outer lines with
  | case1 =>
      rw [forest]
      exact .nil
  | case2 depth outer line rest isBlank inductionHypothesis =>
      rw [forest, if_pos isBlank]
      exact inductionHypothesis reached
  | case3 depth outer line rest isCode unplaced others isNoise inductionHypothesis =>
      rw [forest, if_neg isCode]
      simp only [unplaced, isNoise]
      exact inductionHypothesis reached
  | case4 depth outer line rest isCode unplaced others isSkipped inductionHypothesis =>
      rw [forest, if_neg isCode]
      simp only [unplaced, isSkipped]
      exact inductionHypothesis reached
  | case5 depth outer line rest isCode statement placed isSingle inductionHypothesis =>
      rw [forest, if_neg isCode]
      simp only [placed, isSingle]
      exact .cons (leaf_lowerCopy line _ _ _) (inductionHypothesis reached)
  | case6 depth outer line rest isCode statement placed isBlock extent body inner contents
      others =>
      rw [forest, if_neg isCode]
      simp only [placed, isBlock]
      simp only [Bool.false_eq_true, if_false, Forest.afterBlock, List.map_cons]
      refine .cons ?_ (others reached)
      rcases Nat.lt_or_ge shallow (depth + 1) with tooDeep | withinLimit
      · -- the smaller limit leaves the contents out, and the cut keeps no level of them
        have noLevel : shallow - depth = 0 := by omega
        have leftOut : inner.nodes = [] := by simp [inner, tooDeep, Forest.none]
        rw [noLevel, leftOut]
        exact buildBlock_mono (.nil _) 0 .nil line body outer statement
      · have oneLevelMore : shallow - depth = shallow - (depth + 1) + 1 := by omega
        have withinDeep : ¬deep < depth + 1 := by omega
        have copies := contents withinLimit
        simp only [inner, withinLimit.not_gt, withinDeep, dite_false, if_false]
        rw [oneLevelMore]
        exact buildBlock_mono (.of_copies copies) (shallow - (depth + 1) + 1) copies line body
          outer statement

end Parse

/-! ### Parsed sources -/

namespace ParsedSource

open SyntaxNode

variable {α : Type} [Scalar α]

/-- Parsing with a smaller limit cuts the tree off one level below the limit, and no
estimate grows by it. -/
theorem ofSource_lowerCopy {shallow deep : Nat} (positive : 1 ≤ shallow)
    (ordered : shallow ≤ deep) (text : List Char) :
    (ofSource shallow (NormalizedSource.ofText text) : ParsedSource α).root.LowerCopyOf
      ((ofSource deep (NormalizedSource.ofText text) : ParsedSource α).root.truncate
        (shallow + 1)) := by
  have shallowLimit : max shallow 1 = shallow := max_eq_left positive
  have deepLimit : max deep 1 = deep := max_eq_left (positive.trans ordered)
  have copies := Parse.forest_lowerCopies (α := α) ordered 0 []
    (NormalizedSource.ofText text).lines (Nat.zero_le shallow)
  have joined := Parse.JoinedAtMost.of_copies copies
  rw [ofSource, ofSource, shallowLimit, deepLimit, truncate_node]
  refine .node ⟨?_, ?_⟩ copies
  · rw [Parse.programEstimate_time, Parse.programEstimate_time]
    exact joined.time
  · rw [Parse.programEstimate_space, Parse.programEstimate_space]
    exact joined.space

/-- Three loops inside each other, under limits of one and two. -/
theorem ofSource_lowerCopy_nestedLoops :
    let text := "for a in xs:\n  for b in xs:\n    for c in xs:\n      use(a, b, c)\n".toList
    1 ≤ 1 ∧ 1 ≤ 2 ∧
      (ofSource 1 (NormalizedSource.ofText text) : ParsedSource Float).root.LowerCopyOf
        ((ofSource 2 (NormalizedSource.ofText text) : ParsedSource Float).root.truncate 2) :=
  ⟨by decide, by decide, ofSource_lowerCopy (by decide) (by decide) _⟩

end ParsedSource

/-! ## Nested loops

Three computations have to meet here, and none of them calls another: parsing multiplies and
joins classes, `loopDepth` adds and takes maxima, and the catalogue looks a depth up.  The class
of a depth carries each step of the second over to the same step of the first.  It does so past
the third loop too, because the product saturates where the class does. -/

/-! ### The class of nested loops -/

namespace GrowthClass

/-- The class of this many loops inside each other, each of them linear.  From the third on,
one more loop changes nothing. -/
def ofLoopDepth : Nat → GrowthClass
  | 0 => const
  | 1 => linear
  | 2 => quadratic
  | _ => cubic

theorem ofLoopDepth_min (depth : Nat) : ofLoopDepth (min depth 3) = ofLoopDepth depth := by
  by_cases deep : 3 ≤ depth
  · obtain ⟨more, rfl⟩ := Nat.exists_eq_add_of_le' deep
    rw [Nat.min_eq_right deep]
    rfl
  · rw [Nat.min_eq_left (by omega)]

/-- One more loop around code is a product with its class. -/
theorem ofLoopDepth_succ (depth : Nat) :
    ofLoopDepth (depth + 1) = linear.product (ofLoopDepth depth) :=
  match depth with
  | 0 | 1 | 2 => rfl
  | _ + 3 => rfl

theorem isKnown_ofLoopDepth (depth : Nat) : (ofLoopDepth depth).isKnown = true := by
  unfold ofLoopDepth
  split <;> rfl

theorem ofLoopDepth_mono : Monotone ofLoopDepth := by
  apply monotone_nat_of_le_succ
  intro depth
  rw [ofLoopDepth_succ]
  exact right_le_product linear (isKnown_ofLoopDepth depth)

/-- Code next to code is a join of their classes. -/
theorem ofLoopDepth_max (left right : Nat) :
    ofLoopDepth (max left right) = (ofLoopDepth left).join (ofLoopDepth right) := by
  rcases le_total left right with below | above
  · rw [max_eq_right below, join_of_le (ofLoopDepth_mono below)]
  · rw [max_eq_left above, join_of_ge (ofLoopDepth_mono above)]

end GrowthClass

open GrowthClass (ofLoopDepth)

/-! ### Trees that cost nothing but loops -/

namespace SyntaxNode

variable {α : Type}

/-- The time class of the node is that of its loop depth. -/
def AtLoopLevel (node : SyntaxNode α) : Prop :=
  node.estimate.time = ofLoopDepth node.loopDepth

/-- Loops are all that costs time in the tree: no function calls itself, single statements are
constant, and every loop is linear. -/
structure CostsLoopsOnly (root : SyntaxNode α) : Prop where
  functions : ∀ node ∈ root.walk, node.kind = .function → node.facts.isRecursive = false
  statements : ∀ node ∈ root.walk, node.kind.opensBlock = false → node.estimate.time = .const
  loops : ∀ node ∈ root.walk, node.kind = .loop →
    ∀ iteration ∈ node.facts.iteration, iteration.growth = .linear

instance (root : SyntaxNode α) : Decidable root.CostsLoopsOnly :=
  decidable_of_iff
    ((∀ node ∈ root.walk, node.kind = .function → node.facts.isRecursive = false) ∧
      (∀ node ∈ root.walk, node.kind.opensBlock = false → node.estimate.time = .const) ∧
      ∀ node ∈ root.walk, node.kind = .loop →
        ∀ iteration ∈ node.facts.iteration, iteration.growth = .linear)
    ⟨fun ⟨functions, statements, loops⟩ => ⟨functions, statements, loops⟩,
      fun loopsOnly => ⟨loopsOnly.functions, loopsOnly.statements, loopsOnly.loops⟩⟩

theorem CostsLoopsOnly.of_mem {root node : SyntaxNode α} (loopsOnly : root.CostsLoopsOnly)
    (inWalk : node ∈ root.walk) : node.CostsLoopsOnly where
  functions below isBelow := loopsOnly.functions below (mem_walk_trans inWalk isBelow)
  statements below isBelow := loopsOnly.statements below (mem_walk_trans inWalk isBelow)
  loops below isBelow := loopsOnly.loops below (mem_walk_trans inWalk isBelow)

end SyntaxNode

namespace Parse

open SyntaxNode

variable {α : Type}

/-- The accumulator of a join is one more node next to the others. -/
theorem foldl_join_loopLevels {children : List (SyntaxNode α)}
    (levels : ∀ child ∈ children, child.AtLoopLevel) (depth : Nat) :
    (children.map fun child => child.estimate.time).foldl .join (ofLoopDepth depth) =
      ofLoopDepth (max depth (loopDepthAll children)) := by
  induction children generalizing depth with
  | nil => simp [loopDepthAll]
  | cons child rest inductionHypothesis =>
      obtain ⟨here, there⟩ := List.forall_mem_cons.mp levels
      rw [List.map_cons, List.foldl_cons, here, ← GrowthClass.ofLoopDepth_max,
        inductionHypothesis there, Nat.max_assoc]
      rfl

/-- The joined class of nodes is that of the deepest of them. -/
theorem joinedTime_loopLevels {children : List (SyntaxNode α)}
    (levels : ∀ child ∈ children, child.AtLoopLevel) :
    joinedTime children = ofLoopDepth (loopDepthAll children) := by
  cases children with
  | nil => rfl
  | cons child rest =>
      obtain ⟨here, there⟩ := List.forall_mem_cons.mp levels
      rw [joinedTime, GrowthClass.joinAll, List.map_cons, List.foldl_cons,
        GrowthClass.join_of_left_unknown rfl, here, foldl_join_loopLevels there]
      exact GrowthClass.orConst_of_known (GrowthClass.isKnown_ofLoopDepth _)

variable [Scalar α]

theorem leaf_atLoopLevel {line : CodeLine} {kind : NodeKind} {name : Option (List Char)}
    (opensNone : kind.opensBlock = false)
    (loopsOnly : (leaf line kind name : SyntaxNode α).CostsLoopsOnly) :
    (leaf line kind name : SyntaxNode α).AtLoopLevel := by
  have constant := loopsOnly.statements _ (self_mem_walk _) opensNone
  have noLoop : (leaf line kind name : SyntaxNode α).loopDepth = 0 := by
    cases kind <;> first | contradiction | rfl
  rw [AtLoopLevel, constant, noLoop]
  rfl

/-- A loop multiplies the class of its contents by one linear factor; a function that does not
call itself and a branch pass theirs on. -/
theorem buildBlock_atLoopLevel {header : CodeLine} {body : List CodeLine}
    {outer : List (List Char)} {statement : Statement.Classified} {children : List (SyntaxNode α)}
    (loopsOnly : (buildBlock header body outer statement children).CostsLoopsOnly)
    (levels : ∀ child ∈ children, child.AtLoopLevel) :
    (buildBlock header body outer statement children).AtLoopLevel := by
  have joined := joinedTime_loopLevels levels
  unfold buildBlock at loopsOnly ⊢
  split at loopsOnly
  · next isLoop =>
    have linear := loopsOnly.loops _ (self_mem_walk _) rfl _ rfl
    show (Statement.iterationPattern _ _ _).growth.product (joinedTime children) =
      ofLoopDepth (loopDepthAll children + 1)
    rw [linear, joined, GrowthClass.ofLoopDepth_succ]
  · next isFunction =>
    have notRecursive := loopsOnly.functions _ (self_mem_walk _) rfl
    have noSites : Recursion.countCalls (Text.joinLines (codesOf body))
        (statement.name.getD []) = 0 := by
      simpa [buildFunction, facts] using notRecursive
    show (functionEstimate _ body children).time = ofLoopDepth (loopDepthAll children)
    rw [functionEstimate, if_pos noSites]
    exact joined
  · show ((plainEstimate _ children).withFactor "branch").time =
      ofLoopDepth (loopDepthAll children)
    rw [Estimate.withFactor_time]
    exact joined

/-- Every node that parsing builds is at its loop level, if its tree costs nothing but loops. -/
theorem forest_atLoopLevel (maxDepth depth : Nat) (outer : List (List Char))
    (lines : List CodeLine) :
    ∀ node ∈ walkAll (forest maxDepth depth outer lines : Forest α).nodes,
      node.CostsLoopsOnly → node.AtLoopLevel := by
  apply forest_forall
  · intro line kind name opensNone loopsOnly
    exact leaf_atLoopLevel opensNone loopsOnly
  · intro header body outer statement children below loopsOnly
    apply buildBlock_atLoopLevel loopsOnly
    intro child isChild
    have inChildren := mem_walkAll.mpr ⟨child, isChild, self_mem_walk child⟩
    have inBlock : child ∈ (buildBlock header body outer statement children).walk := by
      rw [walk_eq, buildBlock_children]
      exact List.mem_cons_of_mem _ inChildren
    exact below child inChildren (loopsOnly.of_mem inBlock)

end Parse

/-! ### The rule of the catalogue -/

namespace Catalogue

variable {α : Type} [Scalar α]

theorem growth_perLoopLevel {evidence : Evidence} (someLoop : 1 ≤ evidence.loopDepth) :
    TimeRule.perLoopLevel.growth evidence = ofLoopDepth evidence.loopDepth := by
  unfold TimeRule.growth
  match isDepth : evidence.loopDepth with
  | 0 => omega
  | 1 | 2 => rfl
  | _ + 3 => rfl

theorem entries_perLoopLevel :
    ∀ entry ∈ entries, entry.name = "Dynamic Programming" → entry.time = .perLoopLevel := by
  decide

/-- Dynamic programming is matched at the class of the loop depth. -/
theorem matchesOf_perLoopLevel {evidence : Evidence} (someLoop : 1 ≤ evidence.loopDepth)
    {found : AlgorithmMatch α} (isMatch : found ∈ matchesOf evidence)
    (isDynamic : found.name = "Dynamic Programming") :
    found.time = ofLoopDepth evidence.loopDepth := by
  obtain ⟨entry, isEntry, matched⟩ := List.mem_filterMap.mp isMatch
  unfold CatalogueEntry.match? at matched
  split at matched
  · rw [← Option.some.inj matched] at isDynamic ⊢
    show entry.time.growth evidence = _
    rw [entries_perLoopLevel entry isEntry isDynamic]
    exact growth_perLoopLevel someLoop
  · contradiction

end Catalogue

/-! ### Parsed sources -/

namespace ParsedSource

open SyntaxNode

variable {α : Type} [Scalar α]

theorem ofSource_atLoopLevel {maxDepth : Nat} {source : NormalizedSource}
    (loopsOnly : (ofSource maxDepth source : ParsedSource α).root.CostsLoopsOnly) :
    ∀ node ∈ (ofSource maxDepth source : ParsedSource α).root.walk, node.AtLoopLevel := by
  have below (node : SyntaxNode α)
      (isBelow : node ∈ walkAll (ofSource maxDepth source : ParsedSource α).root.children) :
      node.AtLoopLevel := by
    have inWalk : node ∈ (ofSource maxDepth source : ParsedSource α).root.walk := by
      rw [walk_eq]
      exact List.mem_cons_of_mem _ isBelow
    exact Parse.forest_atLoopLevel _ 0 [] source.lines node isBelow (loopsOnly.of_mem inWalk)
  intro node inWalk
  rw [walk_eq] at inWalk
  rcases List.mem_cons.mp inWalk with isRoot | isBelow
  · rw [isRoot]
    show (Parse.programEstimate _ _).time = ofLoopDepth (loopDepthAll _)
    rw [Parse.programEstimate_time]
    apply Parse.joinedTime_loopLevels
    intro child isChild
    exact below child (mem_walkAll.mpr ⟨child, isChild, self_mem_walk child⟩)
  · exact below node isBelow

/-- Where loops are all that costs time, the time class of every node, the program itself
included, is that of the loops inside each other at the node, of which no more than three
count; and if dynamic programming is recognised in a source with loops, it is so at the class
of the program. -/
theorem ofSource_loopLevels (maxDepth : Nat) {text : List Char}
    (loopsOnly :
      (ofSource maxDepth (.ofText text) : ParsedSource α).root.CostsLoopsOnly) :
    let source := NormalizedSource.ofText text
    let root := (ofSource maxDepth source : ParsedSource α).root
    (∀ node ∈ root.walk, node.estimate.time = ofLoopDepth (min node.loopDepth 3)) ∧
      (1 ≤ root.loopDepth → ∀ found ∈ (Catalogue.detect source root : List (AlgorithmMatch α)),
        found.name = "Dynamic Programming" → found.time = root.estimate.time) := by
  intro source root
  have levels := ofSource_atLoopLevel loopsOnly
  constructor
  · intro node inWalk
    rw [GrowthClass.ofLoopDepth_min]
    exact levels node inWalk
  · intro someLoop found isFound isDynamic
    rw [levels root (self_mem_walk root)]
    exact Catalogue.matchesOf_perLoopLevel someLoop isFound isDynamic

/-- Four loops inside each other with a branch between them, in a function that keeps a table:
the fourth loop does not show in its class. -/
theorem ofSource_loopLevels_memo :
    let source := NormalizedSource.ofText ("def f(g):\n for a in g:\n  for b in a:\n   if b:\n"
      ++ "    for c in b:\n     for d in c:\n      m = memo[d]\n").toList
    let root := (ofSource Parse.defaultMaxDepth source : ParsedSource Float).root
    root.CostsLoopsOnly ∧ root.loopDepth = 4 ∧ root.estimate.time = .cubic ∧
      ∃ found ∈ (Catalogue.detect source root : List (AlgorithmMatch Float)),
        found.name = "Dynamic Programming" ∧ found.time = .cubic := by
  intro source root
  have evaluated : root.CostsLoopsOnly ∧ root.loopDepth = 4 ∧
      ∃ found ∈ (Catalogue.detect source root : List (AlgorithmMatch Float)),
        found.name = "Dynamic Programming" := by
    decide +kernel
  obtain ⟨loopsOnly, depth, found, isFound, isDynamic⟩ := evaluated
  obtain ⟨levels, rule⟩ := ofSource_loopLevels Parse.defaultMaxDepth loopsOnly
  have rootTime : root.estimate.time = .cubic := by
    rw [levels root (self_mem_walk root), depth]
    rfl
  refine ⟨loopsOnly, depth, rootTime, found, isFound, isDynamic, ?_⟩
  rw [← rootTime]
  exact rule (by rw [depth]; decide) found isFound isDynamic

end ParsedSource

end GrowthEstimate
