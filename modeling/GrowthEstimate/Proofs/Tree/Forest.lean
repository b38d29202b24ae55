import Mathlib.Order.Defs.Unbundled
import GrowthEstimate.Proofs.Source.Extent
import GrowthEstimate.Tree.Node
import GrowthEstimate.Tree.Parse

/-!
Contract: the nodes of a tree in preorder, and the nodes that parsing builds line by line.

Owns: the induction over a tree through its children, what belongs to a walk, and the passage from a
relation between each node and its children to the same relation between each node and everything
below it; what leaves and blocks have in common, the induction over the nodes of a list of lines,
and the rule that what every leaf and every block have, all nodes have.

Does **not** own: the counts of lines that were placed and skipped.
-/

set_option autoImplicit false

namespace GrowthEstimate

/-! ## Walks -/

namespace SyntaxNode

variable {α : Type}

/-! ### Induction -/

/-- What holds of a node as soon as it holds of its children holds of every node. -/
theorem induction_on_children {motive : SyntaxNode α → Prop}
    (step : ∀ parent : SyntaxNode α, (∀ child ∈ parent.children, motive child) →
      motive parent) :
    ∀ root : SyntaxNode α, motive root
  | node kind name estimate lines facts children =>
      step (node kind name estimate lines facts children)
        fun child (_ : child ∈ children) => induction_on_children step child

/-! ### What a walk lists -/

/-- A walk begins with the node itself. -/
theorem walk_eq (root : SyntaxNode α) : root.walk = root :: walkAll root.children := by
  cases root
  rfl

theorem walk_tail (root : SyntaxNode α) : root.walk.tail = walkAll root.children := by
  rw [walk_eq, List.tail_cons]

@[simp] theorem walkAll_nil : walkAll ([] : List (SyntaxNode α)) = [] :=
  rfl

@[simp] theorem walkAll_cons (tree : SyntaxNode α) (rest : List (SyntaxNode α)) :
    walkAll (tree :: rest) = tree.walk ++ walkAll rest :=
  rfl

theorem self_mem_walk (root : SyntaxNode α) : root ∈ root.walk := by
  simp [walk_eq]

theorem mem_walkAll {trees : List (SyntaxNode α)} {found : SyntaxNode α} :
    found ∈ walkAll trees ↔ ∃ tree ∈ trees, found ∈ tree.walk := by
  induction trees with
  | nil => simp
  | cons tree rest inductionHypothesis => simp [inductionHypothesis]

theorem mem_walk {root found : SyntaxNode α} :
    found ∈ root.walk ↔ found = root ∨ ∃ child ∈ root.children, found ∈ child.walk := by
  rw [walk_eq, List.mem_cons, mem_walkAll]

/-- What is below a node of a walk is in the walk too. -/
theorem mem_walk_trans {root between found : SyntaxNode α} (first : between ∈ root.walk)
    (second : found ∈ between.walk) : found ∈ root.walk := by
  induction root using induction_on_children with
  | step parent inductionHypothesis =>
      rcases mem_walk.mp first with isRoot | ⟨child, isChild, inChild⟩
      · rwa [isRoot] at second
      · exact mem_walk.mpr (Or.inr ⟨child, isChild, inductionHypothesis child isChild inChild⟩)

theorem child_mem_walk {root parent child : SyntaxNode α} (inWalk : parent ∈ root.walk)
    (isChild : child ∈ parent.children) : child ∈ root.walk :=
  mem_walk_trans inWalk (mem_walk.mpr (Or.inr ⟨child, isChild, self_mem_walk child⟩))

/-! ### From children to descendants -/

/-- A transitive relation that holds between each node and its children holds between
each node and all nodes below it. -/
theorem related_to_descendants {R : SyntaxNode α → SyntaxNode α → Prop}
    [IsTrans (SyntaxNode α) R] {root : SyntaxNode α}
    (toChildren : ∀ parent ∈ root.walk, ∀ child ∈ parent.children, R parent child) :
    ∀ parent ∈ root.walk, ∀ below ∈ walkAll parent.children, R parent below := by
  intro parent inWalk
  -- the induction is on the upper node: the lower one is a child or below a child
  induction parent using induction_on_children with
  | step parent inductionHypothesis =>
      intro below isBelow
      obtain ⟨child, isChild, inChild⟩ := mem_walkAll.mp isBelow
      have childRelated := toChildren parent inWalk child isChild
      rw [walk_eq] at inChild
      rcases List.mem_cons.mp inChild with isChildItself | belowChild
      · rw [isChildItself]
        exact childRelated
      · have childInWalk := child_mem_walk inWalk isChild
        exact trans_of R childRelated
          (inductionHypothesis child isChild childInWalk below belowChild)

/-! ### Nested loops -/

theorem loopDepth_eq (root : SyntaxNode α) :
    root.loopDepth = loopDepthAll root.children + if root.kind = .loop then 1 else 0 := by
  cases root
  rfl

theorem loopDepthAll_le {trees : List (SyntaxNode α)}
    (each : ∀ tree ∈ trees, tree.loopDepth ≤ tree.count .loop) :
    loopDepthAll trees ≤ (walkAll trees).countP fun found => found.kind == .loop := by
  induction trees with
  | nil => exact Nat.le_refl 0
  | cons tree rest inductionHypothesis =>
      obtain ⟨here, there⟩ := List.forall_mem_cons.mp each
      rw [walkAll_cons, List.countP_append]
      exact Nat.max_le.mpr ⟨Nat.le_add_right_of_le here,
        Nat.le_add_left_of_le (inductionHypothesis there)⟩

/-- A chain of nested loops is no longer than there are loops. -/
theorem loopDepth_le_count (root : SyntaxNode α) : root.loopDepth ≤ root.count .loop := by
  induction root using induction_on_children with
  | step parent inductionHypothesis =>
      have below := loopDepthAll_le inductionHypothesis
      rw [loopDepth_eq, count, walk_eq, List.countP_cons]
      simpa only [beq_iff_eq] using Nat.add_le_add_right below _

end SyntaxNode

/-! ## Forests

The induction speaks of nodes alone.  It hides how far a block reaches and at which
depth contents are left out, and keeps that the contents of a block are either left out
or the nodes of the lines below its header. -/

namespace Parse

variable {α : Type} [Scalar α]

/-! ### Leaves and blocks -/

@[simp] theorem leaf_children (line : CodeLine) (kind : NodeKind)
    (name : Option (List Char)) : (leaf line kind name : SyntaxNode α).children = [] :=
  rfl

section Block

variable (header : CodeLine) (body : List CodeLine) (outer : List (List Char))
  (statement : Statement.Classified) (children : List (SyntaxNode α))

@[simp] theorem buildBlock_children :
    (buildBlock header body outer statement children).children = children := by
  unfold buildBlock
  split <;> rfl

@[simp] theorem buildBlock_lines :
    (buildBlock header body outer statement children).lines = blockRange header body := by
  unfold buildBlock
  split <;> rfl

theorem buildBlock_opensBlock :
    (buildBlock header body outer statement children).kind.opensBlock = true := by
  unfold buildBlock
  split <;> rfl

end Block

/-! ### The nodes of a list of lines -/

/-- Induction over the nodes of a list of lines. -/
theorem forest_nodes_induction {motive : List CodeLine → List (SyntaxNode α) → Prop}
    (empty : motive [] [])
    (passed : ∀ line rest nodes, motive rest nodes → motive (line :: rest) nodes)
    (single : ∀ line rest kind name nodes, kind.opensBlock = false → motive rest nodes →
      motive (line :: rest) (leaf line kind name :: nodes))
    (block : ∀ line rest count outer statement children nodes, count ≤ rest.length →
      children = [] ∨ motive (rest.take count) children → motive (rest.drop count) nodes →
      motive (line :: rest)
        (buildBlock line (rest.take count) outer statement children :: nodes))
    (maxDepth depth : Nat) (outer : List (List Char)) (lines : List CodeLine) :
    motive lines (forest maxDepth depth outer lines : Forest α).nodes := by
  fun_induction forest (α := α) maxDepth depth outer lines with
  | case1 => exact empty
  | case2 _ _ line rest _ inductionHypothesis => exact passed line rest _ inductionHypothesis
  | case3 _ _ line rest _ _ _ _ inductionHypothesis =>
      exact passed line rest _ inductionHypothesis
  | case4 _ _ line rest _ _ _ _ inductionHypothesis =>
      exact passed line rest _ inductionHypothesis
  | case5 _ _ line rest _ statement _ isSingle inductionHypothesis =>
      have opensNone : statement.kind.opensBlock = false := by simpa using isSingle
      exact single line rest _ _ _ opensNone inductionHypothesis
  | case6 depth outer line rest _ statement _ _ extent body inner contents others =>
      have isContents : inner.nodes = [] ∨ motive body inner.nodes := by
        by_cases tooDeep : maxDepth < depth + 1
        · left
          simp [inner, tooDeep, Forest.none]
        · right
          simpa [inner, tooDeep] using contents
      exact block line rest _ outer statement inner.nodes _
        (Block.extent_below_le line rest) isContents others

/-- What every leaf has, and every block whose contents have it, all nodes have. -/
theorem forest_forall {P : SyntaxNode α → Prop}
    (onLeaf : ∀ line kind name, kind.opensBlock = false → P (leaf line kind name))
    (onBlock : ∀ header body outer statement children,
      (∀ found ∈ SyntaxNode.walkAll children, P found) →
      P (buildBlock header body outer statement children))
    (maxDepth depth : Nat) (outer : List (List Char)) (lines : List CodeLine) :
    ∀ found ∈ SyntaxNode.walkAll (forest maxDepth depth outer lines : Forest α).nodes,
      P found := by
  refine forest_nodes_induction
    (motive := fun _ nodes => ∀ found ∈ SyntaxNode.walkAll nodes, P found)
    ?_ ?_ ?_ ?_ maxDepth depth outer lines
  · simp
  · intro _ _ _ inductionHypothesis
    exact inductionHypothesis
  · intro line rest kind name nodes opensNone inductionHypothesis found member
    rcases List.mem_append.mp member with inLeaf | inOthers
    · rw [SyntaxNode.walk_eq, leaf_children, SyntaxNode.walkAll_nil,
        List.mem_singleton] at inLeaf
      rw [inLeaf]
      exact onLeaf line kind name opensNone
    · exact inductionHypothesis found inOthers
  · intro line rest count outer statement children nodes _ contents inductionHypothesis
      found member
    have inContents : ∀ inner ∈ SyntaxNode.walkAll children, P inner := by
      rcases contents with leftOut | contents
      · simp [leftOut]
      · exact contents
    rcases List.mem_append.mp member with inBlock | inOthers
    · rw [SyntaxNode.walk_eq, buildBlock_children] at inBlock
      rcases List.mem_cons.mp inBlock with isBlock | isBelow
      · rw [isBlock]
        exact onBlock line _ outer statement children inContents
      · exact inContents found isBelow
    · exact inductionHypothesis found inOthers

/-- Lines without code have no nodes. -/
theorem forest_of_blank (maxDepth depth : Nat) (outer : List (List Char))
    {lines : List CodeLine} (blank : ∀ line ∈ lines, line.isBlank = true) :
    (forest maxDepth depth outer lines : Forest α) = .none := by
  induction lines with
  | nil => rw [forest]
  | cons line rest inductionHypothesis =>
      rw [forest, if_pos (blank line List.mem_cons_self)]
      exact inductionHypothesis fun other isOther =>
        blank other (List.mem_cons_of_mem line isOther)

end Parse

end GrowthEstimate
