import GrowthEstimate.Number.Binary64
import GrowthEstimate.Proofs.Source.Padding
import GrowthEstimate.Proofs.Tree.Forest

/-!
Contract: where the lines of a source go.

Owns: which lines start a node and which have code but no place in the tree, the account that a
forest gives of its lines under any depth limit, and the exact account under a limit that leaves
nothing out; the layout of trees one after another within a stretch of lines, the nesting of a
node's children below its first line, and the nesting of a whole parsed source.

Does **not** own: how far a block reaches, beyond its bound by the lines below the header.
-/

set_option autoImplicit false

namespace GrowthEstimate

/-! ## Accounts -/

/-! ### Lines by what becomes of them -/

namespace CodeLine

/-- Whether a line starts a node. -/
def isPlaced (line : CodeLine) : Bool :=
  !line.isBlank && (Statement.classify line.code).isSome

/-- Whether a line has code that is of no kind and more than mere structure. -/
def isUnplaced (line : CodeLine) : Bool :=
  !line.isBlank && (Statement.classify line.code).isNone
    && !Parse.isStructuralNoise line.code

variable {line : CodeLine} {lines : List CodeLine}

theorem isPlaced_of_classify {statement : Statement.Classified}
    (isCode : ¬line.isBlank = true) (placed : Statement.classify line.code = some statement) :
    line.isPlaced = true := by
  simp [isPlaced, isCode, placed]

theorem isUnplaced_of_isPlaced (placed : line.isPlaced = true) : line.isUnplaced = false := by
  rw [isPlaced, Bool.and_eq_true] at placed
  simp [isUnplaced, Option.isNone_eq_false_iff.mpr placed.2]

/-- No line of code is counted both as placed and as unplaced. -/
theorem countP_placed_add_unplaced_le (lines : List CodeLine) :
    lines.countP isPlaced + lines.countP isUnplaced ≤ lines.countP fun line => !line.isBlank := by
  induction lines with
  | nil => exact Nat.le_refl 0
  | cons line rest inductionHypothesis =>
      have once : (if line.isPlaced = true then 1 else 0)
          + (if line.isUnplaced = true then 1 else 0) ≤
          if (!line.isBlank) = true then 1 else 0 := by
        cases isBlank : line.isBlank with
        | true => simp [isPlaced, isUnplaced, isBlank]
        | false =>
            rcases Bool.eq_false_or_eq_true line.isPlaced with placed | notPlaced
            · simp [placed, isUnplaced_of_isPlaced placed]
            · simp only [notPlaced, Bool.false_eq_true, if_false, Bool.not_false, if_true]
              split <;> omega
      simp only [List.countP_cons]
      omega

end CodeLine

namespace Parse

open SyntaxNode

variable {α : Type}

/-- The lines on which the nodes begin, in preorder. -/
def startLines (nodes : List (SyntaxNode α)) : List Nat :=
  (walkAll nodes).map fun node => node.lines.first

namespace Forest

/-! ### The account of a forest -/

/-- A forest over lines has one node for each line that it counts as classified, begins
them on lines that start a node, in the order of the lines, and skips no other line than
an unplaced one, and none twice. -/
structure AccountsFor (lines : List CodeLine) (forest : Forest α) : Prop where
  classified : (startLines forest.nodes).length = forest.classified
  starts : (startLines forest.nodes).Sublist
    ((lines.filter CodeLine.isPlaced).map CodeLine.number)
  skipped : forest.skipped ≤ lines.countP CodeLine.isUnplaced

/-- A forest counts every line that starts a node and every line that is skipped. -/
structure Exhausts (lines : List CodeLine) (forest : Forest α) : Prop where
  classified : forest.classified = lines.countP CodeLine.isPlaced
  skipped : forest.skipped = lines.countP CodeLine.isUnplaced

theorem AccountsFor.none (lines : List CodeLine) :
    (Forest.none : Forest α).AccountsFor lines :=
  ⟨rfl, List.nil_sublist _, Nat.zero_le _⟩

/-! ### One line more -/

variable {line : CodeLine} {rest : List CodeLine} {forest inner : Forest α}

/-- A line that starts no node changes no account that does not skip it. -/
theorem AccountsFor.pass (notPlaced : line.isPlaced = false)
    (account : forest.AccountsFor rest) : forest.AccountsFor (line :: rest) where
  classified := account.classified
  starts := by
    rw [List.filter_cons_of_neg (by simp [notPlaced])]
    exact account.starts
  skipped := Nat.le_trans account.skipped (List.sublist_cons_self line rest).countP_le

theorem AccountsFor.afterSkipped (notPlaced : line.isPlaced = false)
    (unplaced : line.isUnplaced = true) (account : forest.AccountsFor rest) :
    forest.afterSkipped.AccountsFor (line :: rest) where
  classified := account.classified
  starts := (account.pass notPlaced).starts
  skipped := by
    rw [List.countP_cons_of_pos unplaced]
    exact Nat.succ_le_succ account.skipped

theorem AccountsFor.afterLeaf [Scalar α] (placed : line.isPlaced = true) (kind : NodeKind)
    (name : Option (List Char)) (account : forest.AccountsFor rest) :
    (forest.afterLeaf (leaf line kind name)).AccountsFor (line :: rest) where
  classified := congrArg (· + 1) account.classified
  starts := by
    rw [List.filter_cons_of_pos placed]
    exact account.starts.cons_cons line.number
  skipped := Nat.le_trans account.skipped (List.sublist_cons_self line rest).countP_le

/-- The lines of a block and those behind it share no line. -/
theorem AccountsFor.afterBlock (placed : line.isPlaced = true) (count : Nat)
    (node : SyntaxNode α) (balanced : Bool) (begins : node.lines.first = line.number)
    (contents : node.children = inner.nodes) (below : inner.AccountsFor (rest.take count))
    (behind : forest.AccountsFor (rest.drop count)) :
    (forest.afterBlock node balanced inner).AccountsFor (line :: rest) where
  classified := by
    have belowCount := below.classified
    have behindCount := behind.classified
    simp only [startLines, List.length_map] at belowCount behindCount
    simp only [Forest.afterBlock, startLines, walkAll_cons, walk_eq node, contents,
      List.length_map, List.length_append, List.length_cons, belowCount, behindCount]
    omega
  starts := by
    have joined := below.starts.append behind.starts
    rw [← List.map_append, ← List.filter_append, List.take_append_drop] at joined
    rw [List.filter_cons_of_pos placed, List.map_cons, ← begins]
    simpa [Forest.afterBlock, startLines, walk_eq node, contents] using joined
  skipped := by
    have joined := Nat.add_le_add below.skipped behind.skipped
    rw [← List.countP_append, List.take_append_drop] at joined
    exact Nat.le_trans joined (List.sublist_cons_self line rest).countP_le

theorem Exhausts.pass (notPlaced : line.isPlaced = false)
    (notUnplaced : line.isUnplaced = false) (all : forest.Exhausts rest) :
    forest.Exhausts (line :: rest) := by
  constructor
  · rw [List.countP_cons_of_neg (by simp [notPlaced]), all.classified]
  · rw [List.countP_cons_of_neg (by simp [notUnplaced]), all.skipped]

theorem Exhausts.afterSkipped (notPlaced : line.isPlaced = false)
    (unplaced : line.isUnplaced = true) (all : forest.Exhausts rest) :
    forest.afterSkipped.Exhausts (line :: rest) := by
  constructor
  · rw [List.countP_cons_of_neg (by simp [notPlaced])]
    exact all.classified
  · rw [List.countP_cons_of_pos unplaced]
    exact congrArg (· + 1) all.skipped

theorem Exhausts.afterLeaf (placed : line.isPlaced = true) (node : SyntaxNode α)
    (all : forest.Exhausts rest) : (forest.afterLeaf node).Exhausts (line :: rest) := by
  constructor
  · rw [List.countP_cons_of_pos placed]
    exact congrArg (· + 1) all.classified
  · rw [List.countP_cons_of_neg (by simp [CodeLine.isUnplaced_of_isPlaced placed])]
    exact all.skipped

theorem Exhausts.afterBlock (placed : line.isPlaced = true) (count : Nat)
    (node : SyntaxNode α) (balanced : Bool) (below : inner.Exhausts (rest.take count))
    (behind : forest.Exhausts (rest.drop count)) :
    (forest.afterBlock node balanced inner).Exhausts (line :: rest) := by
  constructor
  · rw [List.countP_cons_of_pos placed, ← List.take_append_drop count rest,
      List.countP_append, ← below.classified, ← behind.classified]
    rfl
  · rw [List.countP_cons_of_neg (by simp [CodeLine.isUnplaced_of_isPlaced placed]),
      ← List.take_append_drop count rest, List.countP_append, ← below.skipped,
      ← behind.skipped]
    rfl

end Forest

/-! ### All lines -/

variable [Scalar α]

theorem isPlaced_eq_false_of_classify {line : CodeLine}
    (noKind : Statement.classify line.code = none) : line.isPlaced = false := by
  simp [CodeLine.isPlaced, noKind]

/-- Whatever a depth limit leaves out, no line is counted twice. -/
theorem forest_accountsFor (maxDepth depth : Nat) (outer : List (List Char))
    (lines : List CodeLine) :
    (forest maxDepth depth outer lines : Forest α).AccountsFor lines := by
  fun_induction forest (α := α) maxDepth depth outer lines with
  | case1 => exact .none []
  | case2 depth outer line rest isBlank inductionHypothesis =>
      exact inductionHypothesis.pass (by simp [CodeLine.isPlaced, isBlank])
  | case3 depth outer line rest isCode noKind others isNoise inductionHypothesis =>
      exact inductionHypothesis.pass (isPlaced_eq_false_of_classify noKind)
  | case4 depth outer line rest isCode noKind others isSkipped inductionHypothesis =>
      exact inductionHypothesis.afterSkipped (isPlaced_eq_false_of_classify noKind)
        (by simp [CodeLine.isUnplaced, isCode, noKind, isSkipped])
  | case5 depth outer line rest isCode statement isKind isSingle inductionHypothesis =>
      exact inductionHypothesis.afterLeaf (CodeLine.isPlaced_of_classify isCode isKind) _ _
  | case6 depth outer line rest isCode statement isKind isBlock extent body inner contents
      behind =>
      have below : inner.AccountsFor body := by
        by_cases tooDeep : maxDepth < depth + 1
        · simpa [inner, tooDeep] using Forest.AccountsFor.none body
        · simpa [inner, tooDeep] using contents
      exact .afterBlock (CodeLine.isPlaced_of_classify isCode isKind) extent.below _ _
        (by rw [buildBlock_lines]; rfl) (buildBlock_children ..) below behind

/-- Blocks nest no deeper than there are lines, so a limit by their number leaves
nothing out. -/
theorem forest_exhausts (maxDepth depth : Nat) (outer : List (List Char))
    (lines : List CodeLine) (within : depth + lines.length ≤ maxDepth) :
    (forest maxDepth depth outer lines : Forest α).Exhausts lines := by
  fun_induction forest (α := α) maxDepth depth outer lines with
  | case1 => exact ⟨rfl, rfl⟩
  | case2 depth outer line rest isBlank inductionHypothesis =>
      rw [List.length_cons] at within
      exact (inductionHypothesis (by omega)).pass (by simp [CodeLine.isPlaced, isBlank])
        (by simp [CodeLine.isUnplaced, isBlank])
  | case3 depth outer line rest isCode noKind others isNoise inductionHypothesis =>
      rw [List.length_cons] at within
      exact (inductionHypothesis (by omega)).pass (isPlaced_eq_false_of_classify noKind)
        (by simp [CodeLine.isUnplaced, isNoise])
  | case4 depth outer line rest isCode noKind others isSkipped inductionHypothesis =>
      rw [List.length_cons] at within
      exact (inductionHypothesis (by omega)).afterSkipped
        (isPlaced_eq_false_of_classify noKind)
        (by simp [CodeLine.isUnplaced, isCode, noKind, isSkipped])
  | case5 depth outer line rest isCode statement isKind isSingle inductionHypothesis =>
      rw [List.length_cons] at within
      exact (inductionHypothesis (by omega)).afterLeaf
        (CodeLine.isPlaced_of_classify isCode isKind) _
  | case6 depth outer line rest isCode statement isKind isBlock extent body inner contents
      behind =>
      rw [List.length_cons] at within
      have notTooDeep : ¬maxDepth < depth + 1 := by omega
      have bodyShorter : body.length ≤ rest.length := List.length_take_le' _ _
      have below : inner.Exhausts body := by
        have found := contents (by omega)
        simpa [inner, notTooDeep] using found
      have behindShorter : (rest.drop extent.below).length ≤ rest.length := by
        rw [List.length_drop]
        omega
      exact .afterBlock (CodeLine.isPlaced_of_classify isCode isKind) extent.below _ _ below
        (behind (by omega))

end Parse

/-! ### Parsed sources -/

namespace ParsedSource

variable {α : Type} [Scalar α]

/-- Every node below the root begins on a line of its own that starts a node, and is
counted once; placed and skipped lines together are no more than the lines of code.  A
limit no smaller than the number of lines leaves out no line that starts a node, and
skips exactly the lines of code that have no kind and are more than mere structure. -/
theorem ofSource_lines_accounted (maxDepth : Nat) (text : List Char) :
    let source := NormalizedSource.ofText text
    let parsed : ParsedSource α := ofSource maxDepth source
    let starts := parsed.root.walk.tail.map fun node => node.lines.first
    let placed := (source.lines.filter CodeLine.isPlaced).map CodeLine.number
    starts.length = parsed.stats.classifiedLines ∧
      starts.Sublist placed ∧
      parsed.stats.classifiedLines + parsed.stats.skippedLines ≤
        (source.lines.countP fun line => !line.isBlank) ∧
      (source.lines.length ≤ maxDepth →
        starts = placed ∧
        parsed.stats.classifiedLines = source.lines.countP CodeLine.isPlaced ∧
        parsed.stats.skippedLines = source.lines.countP CodeLine.isUnplaced) := by
  intro source parsed starts placed
  have account := Parse.forest_accountsFor (α := α) (max maxDepth 1) 0 [] source.lines
  refine ⟨account.classified, account.starts, ?_, ?_⟩
  · have placedAtMost := account.starts.length_le
    rw [account.classified, List.length_map, ← List.countP_eq_length_filter] at placedAtMost
    exact Nat.le_trans (Nat.add_le_add placedAtMost account.skipped)
      (CodeLine.countP_placed_add_unplaced_le source.lines)
  · intro within
    have all := Parse.forest_exhausts (α := α) (max maxDepth 1) 0 [] source.lines (by omega)
    refine ⟨account.starts.eq_of_length ?_, all.classified, all.skipped⟩
    rw [account.classified, all.classified, List.length_map, List.countP_eq_length_filter]

/-- A function whose brace is never closed, with a loop and a line of no kind inside. -/
theorem ofSource_lines_accounted_unclosed :
    let text := "fn f(n) \x7b\n  for x in xs \x7b\n    @@\n    use(x)\n  \x7d\n  return n".toList
    let source := NormalizedSource.ofText text
    let parsed : ParsedSource Float := ofSource 6 source
    source.lines.length ≤ 6 ∧
      parsed.stats.classifiedLines = source.lines.countP CodeLine.isPlaced ∧
      parsed.stats.skippedLines = source.lines.countP CodeLine.isUnplaced := by
  intro text source parsed
  have within : source.lines.length ≤ 6 := by
    rw [NormalizedSource.ofText_lines_length]
    decide
  exact ⟨within, ((ofSource_lines_accounted 6 text).2.2.2 within).2⟩

end ParsedSource

/-! ## Nesting

Everything rests on the numbering of the lines.  A block takes its header's line and
the lines after it up to its end, its contents only the latter, and the next node
begins behind both. -/

namespace SyntaxNode

variable {α : Type}

/-! ### Layout -/

/-- The trees lie one after another, from the line `first` on and before the line
`stop`. -/
structure Laid (first stop : Nat) (trees : List (SyntaxNode α)) : Prop where
  inside : ∀ tree ∈ trees, first ≤ tree.lines.first ∧ tree.lines.last < stop
  inOrder : trees.Pairwise fun earlier later => earlier.lines.last < later.lines.first

namespace Laid

variable {first middle stop : Nat} {tree : SyntaxNode α} {trees rest : List (SyntaxNode α)}

theorem nil : Laid first stop ([] : List (SyntaxNode α)) :=
  ⟨by simp, List.Pairwise.nil⟩

theorem weaken (laid : Laid middle stop trees) (below : first ≤ middle) :
    Laid first stop trees := by
  refine ⟨fun tree member => ?_, laid.inOrder⟩
  have within := laid.inside tree member
  exact ⟨below.trans within.1, within.2⟩

/-- One more tree goes before trees that lie behind its last line. -/
theorem cons (range : tree.lines.first ≤ tree.lines.last) (after : first ≤ tree.lines.first)
    (ends : tree.lines.last < middle) (reaches : middle ≤ stop)
    (laid : Laid middle stop rest) :
    Laid first stop (tree :: rest) := by
  have afterTree : ∀ later ∈ rest, tree.lines.last < later.lines.first := by
    intro later member
    have within := laid.inside later member
    omega
  constructor
  · intro found member
    rcases List.mem_cons.mp member with isTree | inRest
    · subst found
      omega
    · have within := laid.inside found inRest
      have behind := afterTree found inRest
      omega
  · exact List.pairwise_cons.mpr ⟨afterTree, laid.inOrder⟩

theorem tail (laid : Laid first stop (tree :: rest)) : Laid first stop rest :=
  ⟨fun found member => laid.inside found (List.mem_cons_of_mem tree member),
    (List.pairwise_cons.mp laid.inOrder).2⟩

end Laid

/-- The range of a node below the root, and how its children lie in it: behind its first
line, one after another.  A single statement has one line and no children. -/
structure Nested (node : SyntaxNode α) : Prop where
  range : node.lines.first ≤ node.lines.last
  children : Laid (node.lines.first + 1) (node.lines.last + 1) node.children
  single : node.kind.opensBlock = false →
    node.children = [] ∧ node.lines.first = node.lines.last

/-- The trees lie one after another, and they and all nodes below them nest. -/
def Laid.Deeply (first stop : Nat) (trees : List (SyntaxNode α)) : Prop :=
  Laid first stop trees ∧ ∀ node ∈ walkAll trees, node.Nested

/-- A tree that nests goes before trees that lie behind its last line. -/
theorem Laid.Deeply.cons {first middle stop : Nat} {tree : SyntaxNode α}
    {rest : List (SyntaxNode α)} (treeNested : tree.Nested)
    (starts : tree.lines.first = first) (ends : tree.lines.last < middle)
    (reaches : middle ≤ stop) (below : ∀ node ∈ walkAll tree.children, node.Nested)
    (others : Laid.Deeply middle stop rest) : Laid.Deeply first stop (tree :: rest) := by
  refine ⟨Laid.cons treeNested.range starts.ge ends reaches others.1, ?_⟩
  intro node member
  rcases List.mem_append.mp member with inTree | inOthers
  · rw [walk_eq] at inTree
    rcases List.mem_cons.mp inTree with isTree | isBelow
    · rw [isTree]
      exact treeNested
    · exact below node isBelow
  · exact others.2 node inOthers

/-! ### First lines in preorder -/

/-- The first lines of the nodes of a tree grow in preorder and stay in its range. -/
def StartsInOrder (tree : SyntaxNode α) : Prop :=
  (tree.walk.map fun node => node.lines.first).Pairwise (· < ·)
    ∧ ∀ node ∈ tree.walk,
      tree.lines.first ≤ node.lines.first ∧ node.lines.first ≤ tree.lines.last

theorem walkAll_starts {first stop : Nat} {trees : List (SyntaxNode α)}
    (laid : Laid first stop trees) (each : ∀ tree ∈ trees, tree.StartsInOrder) :
    ((walkAll trees).map fun node => node.lines.first).Pairwise (· < ·)
      ∧ ∀ node ∈ walkAll trees, first ≤ node.lines.first ∧ node.lines.first < stop := by
  induction trees with
  | nil => simp
  | cons tree rest inductionHypothesis =>
      obtain ⟨treeStarts, treeWithin⟩ := each tree (by simp)
      obtain ⟨restStarts, restWithin⟩ := inductionHypothesis laid.tail
        (fun other member => each other (List.mem_cons_of_mem tree member))
      have treeInside := laid.inside tree (by simp)
      have treeBefore : ∀ later ∈ walkAll rest, tree.lines.last < later.lines.first := by
        intro later member
        obtain ⟨sibling, isSibling, inSibling⟩ := mem_walkAll.mp member
        have siblingBehind := (List.pairwise_cons.mp laid.inOrder).1 sibling isSibling
        have siblingStarts :=
          (each sibling (List.mem_cons_of_mem tree isSibling)).2 later inSibling
        omega
      constructor
      · rw [walkAll_cons, List.map_append, List.pairwise_append]
        refine ⟨treeStarts, restStarts, ?_⟩
        intro earlier isEarlier later isLater
        obtain ⟨node, inTree, rfl⟩ := List.mem_map.mp isEarlier
        obtain ⟨other, inRest, rfl⟩ := List.mem_map.mp isLater
        have nodeWithin := treeWithin node inTree
        have otherBehind := treeBefore other inRest
        omega
      · intro node member
        rcases List.mem_append.mp member with inTree | inRest
        · have nodeWithin := treeWithin node inTree
          omega
        · exact restWithin node inRest

theorem startsInOrder_of_nested (tree : SyntaxNode α)
    (nested : ∀ node ∈ tree.walk, node.Nested) : tree.StartsInOrder := by
  induction tree using induction_on_children with
  | step parent inductionHypothesis =>
      have parentNested := nested parent (self_mem_walk parent)
      have eachChild : ∀ child ∈ parent.children, child.StartsInOrder := by
        intro child isChild
        apply inductionHypothesis child isChild
        intro node inChild
        exact nested node (mem_walk.mpr (Or.inr ⟨child, isChild, inChild⟩))
      obtain ⟨starts, within⟩ := walkAll_starts parentNested.children eachChild
      have parentRange := parentNested.range
      unfold StartsInOrder
      rw [walk_eq]
      constructor
      · rw [List.map_cons, List.pairwise_cons]
        refine ⟨?_, starts⟩
        intro start isStart
        obtain ⟨node, isBelow, rfl⟩ := List.mem_map.mp isStart
        have nodeWithin := within node isBelow
        omega
      · intro node member
        rcases List.mem_cons.mp member with isParent | isBelow
        · subst node
          omega
        · have nodeWithin := within node isBelow
          omega

end SyntaxNode

/-! ### The nodes that parsing builds -/

namespace Parse

open SyntaxNode

variable {α : Type} [Scalar α]

/-- The range of a block: its header's line and the lines of its body. -/
theorem blockRange_eq {first : Nat} {header : CodeLine} {below : List CodeLine}
    (numbered : NumberedFrom first (header :: below)) {count : Nat}
    (fits : count ≤ below.length) :
    blockRange header (below.take count) = ⟨first, first + count⟩ := by
  obtain ⟨headerNumber, belowNumbered⟩ := NumberedFrom.cons_iff.mp numbered
  have lastNumber := (belowNumbered.take count).getLast?_number
  rw [List.length_take, Nat.min_eq_left fits] at lastNumber
  unfold blockRange LineRange.between
  rw [lastNumber, headerNumber]
  split
  · next isEmpty => simp [isEmpty]
  · next notEmpty =>
      rw [Option.getD_some, LineRange.mk.injEq]
      omega

theorem leaf_nested (line : CodeLine) (kind : NodeKind) (name : Option (List Char)) :
    (leaf line kind name : SyntaxNode α).Nested := by
  have oneLine : (leaf line kind name : SyntaxNode α).lines = ⟨line.number, line.number⟩ := by
    simp [leaf, SyntaxNode.lines, LineRange.between]
  constructor
  · rw [oneLine]
  · rw [leaf_children]
    exact Laid.nil
  · intro _
    rw [oneLine]
    exact ⟨leaf_children line kind name, rfl⟩

/-- A block nests if its contents are laid out over the lines of its body. -/
theorem buildBlock_nested {first count : Nat} {header : CodeLine} {body : List CodeLine}
    {children : List (SyntaxNode α)} (range : blockRange header body = ⟨first, first + count⟩)
    (contents : Laid (first + 1) (first + 1 + count) children) (outer : List (List Char))
    (statement : Statement.Classified) :
    (buildBlock header body outer statement children).Nested := by
  constructor
  · rw [buildBlock_lines, range]
    exact Nat.le_add_right first count
  · rw [buildBlock_lines, buildBlock_children, range, Nat.add_right_comm]
    exact contents
  · intro opensNone
    rw [buildBlock_opensBlock] at opensNone
    contradiction

/-- The nodes of numbered lines lie within these lines, and all nodes below them nest. -/
theorem forest_laid (maxDepth depth : Nat) (outer : List (List Char))
    (lines : List CodeLine) : ∀ first, NumberedFrom first lines →
      Laid.Deeply first (first + lines.length)
        (forest maxDepth depth outer lines : Forest α).nodes := by
  refine forest_nodes_induction
    (motive := fun lines nodes => ∀ first, NumberedFrom first lines →
      Laid.Deeply first (first + lines.length) nodes)
    ?_ ?_ ?_ ?_ maxDepth depth outer lines
  · intro first _
    exact ⟨Laid.nil, by simp⟩
  · intro line rest nodes inductionHypothesis first numbered
    obtain ⟨laid, nested⟩ :=
      inductionHypothesis (first + 1) (NumberedFrom.cons_iff.mp numbered).2
    rw [List.length_cons, Nat.add_comm rest.length 1, ← Nat.add_assoc]
    exact ⟨laid.weaken (Nat.le_succ first), nested⟩
  · intro line rest kind name nodes _ inductionHypothesis first numbered
    obtain ⟨lineNumber, restNumbered⟩ := NumberedFrom.cons_iff.mp numbered
    have others := inductionHypothesis (first + 1) restNumbered
    rw [List.length_cons, Nat.add_comm rest.length 1, ← Nat.add_assoc, ← lineNumber]
    rw [← lineNumber] at others
    refine Laid.Deeply.cons (leaf_nested line kind name) rfl ?_ (Nat.le_add_right _ _) ?_
      others
    · simp [leaf, SyntaxNode.lines, LineRange.between]
    · simp
  · intro line rest count outer statement children nodes fits contents inductionHypothesis
      first numbered
    have range := blockRange_eq numbered fits
    have restNumbered := (NumberedFrom.cons_iff.mp numbered).2
    have others := inductionHypothesis (first + 1 + count) (restNumbered.drop count)
    have inBlock : Laid.Deeply (first + 1) (first + 1 + count) children := by
      rcases contents with leftOut | contents
      · rw [leftOut]
        exact ⟨Laid.nil, by simp⟩
      · have found := contents (first + 1) (restNumbered.take count)
        rwa [List.length_take, Nat.min_eq_left fits] at found
    have reach : first + (line :: rest).length
        = first + 1 + count + (rest.drop count).length := by
      rw [List.length_cons, List.length_drop]
      omega
    rw [reach]
    refine Laid.Deeply.cons (buildBlock_nested range inBlock.1 outer statement) ?_ ?_
      (Nat.le_add_right _ _) ?_ others
    · rw [buildBlock_lines, range]
    · rw [buildBlock_lines, range]
      change first + count < first + 1 + count
      omega
    · rw [buildBlock_children]
      exact inBlock.2

end Parse

/-! ### Parsed sources -/

namespace SyntaxNode

variable {α : Type}

/-- The line ranges of a tree over `lineCount` lines nest properly. -/
structure ProperlyNested (root : SyntaxNode α) (lineCount : Nat) : Prop where
  rootKind : root.kind = .program
  rootLines : root.lines = ⟨1, max 1 lineCount⟩
  ranges : ∀ node ∈ root.walk, node.lines.first ≤ node.lines.last
  /-- The range of a child lies inside the range of its parent. -/
  inside : ∀ node ∈ root.walk, ∀ child ∈ node.children,
    node.lines.first ≤ child.lines.first ∧ child.lines.last ≤ node.lines.last
  /-- Below the root, a child begins behind the first line of its parent. -/
  behindHeader : ∀ node ∈ root.walk.tail, ∀ child ∈ node.children,
    node.lines.first < child.lines.first
  /-- A child ends before the next one begins. -/
  siblings : ∀ node ∈ root.walk,
    node.children.Pairwise fun earlier later => earlier.lines.last < later.lines.first
  /-- Calls, variables and returns have no children and one line. -/
  statements : ∀ node ∈ root.walk,
    node.kind = .call ∨ node.kind = .binding ∨ node.kind = .returning →
    node.children = [] ∧ node.lines.first = node.lines.last
  /-- No line begins two nodes below the root. -/
  starts : (root.walk.tail.map fun node => node.lines.first).Pairwise (· < ·)

/-- A program over children that are laid out and nest is properly nested. -/
theorem ProperlyNested.of_laid {root : SyntaxNode α} {lineCount : Nat}
    (rootKind : root.kind = .program) (rootLines : root.lines = ⟨1, max 1 lineCount⟩)
    (laid : Laid.Deeply 1 (1 + lineCount) root.children) : root.ProperlyNested lineCount := by
  obtain ⟨rootChildren, nested⟩ := laid
  -- the root is told apart from the nodes below it: only these begin with a header
  have rootOrNested : ∀ node ∈ root.walk, node = root ∨ node.Nested := by
    intro node member
    rw [walk_eq] at member
    rcases List.mem_cons.mp member with isRoot | isBelow
    · exact Or.inl isRoot
    · exact Or.inr (nested node isBelow)
  constructor
  case rootKind => exact rootKind
  case rootLines => exact rootLines
  case ranges =>
    intro node member
    rcases rootOrNested node member with isRoot | nodeNested
    · rw [isRoot, rootLines]
      exact Nat.le_max_left 1 lineCount
    · exact nodeNested.range
  case inside =>
    intro node member child isChild
    rcases rootOrNested node member with isRoot | nodeNested
    · rw [isRoot] at isChild ⊢
      have within := rootChildren.inside child isChild
      rw [rootLines]
      exact ⟨within.1, by simp only; omega⟩
    · have within := nodeNested.children.inside child isChild
      omega
  case behindHeader =>
    intro node member child isChild
    rw [walk_tail] at member
    exact ((nested node member).children.inside child isChild).1
  case siblings =>
    intro node member
    rcases rootOrNested node member with isRoot | nodeNested
    · rw [isRoot]
      exact rootChildren.inOrder
    · exact nodeNested.children.inOrder
  case statements =>
    intro node member isStatement
    rcases rootOrNested node member with isRoot | nodeNested
    · rw [isRoot, rootKind] at isStatement
      simp at isStatement
    · apply nodeNested.single
      rcases isStatement with isKind | isKind | isKind <;> rw [isKind] <;> rfl
  case starts =>
    rw [walk_tail]
    refine (walkAll_starts rootChildren fun child isChild => ?_).1
    apply startsInOrder_of_nested child
    intro node inChild
    exact nested node (mem_walkAll.mpr ⟨child, isChild, inChild⟩)

end SyntaxNode

namespace ParsedSource

open SyntaxNode

variable {α : Type} [Scalar α]

theorem ofSource_rootLines (maxDepth : Nat) (text : List Char) :
    (ofSource maxDepth (NormalizedSource.ofText text) : ParsedSource α).root.lines =
      ⟨1, max 1 (Text.lines text).length⟩ := by
  have lastNumber := (NormalizedSource.ofText_numbered text).getLast?_number
  rw [NormalizedSource.ofText_lines_length] at lastNumber
  unfold ofSource
  simp only [SyntaxNode.lines, LineRange.between, lastNumber, LineRange.mk.injEq, true_and]
  split
  · next isEmpty => simp [isEmpty]
  · next notEmpty =>
      rw [Option.getD_some]
      omega

/-- The tree of every source text nests properly, whatever the depth limit. -/
theorem ofSource_properlyNested (maxDepth : Nat) (text : List Char) :
    (ofSource maxDepth (NormalizedSource.ofText text) : ParsedSource α).root.ProperlyNested
      (Text.lines text).length := by
  have numbered := NormalizedSource.ofText_numbered text
  have laid := Parse.forest_laid (α := α) (max maxDepth 1) 0 [] _ 1 numbered
  rw [NormalizedSource.ofText_lines_length] at laid
  exact .of_laid rfl (ofSource_rootLines maxDepth text) laid

end ParsedSource

end GrowthEstimate
