import GrowthEstimate.Number.Binary64
import GrowthEstimate.Proofs.Source.Padding
import GrowthEstimate.Tree.Parse
import Mathlib.Order.MinMax

/-!
Contract: the tree of a source with empty lines put in.

Owns: the relation between a tree and a copy of it on other lines, its passage through
leaves and blocks, and the comparison of two runs over lines and the same lines with blank
ones put in.

Does **not** own: estimates.  Whether a function halves its input or combines parts is
looked for in its lines joined together, blank ones included.
-/

set_option autoImplicit false

namespace GrowthEstimate

namespace SyntaxNode

variable {α : Type}

/-- The trees have the same nodes in the same places, with the same kinds, names and facts,
and each line of the second is the image of the one in the first. -/
inductive MovedTo (image : Nat → Nat) : SyntaxNode α → SyntaxNode α → Prop
  | node {kind : NodeKind} {name : Option (List Char)} {facts : NodeFacts}
      {estimate estimate' : Estimate α} {first last : Nat}
      {children children' : List (SyntaxNode α)}
      (below : List.Forall₂ (MovedTo image) children children') :
      MovedTo image (.node kind name estimate ⟨first, last⟩ facts children)
        (.node kind name estimate' ⟨image first, image last⟩ facts children')

end SyntaxNode

namespace Parse

open SyntaxNode

variable {α : Type} {image : Nat → Nat}

/-! ## Leaves and blocks -/

/-- A range between images is the image of the range. -/
theorem between_image (monotone : Monotone image) (first last : Nat) :
    LineRange.between (image first) (image last) =
      ⟨image (LineRange.between first last).first, image (LineRange.between first last).last⟩ := by
  simp only [LineRange.between, monotone.map_max]

theorem codesOf_padded {lines padded : List CodeLine} (isPadded : Padded image lines padded) :
    codesOf padded = codesOf lines := by
  induction isPadded with
  | nil => rfl
  | @blank line lines padded isBlank _ inductionHypothesis =>
      have noCode : line.code = [] := List.isEmpty_iff.mp isBlank
      rw [← inductionHypothesis]
      simp [codesOf, noCode]
  | @line line moved lines padded same _ inductionHypothesis =>
      unfold codesOf at inductionHypothesis ⊢
      rw [List.map_cons, List.map_cons, same.code, List.filter_cons, List.filter_cons,
        inductionHypothesis]

section Nodes

variable [Scalar α] {header moved : CodeLine}

theorem leaf_moved (monotone : Monotone image) (same : header.MovedTo image moved)
    (kind : NodeKind) (name : Option (List Char)) :
    (leaf header kind name : SyntaxNode α).MovedTo image (leaf moved kind name) := by
  unfold leaf
  rw [same.code, same.number, between_image monotone]
  exact .node .nil

theorem buildBlock_moved (monotone : Monotone image) (same : header.MovedTo image moved)
    {body body' : List CodeLine} (isPadded : Padded image body body')
    (last : body'.getLast?.map CodeLine.number = body.getLast?.map fun line => image line.number)
    (outer : List (List Char)) (statement : Statement.Classified)
    {children children' : List (SyntaxNode α)}
    (below : List.Forall₂ (SyntaxNode.MovedTo image) children children') :
    (buildBlock header body outer statement children).MovedTo image
      (buildBlock moved body' outer statement children') := by
  have range : blockRange moved body' =
      ⟨image (blockRange header body).first, image (blockRange header body).last⟩ := by
    have lastImage : (body'.getLast?.map CodeLine.number).getD moved.number =
        image ((body.getLast?.map CodeLine.number).getD header.number) := by
      rw [last, same.number]
      cases body.getLast? <;> rfl
    unfold blockRange
    rw [lastImage, same.number, between_image monotone]
  unfold buildBlock
  rw [range]
  split
  · simp only [buildLoop, same.code, codesOf_padded isPadded]
    exact .node below
  · simp only [buildFunction, codesOf_padded isPadded]
    exact .node below
  · exact .node below

end Nodes

/-! ## Forests -/

/-- The nodes stand on the images of their lines, and as many lines are placed and
skipped. -/
structure Forest.MovedTo (image : Nat → Nat) (forest moved : Forest α) : Prop where
  nodes : List.Forall₂ (SyntaxNode.MovedTo image) forest.nodes moved.nodes
  classified : moved.classified = forest.classified
  skipped : moved.skipped = forest.skipped

namespace Forest.MovedTo

variable {forest moved inner inner' : Forest α} {node node' : SyntaxNode α}

theorem afterSkipped (same : forest.MovedTo image moved) :
    forest.afterSkipped.MovedTo image moved.afterSkipped :=
  ⟨same.nodes, same.classified, congrArg (· + 1) same.skipped⟩

theorem afterLeaf (sameNode : node.MovedTo image node') (same : forest.MovedTo image moved) :
    (forest.afterLeaf node).MovedTo image (moved.afterLeaf node') :=
  ⟨.cons sameNode same.nodes, congrArg (· + 1) same.classified, same.skipped⟩

theorem afterBlock (sameNode : node.MovedTo image node') (balanced balanced' : Bool)
    (same : forest.MovedTo image moved) (sameInner : inner.MovedTo image inner') :
    (forest.afterBlock node balanced inner).MovedTo image
      (moved.afterBlock node' balanced' inner') where
  nodes := .cons sameNode same.nodes
  classified := by
    change inner'.classified + moved.classified + 1 = inner.classified + forest.classified + 1
    rw [sameInner.classified, same.classified]
  skipped := by
    change inner'.skipped + moved.skipped = inner.skipped + forest.skipped
    rw [sameInner.skipped, same.skipped]

end Forest.MovedTo

/-- No block is left open only if the last one put before is closed, and no other is left
open inside it or behind it. -/
theorem Forest.closed_of_afterBlock {node : SyntaxNode α} {balanced : Bool}
    {forest inner : Forest α} (allClosed : (forest.afterBlock node balanced inner).unbalanced = 0) :
    balanced = true ∧ inner.unbalanced = 0 ∧ forest.unbalanced = 0 := by
  have noneOpen : inner.unbalanced + forest.unbalanced + (if balanced then 0 else 1) = 0 :=
    allClosed
  cases balanced with
  | true => exact ⟨rfl, by simpa using noneOpen⟩
  | false => simp at noneOpen

/-- Blank lines move the nodes and change nothing else, provided that no block is left
open. -/
theorem forest_padded [Scalar α] (monotone : Monotone image) (maxDepth depth : Nat)
    (outer : List (List Char)) (padded : List CodeLine) :
    ∀ lines, Padded image lines padded →
      (forest maxDepth depth outer lines : Forest α).unbalanced = 0 →
      (forest maxDepth depth outer padded : Forest α).unbalanced = 0 →
      (forest maxDepth depth outer lines : Forest α).MovedTo image
        (forest maxDepth depth outer padded) := by
  fun_induction forest (α := α) maxDepth depth outer padded with
  | case1 =>
      intro lines isPadded _ _
      cases isPadded
      rw [forest]
      exact ⟨.nil, rfl, rfl⟩
  | case2 depth outer moved rest' isBlank' inductionHypothesis =>
      intro lines isPadded closed closed'
      cases isPadded with
      | blank _ isPadded => exact inductionHypothesis lines isPadded closed closed'
      | @line _ _ rest _ same isPadded =>
          rw [same.isBlank] at isBlank'
          rw [forest, if_pos isBlank'] at closed ⊢
          exact inductionHypothesis rest isPadded closed closed'
  | case3 depth outer moved rest' isCode' noKind' others' isNoise' inductionHypothesis =>
      intro lines isPadded closed closed'
      obtain ⟨line, rest, rfl, same, isPadded⟩ := isPadded.of_code isCode'
      rw [same.isBlank] at isCode'
      rw [same.code] at noKind' isNoise'
      rw [forest, if_neg isCode', noKind'] at closed ⊢
      simp only [if_pos isNoise'] at closed ⊢
      exact inductionHypothesis rest isPadded closed closed'
  | case4 depth outer moved rest' isCode' noKind' others' isSkipped' inductionHypothesis =>
      intro lines isPadded closed closed'
      obtain ⟨line, rest, rfl, same, isPadded⟩ := isPadded.of_code isCode'
      rw [same.isBlank] at isCode'
      rw [same.code] at noKind' isSkipped'
      rw [forest, if_neg isCode', noKind'] at closed ⊢
      simp only [if_neg isSkipped'] at closed ⊢
      exact (inductionHypothesis rest isPadded closed closed').afterSkipped
  | case5 depth outer moved rest' isCode' statement isKind' isSingle inductionHypothesis =>
      intro lines isPadded closed closed'
      obtain ⟨line, rest, rfl, same, isPadded⟩ := isPadded.of_code isCode'
      rw [same.isBlank] at isCode'
      rw [same.code] at isKind'
      rw [forest, if_neg isCode', isKind'] at closed ⊢
      simp only [if_pos isSingle] at closed ⊢
      exact (inductionHypothesis rest isPadded closed closed').afterLeaf
        (leaf_moved monotone same statement.kind statement.name)
  | case6 depth outer moved rest' isCode' statement isKind' isBlock extent' body' inner' contents
      others =>
      intro lines isPadded closed closed'
      obtain ⟨line, rest, rfl, same, isPadded⟩ := isPadded.of_code isCode'
      rw [same.isBlank] at isCode'
      rw [same.code] at isKind'
      rw [forest, if_neg isCode', isKind'] at closed ⊢
      simp only [if_neg isBlock] at closed ⊢
      obtain ⟨balanced, innerClosed, behindClosed⟩ := Forest.closed_of_afterBlock closed
      obtain ⟨balanced', innerClosed', behindClosed'⟩ := Forest.closed_of_afterBlock closed'
      have cut := Block.extent_padded same isPadded balanced balanced'
      have sameOuter : innerVariables moved outer statement.kind =
          innerVariables line outer statement.kind := by
        rw [innerVariables, innerVariables, same.code]
      have sameInner : Forest.MovedTo image
          (if maxDepth < depth + 1 then (.none : Forest α)
            else forest maxDepth (depth + 1) (innerVariables line outer statement.kind)
              (rest.take (Block.extent line rest).below)) inner' := by
        by_cases tooDeep : maxDepth < depth + 1
        · simp only [inner', tooDeep, if_true, dite_true]
          exact ⟨.nil, rfl, rfl⟩
        · rw [sameOuter] at contents
          simp only [inner', tooDeep, if_false, dite_false, sameOuter]
            at innerClosed innerClosed' ⊢
          exact contents _ cut.before innerClosed innerClosed'
      exact .afterBlock (buildBlock_moved monotone same cut.before cut.last outer statement
        sameInner.nodes) _ _ (others _ cut.behind behindClosed behindClosed') sameInner

end Parse

/-! ## Parsed sources -/

namespace ParsedSource

open NormalizedSource SyntaxNode

variable {α : Type} [Scalar α]

/-- A source with empty lines put in has the same tree on other lines and places and skips
as many lines, provided that neither source leaves a block open.  The range of the root is
left out, since it runs from the first line to the last one, empty or not. -/
theorem ofSource_padded (maxDepth : Nat) (gaps : Nat → Nat) {text padded : List Char}
    (isPadded : Text.lines padded = padLines gaps (Text.lines text))
    (closed : (ofSource maxDepth (ofText text) : ParsedSource α).stats.unbalancedBlocks = 0)
    (closed' : (ofSource maxDepth (ofText padded) : ParsedSource α).stats.unbalancedBlocks = 0) :
    let parsed : ParsedSource α := ofSource maxDepth (ofText text)
    let parsed' : ParsedSource α := ofSource maxDepth (ofText padded)
    (parsed'.root.kind = parsed.root.kind ∧ parsed'.root.name = parsed.root.name ∧
        parsed'.root.facts = parsed.root.facts) ∧
      List.Forall₂ (MovedTo (padNumber gaps)) parsed.root.children parsed'.root.children ∧
      parsed'.stats.classifiedLines = parsed.stats.classifiedLines ∧
      parsed'.stats.skippedLines = parsed.stats.skippedLines := by
  intro parsed parsed'
  have moved := Parse.forest_padded (α := α) (padNumber_mono gaps) (max maxDepth 1) 0 []
    (ofText padded).lines (ofText text).lines (ofText_padded isPadded) closed closed'
  exact ⟨⟨rfl, rfl, rfl⟩, moved.nodes, moved.classified, moved.skipped⟩

/-- Empty lines between a loop and its brace, inside a comment, and at the end. -/
theorem ofSource_padded_comment :
    let text := "for x in xs\n\x7b /*\n*/ f(x);\n\x7d".toList
    let padded := "for x in xs\n\n\x7b /*\n\n\n*/ f(x);\n\x7d\n\n".toList
    let gaps := fun index => [0, 1, 2, 0, 1].getD index 0
    let parsed : ParsedSource Float := ofSource 6 (ofText text)
    let parsed' : ParsedSource Float := ofSource 6 (ofText padded)
    (Text.lines padded = padLines gaps (Text.lines text) ∧
        parsed.stats.unbalancedBlocks = 0 ∧ parsed'.stats.unbalancedBlocks = 0) ∧
      List.Forall₂ (MovedTo (padNumber gaps)) parsed.root.children parsed'.root.children ∧
      parsed'.stats.classifiedLines = parsed.stats.classifiedLines ∧
      parsed'.stats.skippedLines = parsed.stats.skippedLines := by
  intro text padded gaps parsed parsed'
  have isPadded : Text.lines padded = padLines gaps (Text.lines text) := by decide +kernel
  have closed : parsed.stats.unbalancedBlocks = 0 := by decide +kernel
  have closed' : parsed'.stats.unbalancedBlocks = 0 := by decide +kernel
  exact ⟨⟨isPadded, closed, closed'⟩, (ofSource_padded 6 gaps isPadded closed closed').2⟩

end ParsedSource

end GrowthEstimate
