import GrowthEstimate.Growth.Class

/-!
Contract: the structural syntax tree.

Owns: node kinds, loop shapes, container kinds, line ranges, the complexity estimate
of a node, the node itself, and the plain questions asked of a tree: its nodes in
preorder, how many there are of a kind, and how deep its loops are nested.

Does **not** own: how a tree is read from a source (`Tree.Parse`).
-/

set_option autoImplicit false

namespace GrowthEstimate

/-! ## Kinds -/

inductive NodeKind where
  | program
  | function
  | loop
  | conditional
  | call
  | binding
  | returning
  deriving DecidableEq, Repr, Inhabited

/-- Whether nodes of the kind own the statements below their header. -/
def NodeKind.opensBlock : NodeKind → Bool
  | program | function | loop | conditional => true
  | call | binding | returning => false

/-- The kind of a loop, as its header shows it. -/
inductive LoopKind where
  /-- A loop that counts, or goes over a range of numbers. -/
  | counting
  | forEach
  | whileLoop
  | doWhile
  | unbounded
  deriving DecidableEq, Repr, Inhabited

/-- How the variable of a loop advances. -/
inductive IterationPattern where
  | constant
  | halving
  | squareRoot
  | dependentIndex
  | quadraticBound
  | linear
  deriving DecidableEq, Repr, Inhabited

def IterationPattern.growth : IterationPattern → GrowthClass
  | constant => .const
  | halving => .log
  | squareRoot => .sqrt
  | quadraticBound => .quadratic
  | dependentIndex | linear => .linear

/-- The kind of a container that a declaration allocates. -/
inductive ContainerKind where
  | sequence
  | map
  | set
  | matrix
  deriving DecidableEq, Repr, Inhabited

def ContainerKind.space : ContainerKind → GrowthClass
  | matrix => .quadratic
  | sequence | map | set => .linear

/-! ## Line ranges -/

/-- The lines from `first` to `last`, both included and counted from one. -/
structure LineRange where
  first : Nat
  last : Nat
  deriving DecidableEq, Repr, Inhabited

namespace LineRange

/-- The range between two lines; it holds at least its first line. -/
def between (first last : Nat) : LineRange :=
  ⟨first, max last first⟩

def contains (range : LineRange) (line : Nat) : Bool :=
  range.first ≤ line && line ≤ range.last

end LineRange

/-! ## Estimates -/

/-- The complexity estimate of a node. -/
structure Estimate (α : Type) where
  time : GrowthClass
  space : GrowthClass
  confidence : α
  factors : List String
  /-- True if the estimate follows from the shape of the code without guessing. -/
  exact : Bool
  deriving Repr, Inhabited

namespace Estimate

variable {α : Type} [Scalar α]

def constant : Estimate α :=
  ⟨.const, .const, 1.0, [], true⟩

/-- An estimate that is not exact; its confidence is brought into the unit interval. -/
def guess (time space : GrowthClass) (confidence : α) : Estimate α :=
  ⟨time, space, Scalar.clampUnit confidence, [], false⟩

/-- The estimate with one more factor, unless it has it already. -/
def withFactor {α : Type} (estimate : Estimate α) (factor : String) : Estimate α :=
  if estimate.factors.contains factor then estimate
  else { estimate with factors := estimate.factors ++ [factor] }

end Estimate

/-! ## Nodes -/

/-- What a node knows besides its estimate. -/
structure NodeFacts where
  loopKind : Option LoopKind
  iteration : Option IterationPattern
  isRecursive : Bool
  recursiveCalls : Nat
  container : Option ContainerKind
  deriving DecidableEq, Repr, Inhabited

def NodeFacts.none : NodeFacts :=
  ⟨Option.none, Option.none, false, 0, Option.none⟩

inductive SyntaxNode (α : Type) where
  | node (kind : NodeKind) (name : Option (List Char)) (estimate : Estimate α)
      (lines : LineRange) (facts : NodeFacts) (children : List (SyntaxNode α))

namespace SyntaxNode

variable {α : Type}

def kind : SyntaxNode α → NodeKind
  | node kind _ _ _ _ _ => kind

/-- The name that the node declares or calls, or the word that opens it. -/
def name : SyntaxNode α → Option (List Char)
  | node _ name _ _ _ _ => name

def estimate : SyntaxNode α → Estimate α
  | node _ _ estimate _ _ _ => estimate

def lines : SyntaxNode α → LineRange
  | node _ _ _ lines _ _ => lines

def facts : SyntaxNode α → NodeFacts
  | node _ _ _ _ facts _ => facts

def children : SyntaxNode α → List (SyntaxNode α)
  | node _ _ _ _ _ children => children

mutual

/-- The node and all nodes below it, in preorder. -/
def walk : SyntaxNode α → List (SyntaxNode α)
  | node kind name estimate lines facts children =>
      node kind name estimate lines facts children :: walkAll children

/-- All nodes of a list of trees, in preorder. -/
def walkAll : List (SyntaxNode α) → List (SyntaxNode α)
  | [] => []
  | child :: rest => walk child ++ walkAll rest

end

def count (root : SyntaxNode α) (kind : NodeKind) : Nat :=
  root.walk.countP fun found => found.kind == kind

mutual

/-- The length of the longest chain of nested loops, the node included. -/
def loopDepth : SyntaxNode α → Nat
  | node kind _ _ _ _ children => loopDepthAll children + if kind = .loop then 1 else 0

/-- The length of the longest chain of nested loops in a list of trees. -/
def loopDepthAll : List (SyntaxNode α) → Nat
  | [] => 0
  | child :: rest => max (loopDepth child) (loopDepthAll rest)

end

end SyntaxNode

end GrowthEstimate
