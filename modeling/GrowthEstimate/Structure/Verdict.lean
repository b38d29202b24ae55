import GrowthEstimate.Catalogue.Entry

/-!
Contract: what the structure of a source says about its growth.

Owns: the shape of a code, the policies that let a catalogue match or the tree
decide, and the structural verdict.

Does **not** own: measurements, and what they change in a verdict.
-/

set_option autoImplicit false

namespace GrowthEstimate

/-- Which signal decides the time class if an algorithm was recognised. -/
inductive PatternPrecedence where
  | patternFirst
  | structureFirst
  /-- The tree or the strongest match, whichever has the greater confidence. -/
  | strongest
  deriving DecidableEq, Repr, Inhabited

namespace PatternPrecedence

/-- The policies, in the order of their declaration. -/
def all : List PatternPrecedence :=
  [patternFirst, structureFirst, strongest]

def name : PatternPrecedence → String
  | patternFirst => "pattern_first"
  | structureFirst => "structure_first"
  | strongest => "strongest"

def labelKey (label : List Char) : List Char :=
  (Text.lower label).map fun char => if char = '-' then '_' else char

/-- The policy that a label names, or the key that names none. -/
def ofLabel (label : List Char) : Except String PatternPrecedence :=
  match String.ofList (labelKey label) with
  | "pattern_first" | "pattern" => .ok patternFirst
  | "structure_first" | "structure" => .ok structureFirst
  | "strongest" => .ok strongest
  | other => .error other

/-- What is said of a key that names no policy. -/
def unknownMessage (key : String) : String :=
  "unknown precedence policy '" ++ key ++ "'"

end PatternPrecedence

/-- Facts about a code that cases and measurements depend on. -/
structure CodeShape where
  branching : Bool
  earlyExit : Bool
  unboundedLoop : Bool
  containers : Bool
  recursion : Option RecursionKind
  deriving DecidableEq, Repr, Inhabited

namespace CodeShape

variable {α : Type}

def hasFactor (nodes : List (SyntaxNode α)) (factor : String) : Bool :=
  nodes.any fun node => node.estimate.factors.contains factor

/-- The first kind of recursion, from several calls on parts to a single call, that some
node names. -/
def recursionOf? (nodes : List (SyntaxNode α)) : Option RecursionKind :=
  if hasFactor nodes "divide-and-conquer" then some .divideAndConquer
  else if hasFactor nodes "binary-recursion" then some .binaryTree
  else if hasFactor nodes "linear-recursion" then some .linear
  else none

def ofNodes (nodes : List (SyntaxNode α)) : CodeShape where
  branching := nodes.any fun node => node.kind == .conditional
  earlyExit := nodes.any fun node =>
    node.kind == .loop && node.walk.any fun inner => inner.kind == .returning
  unboundedLoop := hasFactor nodes "unbounded-loop"
  containers := nodes.any fun node => node.facts.container.isSome
  recursion := recursionOf? nodes

end CodeShape

/-- What the structure of a source says. -/
structure StructuralVerdict (α : Type) where
  time : GrowthClass
  space : GrowthClass
  confidence : α
  treeClass : GrowthClass
  functionCount : Nat
  loopCount : Nat
  primaryPattern : Option String
  patternClass : Option GrowthClass
  patternConfidence : Option α
  shape : CodeShape
  factors : List String

namespace StructuralVerdict

variable {α : Type} [Scalar α]

/-- The verdict on a tree without statements and without matches. -/
def ofNothing (shape : CodeShape) : StructuralVerdict α where
  time := .const
  space := .const
  confidence := 1.0
  treeClass := .const
  functionCount := 0
  loopCount := 0
  primaryPattern := none
  patternClass := none
  patternConfidence := none
  shape
  factors := ["empty-input"]

/-- The time class under a policy, from the estimate of the tree and the strongest
match. -/
def timeUnder (policy : PatternPrecedence) (tree : Estimate α)
    (best : Option (AlgorithmMatch α)) : GrowthClass :=
  match policy, best with
  | .patternFirst, some found => found.time
  | .strongest, some found =>
      if Scalar.lt tree.confidence found.confidence then found.time else tree.time
  | _, _ => tree.time

/-- The confidences of matches and of functions and loops, brought together: two parts
of matches to three of structure, either alone, or one half if there is neither. -/
def blend (matched structural : List α) : α :=
  match Scalar.mean? matched, Scalar.mean? structural with
  | some patterns, some structure_ => 0.4 * patterns + 0.6 * structure_
  | some only, none => only
  | none, some only => only
  | none, none => 0.5

/-- The structural verdict on a tree and the algorithms recognised in it. -/
def ofTree (policy : PatternPrecedence) (root : SyntaxNode α)
    (found : List (AlgorithmMatch α)) : StructuralVerdict α :=
  let nodes := root.walk
  let shape := CodeShape.ofNodes nodes
  if root.children.isEmpty && found.isEmpty then ofNothing shape
  else
    let tree := root.estimate
    let best := AlgorithmMatch.strongest? found
    let weighed := nodes.filter fun node => node.kind == .function || node.kind == .loop
    let confidence :=
      blend (found.map AlgorithmMatch.confidence)
        (weighed.map fun node => node.estimate.confidence)
    { time := timeUnder policy tree best
      space := (found.map AlgorithmMatch.space).foldl .join tree.space
      confidence := Scalar.clampUnit confidence
      treeClass := tree.time
      functionCount := nodes.countP fun node => node.kind == .function
      loopCount := nodes.countP fun node => node.kind == .loop
      primaryPattern := best.map AlgorithmMatch.name
      patternClass := best.map AlgorithmMatch.time
      patternConfidence := best.map AlgorithmMatch.confidence
      shape
      factors := tree.factors ++ found.map fun one => "pattern:" ++ one.name }

end StructuralVerdict

end GrowthEstimate
