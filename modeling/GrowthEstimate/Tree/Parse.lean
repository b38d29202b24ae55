import GrowthEstimate.Source.Normalized
import GrowthEstimate.Statement.Classify

/-!
Contract: the syntax tree of a normalized source.

Owns: the shape of a function's recursion, from the places where a code text calls a name and the
signs that an input is halved and that parts are combined; the segmentation of lines into nodes,
the estimate of each node from those below it, and the counts of lines that were placed and
skipped.
-/

set_option autoImplicit false

namespace GrowthEstimate

open Text
open Text.Pattern

/-! ## Recursion

Calls are counted by their text, so a shadowed name counts too. -/

inductive RecursionKind where
  | divideAndConquer
  /-- Several calls on an input that shrinks by no factor. -/
  | binaryTree
  | linear
  | none
  deriving DecidableEq, Repr, Inhabited

/-- The growth that follows from how a function calls itself. -/
structure RecursionShape (α : Type) where
  kind : RecursionKind
  time : GrowthClass
  depth : GrowthClass
  confidence : α
  sites : Nat
  deriving Repr

namespace RecursionShape

variable {α : Type} [Scalar α]

def ofSites (sites : Nat) (halving mergeLike : Bool) : RecursionShape α :=
  match sites with
  | 0 => ⟨.none, .unknown, .const, 0.3, 0⟩
  | 1 => ⟨.linear, .linear, .linear, 0.8, 1⟩
  | many + 2 =>
      if halving then
        ⟨.divideAndConquer, if mergeLike then .linearithmic else .log, .log, 0.85, many + 2⟩
      else ⟨.binaryTree, .exponential, .linear, 0.75, many + 2⟩

end RecursionShape

namespace Recursion

/-! ### Signs of halving and combining -/

def smallDivisor : Pattern :=
  .one (among "12")

/-- Signs that an input is halved: midpoints, halved arguments and lengths, slices at a
midpoint, pivots and partitions.  They are looked for in lower-cased code. -/
def halvingPattern : Pattern :=
  oneOf [
    chain [
      Statement.midpointName, blanks, "=", blanks, zeroOrMore (except ";\n"),
      Statement.dividedByTwo],
    chain [
      "(", blanks, oneOrMore (Statement.wordOr "."), blanks, oneOf ["/", "//", ">>"], blanks,
      smallDivisor, blanks, .one (among ",)")],
    chain ["len(", zeroOrMore (except ")"), ")", blanks, "//", blanks, "2"],
    chain [".len()", blanks, "/", blanks, "2"],
    chain [".length", blanks, "/", blanks, "2"],
    chain ["[", blanks, ":", blanks, "mid", blanks, "]"],
    chain ["[", blanks, "mid", blanks, ":", blanks, "]"],
    chain ["[", blanks, "..", blanks, "mid", blanks, "]"],
    chain ["[", blanks, "mid", blanks, "..", blanks, "]"],
    chain [.wordEdge, "pivot", .wordEdge],
    chain [.wordEdge, "partition", wordRest, blanks, "("]]

def mergePattern : Pattern :=
  oneOf [
    chain [.wordEdge, "merge", wordRest, blanks, "("],
    chain [.wordEdge, "partition", wordRest, blanks, "("],
    chain [.wordEdge, "combine", wordRest, blanks, "("]]

def hasHalving (lowered : List Char) : Bool :=
  halvingPattern.occursIn lowered

def hasMergeStep (lowered : List Char) : Bool :=
  mergePattern.occursIn lowered

/-! ### Call sites -/

/-- Whether what follows an occurrence of a name makes it a call: blanks, and then an
opening parenthesis. -/
def opensCall (following : List Char) : Bool :=
  opensWith ['('] (trimStart following)
    && !(following.head?.any isAsciiNameChar)

/-- The call sites of a name that is not empty, counted over its occurrences from left
to right without overlap.  `found` are those counted before, `skip` is how many
characters of the last occurrence are still ahead, and `previous` is the character
before the text. -/
def countCallsFrom (name : List Char) : Nat → Nat → Option Char → List Char → Nat
  | found, _, _, [] => found
  | found, skip + 1, _, char :: rest => countCallsFrom name found skip (some char) rest
  | found, 0, previous, char :: rest =>
      match stripFront name (char :: rest) with
      | none => countCallsFrom name found 0 (some char) rest
      | some following =>
          let isCall := !(previous.any isAsciiNameChar) && opensCall following
          countCallsFrom name (if isCall then found + 1 else found) (name.length - 1) (some char)
            rest

def countCalls (code name : List Char) : Nat :=
  if name.isEmpty then 0 else countCallsFrom name 0 0 none code

end Recursion

/-! ## Parsing

Nothing here fails.  A line without a kind is skipped, and a block that is never
closed ends with the block around it.  Blocks nested deeper than a limit are kept
without what is inside them. -/

/-- How the lines of a source were placed. -/
structure ParseStats where
  totalLines : Nat
  classifiedLines : Nat
  /-- Lines with code but without a kind, those of mere punctuation excepted. -/
  skippedLines : Nat
  unbalancedBlocks : Nat
  deriving DecidableEq, Repr, Inhabited

namespace ParseStats

/-- The share of skipped lines among those classified or skipped. -/
def skipRatio {α : Type} [Scalar α] (stats : ParseStats) : α :=
  let seen := stats.classifiedLines + stats.skippedLines
  if seen = 0 then 0.0 else Scalar.ofCount stats.skippedLines / Scalar.ofCount seen

end ParseStats

namespace Parse

variable {α : Type} [Scalar α]

/-- Blocks nested deeper than this are kept without their contents. -/
def defaultMaxDepth : Nat :=
  64

/-! ### Leaves -/

/-- Punctuation and blanks around the one word of a line of mere structure. -/
def isStructuralPunctuation (char : Char) : Bool :=
  char == '{' || char == '}' || char == '(' || char == ')' || char == ';' || char == ','
    || isSpace char

def structuralWords : List String :=
  ["", "else", "try", "finally", "pass", "break", "continue", "end", "do", "default"]

/-- Whether a line holds mere structure: punctuation around one structural word. -/
def isStructuralNoise (code : List Char) : Bool :=
  let inner := dropEndWhile isStructuralPunctuation (code.dropWhile isStructuralPunctuation)
  let word := dropEndWhile (· == ':') inner
  structuralWords.any fun structural => structural.toList == word

/-- The estimate of a single statement, from its line. -/
def statementEstimate (kind : NodeKind) (code : List Char) : Estimate α :=
  match Statement.libraryGrowth? code with
  | some time => (Estimate.guess time .const 0.85).withFactor "library-sort"
  | none =>
      if Statement.hasInlineIteration code then
        (Estimate.guess .linear .const 0.85).withFactor "inline-iteration"
      else if kind = .call then (Estimate.guess .const .const 0.9).withFactor "call"
      else .constant

/-- The estimate of a single statement that may allocate a container. -/
def leafEstimate (kind : NodeKind) (code : List Char) : Option ContainerKind → Estimate α
  | none => statementEstimate kind code
  | some found => { statementEstimate kind code with space := found.space }.withFactor "container"

def leaf (line : CodeLine) (kind : NodeKind) (name : Option (List Char)) : SyntaxNode α :=
  let container := if kind = .binding then Statement.containerKind? line.code else none
  .node kind name (leafEstimate kind line.code container) (.between line.number line.number)
    { NodeFacts.none with container } []

/-! ### Blocks -/

def joinedTime (children : List (SyntaxNode α)) : GrowthClass :=
  .joinAll (children.map fun child => child.estimate.time)

def joinedSpace (children : List (SyntaxNode α)) : GrowthClass :=
  .joinAll (children.map fun child => child.estimate.space)

/-- The least confidence of the nodes, one if there are none. -/
def leastConfidence (children : List (SyntaxNode α)) : α :=
  match children with
  | [] => 1.0
  | first :: rest =>
      rest.foldl (fun least child => Scalar.smaller least child.estimate.confidence)
        first.estimate.confidence

def allExact (children : List (SyntaxNode α)) : Bool :=
  children.all fun child => child.estimate.exact

/-- A confidence lowered by the least confidence below, of which a fifth counts. -/
def tempered (base least : α) : α :=
  base * (0.8 + 0.2 * least)

def loopConfidence : LoopKind → α
  | .counting | .forEach => 0.9
  | .whileLoop | .doWhile => 0.75
  | .unbounded => 0.5

def iterationFactor? : IterationPattern → Option String
  | .halving => some "halving"
  | .squareRoot => some "sqrt-bound"
  | .dependentIndex => some "dependent-index"
  | .quadraticBound => some "quadratic-bound"
  | .constant => some "constant-bound"
  | .linear => none

/-- The lines of code among lines, without the blank ones. -/
def codesOf (lines : List CodeLine) : List (List Char) :=
  (lines.map CodeLine.code).filter fun code => !code.isEmpty

def loopEstimate (kind : LoopKind) (iteration : IterationPattern)
    (children : List (SyntaxNode α)) : Estimate α :=
  let countable := kind == .counting || kind == .forEach
  let factors :=
    ["loop"] ++ (iterationFactor? iteration).toList
      ++ (if kind = .unbounded then ["unbounded-loop"] else [])
      ++ (if SyntaxNode.loopDepthAll children > 0 then ["nested-loop"] else [])
  let base : Estimate α :=
    .guess (iteration.growth.product (joinedTime children)) (joinedSpace children)
      (tempered (loopConfidence kind) (leastConfidence children))
  { base with exact := countable && allExact children, factors }

/-- The node of a loop with these lines below its header, inside loops with the
variables `outer`. -/
def buildLoop (header : CodeLine) (body : List CodeLine) (outer : List (List Char))
    (range : LineRange) (children : List (SyntaxNode α)) : SyntaxNode α :=
  let kind := Statement.loopKind header.code
  let iteration := Statement.iterationPattern header.code (codesOf body) outer
  .node .loop none (loopEstimate kind iteration children) range
    { NodeFacts.none with loopKind := some kind, iteration := some iteration } children

/-- The estimate of code that does no more than its children. -/
def plainEstimate (confidence : α) (children : List (SyntaxNode α)) : Estimate α :=
  { Estimate.guess (joinedTime children) (joinedSpace children) confidence with
    exact := allExact children }

def buildConditional (name : Option (List Char)) (range : LineRange)
    (children : List (SyntaxNode α)) : SyntaxNode α :=
  .node .conditional name
    ((plainEstimate (leastConfidence children) children).withFactor "branch") range .none children

def recursionFactor : RecursionKind → String
  | .divideAndConquer => "divide-and-conquer"
  | .binaryTree => "binary-recursion"
  | .linear => "linear-recursion"
  | .none => "recursion"

def recursiveEstimate (shape : RecursionShape α) (children : List (SyntaxNode α)) :
    Estimate α :=
  let inner := joinedTime children
  let time := if shape.kind = .linear then shape.time.product inner else shape.time.join inner
  ((Estimate.guess time (shape.depth.join (joinedSpace children))
    (tempered shape.confidence (leastConfidence children))).withFactor "recursion").withFactor
      (recursionFactor shape.kind)

/-- The estimate of a function with this many call sites of itself among the lines below
its header. -/
def functionEstimate (sites : Nat) (body : List CodeLine) (children : List (SyntaxNode α)) :
    Estimate α :=
  if sites = 0 then plainEstimate (tempered 0.9 (leastConfidence children)) children
  else
    let lowered := joinLines (body.map CodeLine.lowered)
    let mergeLike :=
      Recursion.hasMergeStep lowered || GrowthClass.linear.rank ≤ (joinedTime children).rank
    recursiveEstimate (.ofSites sites (Recursion.hasHalving lowered) mergeLike) children

def buildFunction (body : List CodeLine) (name : Option (List Char)) (range : LineRange)
    (children : List (SyntaxNode α)) : SyntaxNode α :=
  let sites := Recursion.countCalls (joinLines (codesOf body)) (name.getD [])
  .node .function name (functionEstimate sites body children) range
    { NodeFacts.none with isRecursive := sites != 0, recursiveCalls := sites } children

/-! ### Lines -/

/-- The nodes of a list of lines and how the lines were placed. -/
structure Forest (α : Type) where
  nodes : List (SyntaxNode α)
  classified : Nat
  skipped : Nat
  unbalanced : Nat

namespace Forest

def none {α : Type} : Forest α :=
  ⟨[], 0, 0, 0⟩

def afterSkipped {α : Type} (forest : Forest α) : Forest α :=
  { forest with skipped := forest.skipped + 1 }

def afterLeaf {α : Type} (node : SyntaxNode α) (forest : Forest α) : Forest α :=
  { forest with nodes := node :: forest.nodes, classified := forest.classified + 1 }

/-- The forest with one more block before it, whose contents are the forest `inner`. -/
def afterBlock {α : Type} (node : SyntaxNode α) (balanced : Bool) (forest inner : Forest α) :
    Forest α :=
  ⟨node :: forest.nodes, inner.classified + forest.classified + 1,
    inner.skipped + forest.skipped,
    inner.unbalanced + forest.unbalanced + if balanced then 0 else 1⟩

end Forest

/-- The range from a header to the last of the lines of its block. -/
def blockRange (header : CodeLine) (body : List CodeLine) : LineRange :=
  .between header.number ((body.getLast?.map CodeLine.number).getD header.number)

def buildBlock (header : CodeLine) (body : List CodeLine) (outer : List (List Char))
    (statement : Statement.Classified) (children : List (SyntaxNode α)) : SyntaxNode α :=
  let range := blockRange header body
  match statement.kind with
  | .loop => buildLoop header body outer range children
  | .function => buildFunction body statement.name range children
  | _ => buildConditional statement.name range children

def innerVariables (header : CodeLine) (outer : List (List Char)) (kind : NodeKind) :
    List (List Char) :=
  if kind = .loop then outer ++ (Statement.loopVariable? header.code).toList else outer

/-- The forest of a list of lines at a nesting depth, inside loops with the variables
`outer`. -/
def forest (maxDepth : Nat) (depth : Nat) (outer : List (List Char)) :
    List CodeLine → Forest α
  | [] => .none
  | line :: rest =>
      if line.isBlank then forest maxDepth depth outer rest
      else
        match Statement.classify line.code with
        | none =>
            let others := forest maxDepth depth outer rest
            if isStructuralNoise line.code then others else others.afterSkipped
        | some statement =>
            if !statement.kind.opensBlock then
              (forest maxDepth depth outer rest).afterLeaf
                (leaf line statement.kind statement.name)
            else
              let extent := Block.extent line rest
              let body := rest.take extent.below
              let inner : Forest α :=
                if maxDepth < depth + 1 then .none
                else forest maxDepth (depth + 1) (innerVariables line outer statement.kind) body
              (forest maxDepth depth outer (rest.drop extent.below)).afterBlock
                (buildBlock line body outer statement inner.nodes) extent.balanced inner
termination_by lines => lines.length
decreasing_by
  all_goals simp only [List.length_cons, List.length_drop, List.length_take]
  all_goals omega

/-! ### Programs -/

/-- The estimate of a program, from the nodes at its top and from how well its lines
were placed. -/
def programEstimate (children : List (SyntaxNode α)) (stats : ParseStats) : Estimate α :=
  let mean := (Scalar.mean? (children.map fun child => child.estimate.confidence)).getD 1.0
  let base := plainEstimate mean children
  let balanced :=
    if stats.unbalancedBlocks > 0 then
      { base with confidence := base.confidence * 0.8 }.withFactor "unbalanced-braces"
    else base
  if Scalar.lt 0.5 (stats.skipRatio : α) then
    { balanced with confidence := balanced.confidence * 0.9 }.withFactor "low-coverage"
  else balanced

end Parse

structure ParsedSource (α : Type) where
  root : SyntaxNode α
  stats : ParseStats

namespace ParsedSource

variable {α : Type} [Scalar α]

/-- Parses a normalized source, keeping blocks nested deeper than `maxDepth` without
their contents.  A limit of zero counts as one. -/
def ofSource (maxDepth : Nat) (source : NormalizedSource) : ParsedSource α :=
  let forest : Parse.Forest α := Parse.forest (max maxDepth 1) 0 [] source.lines
  let stats : ParseStats :=
    ⟨source.lines.length, forest.classified, forest.skipped, forest.unbalanced⟩
  let lastLine := (source.lines.getLast?.map CodeLine.number).getD 1
  ⟨.node .program none (Parse.programEstimate forest.nodes stats) (.between 1 lastLine) .none
    forest.nodes, stats⟩

end ParsedSource

end GrowthEstimate
