import GrowthEstimate.Catalogue.Evidence
import GrowthEstimate.Growth.Class

/-!
Contract: the catalogue of well-known algorithms.

Owns: the criteria that evidence can meet, the entries of the catalogue, and the
matches of the catalogue with evidence.

An entry matches if the evidence meets all of its criteria; there is no partial
match, and entries match independently of each other.
-/

set_option autoImplicit false

namespace GrowthEstimate

/-- Something that an entry asks of evidence. -/
inductive Criterion where
  | mergeHelper
  | noMergeHelper
  | midpoint
  | noMidpoint
  | multipleCalls
  | atMostOneCall
  | someCall
  | noCall
  | auxBuffer
  | boundsIdentifiers
  | pivot
  | swapOrBuffer
  | swap
  | heapify
  | heapChildIndex
  | nestedLoops
  | singleLoop
  | adjacentComparison
  | insertionKey
  | insertionShift
  | midpointUpdate
  | bisectionDriver
  | equalityTest
  | earlyExit
  | visited
  | adjacency
  | queue
  | noQueue
  | stackOrCall
  | priorityQueue
  | noPriorityQueue
  | distances
  | memoTable
  | loopOrCall
  | treeChildren
  deriving DecidableEq, Repr, Inhabited

namespace Criterion

def tag : Criterion → String
  | mergeHelper => "merge-helper"
  | noMergeHelper => "no-merge-helper"
  | midpoint => "halving-midpoint"
  | noMidpoint => "no-midpoint"
  | multipleCalls => "multiple-recursive-calls"
  | atMostOneCall => "at-most-one-recursive-call"
  | someCall => "recursion"
  | noCall => "no-recursion"
  | auxBuffer => "auxiliary-buffer"
  | boundsIdentifiers => "bounds-identifiers"
  | pivot => "pivot-partition"
  | swapOrBuffer => "swap-or-buffer"
  | swap => "swap"
  | heapify => "heapify"
  | heapChildIndex => "heap-child-index"
  | nestedLoops => "nested-loops"
  | singleLoop => "single-loop"
  | adjacentComparison => "adjacent-comparison"
  | insertionKey => "key-element"
  | insertionShift => "shift-right"
  | midpointUpdate => "midpoint-update"
  | bisectionDriver => "bisection-driver"
  | equalityTest => "equality-test"
  | earlyExit => "early-exit"
  | visited => "visited-set"
  | adjacency => "adjacency"
  | queue => "queue"
  | noQueue => "no-queue"
  | stackOrCall => "stack-or-recursion"
  | priorityQueue => "priority-queue"
  | noPriorityQueue => "no-priority-queue"
  | distances => "distance-table"
  | memoTable => "memo-table"
  | loopOrCall => "loop-or-recursion"
  | treeChildren => "child-links"

def holds (evidence : Evidence) : Criterion → Bool
  | mergeHelper => evidence.shows .mergeHelper
  | noMergeHelper => !evidence.shows .mergeHelper
  | midpoint => evidence.shows .midpoint
  | noMidpoint => !evidence.shows .midpoint
  | multipleCalls => 2 ≤ evidence.maxRecursiveCalls
  | atMostOneCall => evidence.maxRecursiveCalls < 2
  | someCall => 1 ≤ evidence.maxRecursiveCalls
  | noCall => evidence.maxRecursiveCalls == 0
  | auxBuffer => evidence.shows .auxBuffer
  | boundsIdentifiers => evidence.shows .boundsIdentifiers
  | pivot => evidence.shows .pivot
  | swapOrBuffer => evidence.shows .swap || evidence.shows .auxBuffer
  | swap => evidence.shows .swap
  | heapify => evidence.shows .heapify
  | heapChildIndex => evidence.shows .heapChildIndex
  | nestedLoops => 2 ≤ evidence.loopDepth
  | singleLoop => evidence.loopDepth == 1
  | adjacentComparison => evidence.shows .adjacentComparison
  | insertionKey => evidence.shows .insertionKey
  | insertionShift => evidence.shows .insertionShift
  | midpointUpdate => evidence.shows .midpointUpdate
  | bisectionDriver => evidence.shows .bisectionLoop || evidence.maxRecursiveCalls == 1
  | equalityTest => evidence.shows .equalitySearch
  | earlyExit => evidence.shows .earlyExit
  | visited => evidence.shows .visited
  | adjacency => evidence.shows .adjacency
  | queue => evidence.shows .queue
  | noQueue => !evidence.shows .queue
  | stackOrCall => evidence.shows .stack || 1 ≤ evidence.maxRecursiveCalls
  | priorityQueue => evidence.shows .priorityQueue
  | noPriorityQueue => !evidence.shows .priorityQueue
  | distances => evidence.shows .distances
  | memoTable => evidence.shows .memoTable
  | loopOrCall => 1 ≤ evidence.loopDepth || 1 ≤ evidence.maxRecursiveCalls
  | treeChildren => evidence.shows .treeChildren

end Criterion

/-- How the time class of a match is found. -/
inductive TimeRule where
  | fixed (growth : GrowthClass)
  /-- One linear factor for each level of nested loops, and one at least; cubic at most. -/
  | perLoopLevel
  deriving DecidableEq, Repr, Inhabited

def TimeRule.growth (evidence : Evidence) : TimeRule → GrowthClass
  | fixed growth => growth
  | perLoopLevel =>
      match evidence.loopDepth with
      | 0 | 1 => .linear
      | 2 => .quadratic
      | _ => .cubic

/-- How the space class of a match is found. -/
inductive SpaceRule where
  | fixed (growth : GrowthClass)
  /-- Quadratic for a table with two indices, linear for any other. -/
  | table
  deriving DecidableEq, Repr, Inhabited

def SpaceRule.growth (evidence : Evidence) : SpaceRule → GrowthClass
  | fixed growth => growth
  | table => if evidence.shows .tableTwoD then .quadratic else .linear

/-- An algorithm of the catalogue. -/
structure CatalogueEntry where
  name : String
  time : TimeRule
  space : SpaceRule
  cases : Option CaseSplit
  /-- The confidence in a match, in hundredths. -/
  hundredths : Nat
  hints : List String
  criteria : List Criterion
  deriving DecidableEq, Repr, Inhabited

/-- An algorithm that was recognised in a source. -/
structure AlgorithmMatch (α : Type) where
  name : String
  time : GrowthClass
  space : GrowthClass
  cases : CaseSplit
  confidence : α
  evidence : List String
  lines : Option LineRange

namespace CatalogueEntry

variable {α : Type} [Scalar α]

def confidence (entry : CatalogueEntry) : α :=
  OfScientific.ofScientific entry.hundredths true 2

/-- The match of an entry with evidence that meets all of its criteria. -/
def match? (entry : CatalogueEntry) (evidence : Evidence) : Option (AlgorithmMatch α) :=
  if entry.criteria.all fun criterion => criterion.holds evidence then
    let time := entry.time.growth evidence
    some {
      name := entry.name
      time
      space := entry.space.growth evidence
      cases := entry.cases.getD (.uniform time)
      confidence := entry.confidence
      evidence := entry.criteria.map Criterion.tag
      lines := evidence.locate? entry.hints }
  else none

end CatalogueEntry

namespace Catalogue

/-- The entries, in the order in which they are tried. -/
def entries : List CatalogueEntry :=
  [ { name := "Merge Sort"
      time := .fixed .linearithmic
      space := .fixed .linear
      cases := none
      hundredths := 90
      hints := ["merge", "sort"]
      criteria := [.mergeHelper, .midpoint, .multipleCalls, .auxBuffer, .boundsIdentifiers] },
    { name := "Quick Sort"
      time := .fixed .linearithmic
      space := .fixed .log
      cases := some ⟨.linearithmic, .linearithmic, .quadratic⟩
      hundredths := 85
      hints := ["quick", "sort"]
      criteria := [.pivot, .multipleCalls, .swapOrBuffer, .noMergeHelper] },
    { name := "Heap Sort"
      time := .fixed .linearithmic
      space := .fixed .const
      cases := none
      hundredths := 85
      hints := ["heap", "sort"]
      criteria := [.heapify, .heapChildIndex, .swap] },
    { name := "Bubble Sort"
      time := .fixed .quadratic
      space := .fixed .const
      cases := some ⟨.linear, .quadratic, .quadratic⟩
      hundredths := 90
      hints := ["bubble", "sort"]
      criteria := [.nestedLoops, .adjacentComparison, .swap, .noCall] },
    { name := "Insertion Sort"
      time := .fixed .quadratic
      space := .fixed .const
      cases := some ⟨.linear, .quadratic, .quadratic⟩
      hundredths := 85
      hints := ["insertion", "sort"]
      criteria := [.nestedLoops, .insertionKey, .insertionShift, .noCall] },
    { name := "Binary Search"
      time := .fixed .log
      space := .fixed .const
      cases := some ⟨.const, .log, .log⟩
      hundredths := 90
      hints := ["binary", "search", "bisect"]
      criteria := [.midpoint, .midpointUpdate, .boundsIdentifiers, .bisectionDriver,
        .noMergeHelper, .atMostOneCall] },
    { name := "Linear Search"
      time := .fixed .linear
      space := .fixed .const
      cases := some ⟨.const, .linear, .linear⟩
      hundredths := 75
      hints := ["search", "find", "index"]
      criteria := [.singleLoop, .equalityTest, .earlyExit, .noMidpoint, .noCall] },
    { name := "Depth-First Search"
      time := .fixed .linear
      space := .fixed .linear
      cases := none
      hundredths := 80
      hints := ["dfs", "depth"]
      criteria := [.visited, .adjacency, .stackOrCall, .noQueue, .noPriorityQueue] },
    { name := "Breadth-First Search"
      time := .fixed .linear
      space := .fixed .linear
      cases := none
      hundredths := 80
      hints := ["bfs", "breadth"]
      criteria := [.visited, .adjacency, .queue, .noPriorityQueue] },
    { name := "Dijkstra"
      time := .fixed .linearithmic
      space := .fixed .linear
      cases := none
      hundredths := 80
      hints := ["dijkstra", "shortest", "path"]
      criteria := [.priorityQueue, .distances, .adjacency] },
    { name := "Dynamic Programming"
      time := .perLoopLevel
      space := .table
      cases := none
      hundredths := 75
      hints := ["dp", "memo", "fib", "knapsack", "lcs"]
      criteria := [.memoTable, .loopOrCall] },
    { name := "Tree Traversal"
      time := .fixed .linear
      space := .fixed .log
      cases := none
      hundredths := 80
      hints := ["order", "traverse", "visit", "walk", "tree"]
      criteria := [.treeChildren, .someCall] } ]

/-- The split into cases that the catalogue records under a name, if the cases differ. -/
def casesOf? (name : String) : Option CaseSplit :=
  (entries.find? fun entry => entry.name == name).bind CatalogueEntry.cases

variable {α : Type} [Scalar α]

/-- The matches of the catalogue with evidence, in the order of the entries. -/
def matchesOf (evidence : Evidence) : List (AlgorithmMatch α) :=
  entries.filterMap fun entry => entry.match? evidence

def detect (source : NormalizedSource) (root : SyntaxNode α) : List (AlgorithmMatch α) :=
  matchesOf (Evidence.ofSource source root)

end Catalogue

/-- The match of greatest confidence; of several such the first. -/
def AlgorithmMatch.strongest? {α : Type} [Scalar α] :
    List (AlgorithmMatch α) → Option (AlgorithmMatch α)
  | [] => none
  | first :: rest =>
      some (rest.foldl (fun best found =>
        if Scalar.lt best.confidence found.confidence then found else best) first)

end GrowthEstimate
