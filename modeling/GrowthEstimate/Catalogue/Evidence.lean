import GrowthEstimate.Tree.Parse

/-!
Contract: what a source shows of the algorithms in it.

Owns: the signs that are looked for, the pattern or the identifiers behind each, and
the evidence gathered once for a source: its functions, its recursion and loop depth,
and the signs that it shows.

Does **not** own: the names of algorithms, which the catalogue combines signs into.

Signs are looked for in the lower-cased code of the whole source.
-/

set_option autoImplicit false

namespace GrowthEstimate

open Text
open Text.Pattern

/-- Something that a source can show. -/
inductive Sign where
  | mergeHelper
  | midpoint
  | halving
  | auxBuffer
  | boundsIdentifiers
  | adjacentComparison
  | swap
  | pivot
  | heapify
  | heapChildIndex
  | insertionKey
  | insertionShift
  | bisectionLoop
  | midpointUpdate
  | equalitySearch
  /-- Some loop holds a `return` or a `break`. -/
  | earlyExit
  | visited
  | adjacency
  | queue
  | stack
  | priorityQueue
  | distances
  | memoTable
  | tableTwoD
  | treeChildren
  deriving DecidableEq, Repr, Inhabited

namespace Sign

/-- All signs, in the order of their declaration. -/
def all : List Sign :=
  [mergeHelper, midpoint, halving, auxBuffer, boundsIdentifiers, adjacentComparison, swap, pivot,
   heapify, heapChildIndex, insertionKey, insertionShift, bisectionLoop, midpointUpdate,
   equalitySearch, earlyExit, visited, adjacency, queue, stack, priorityQueue, distances,
   memoTable, tableTwoD, treeChildren]

def name : Sign → String
  | mergeHelper => "merge_helper"
  | midpoint => "midpoint"
  | halving => "halving"
  | auxBuffer => "aux_buffer"
  | boundsIdentifiers => "bounds_identifiers"
  | adjacentComparison => "adjacent_comparison"
  | swap => "swap"
  | pivot => "pivot"
  | heapify => "heapify"
  | heapChildIndex => "heap_child_index"
  | insertionKey => "insertion_key"
  | insertionShift => "insertion_shift"
  | bisectionLoop => "bisection_loop"
  | midpointUpdate => "midpoint_update"
  | equalitySearch => "equality_search"
  | earlyExit => "early_exit"
  | visited => "visited"
  | adjacency => "adjacency"
  | queue => "queue"
  | stack => "stack"
  | priorityQueue => "priority_queue"
  | distances => "distances"
  | memoTable => "memo_table"
  | tableTwoD => "table_2d"
  | treeChildren => "tree_children"

/-! ## Patterns -/

/-- A call of a function whose name begins with `merge`. -/
def mergeCall : Pattern :=
  chain [.wordEdge, .keep 1 (chain ["merge", wordRest]), blanks, "("]

def appendCall : Pattern :=
  chain [
    ".", oneOf ["append", "push", "push_back", "extend", "add", "concat"], blanks, "("]

def indexedBy (slot : Nat) : Pattern :=
  chain ["[", blanks, .keep slot word, blanks, "]"]

/-- A comparison of two values, with equality or without. -/
def orderComparison : Pattern :=
  chain [.one (among "<>"), maybe "="]

def comparedWithNext : Pattern :=
  chain [
    indexedBy 1, blanks, orderComparison, blanks, word,
    "[", blanks, .keep 2 word, blanks, "+", blanks, "1", blanks, "]"]

def comparedWithPrevious : Pattern :=
  chain [
    "[", blanks, .keep 1 word, blanks, "-", blanks, "1", blanks, "]", blanks,
    orderComparison, blanks, word, indexedBy 2]

/-- An element of a collection, at any index. -/
def element : Pattern :=
  chain [word, "[", oneOrMore (except "]"), "]"]

/-- Two elements, with a comma between them. -/
def elementPair : Pattern :=
  chain [element, blanks, ",", blanks, element]

def swapPattern : Pattern :=
  oneOf [
    chain [elementPair, blanks, "=", blanks, elementPair],
    chain ["[", blanks, elementPair, blanks, "]", blanks, "="],
    chain [.wordEdge, "swap", blanks, "("],
    chain [".swap", blanks, "("],
    chain [.wordEdge, oneOf ["temp", "tmp", "t"], blanks, "=", blanks, word, "["]]

def heapifyCall : Pattern :=
  oneOf [
    chain [wordRest, "heapify", wordRest, blanks, "("],
    chain [.wordEdge, "sift", maybe "_", "down", blanks, "("],
    chain [.wordEdge, "sink", blanks, "("]]

def heapChild : Pattern :=
  oneOf [
    chain ["2", blanks, "*", blanks, word, blanks, "+", blanks, .one (among "12"), .wordEdge],
    chain [
      .wordEdge, word, blanks, "*", blanks, "2", blanks, "+", blanks, .one (among "12"),
      .wordEdge],
    chain ["<<", blanks, "1", blanks, maybe ")", blanks, "+", blanks, "1"]]

def keyElement : Pattern :=
  chain [
    .wordEdge,
    oneOf ["key", "current", "cur", "val", "value", "item", "elem", "x"],
    blanks, "=", blanks, word, "[", blanks, word, blanks, "]"]

def shiftedElement : Pattern :=
  chain [
    word, "[", blanks, .keep 1 word, blanks, "+", blanks, "1", blanks, "]", blanks, "=", blanks,
    word, indexedBy 2]

def boundUpdate : Pattern :=
  chain [
    .wordEdge,
    oneOf ["lo", "low", "left", "l", "start", "begin", "hi", "high", "right", "r", "end"],
    blanks, "=", blanks, "mid", wordRest, blanks,
    oneOf [chain [.one (among "+-"), blanks, "1", .wordEdge], ";", .finish]]

def equalitySigns : Pattern :=
  chain ["==", maybe "="]

def equalityTest : Pattern :=
  oneOf [
    chain [
      equalitySigns, blanks,
      oneOf ["target", "key", "needle", "value", "val", "item", "x", "elem", "query",
        chain ["search", wordRest]],
      .wordEdge],
    chain [.wordEdge, oneOf ["target", "key", "needle", "query"], blanks, equalitySigns],
    chain ["[", blanks, word, blanks, "]", blanks, equalitySigns, blanks, word]]

def memoAccess : Pattern :=
  oneOf [
    chain [.wordEdge, oneOf ["dp", "memo", "cache", "table"], wordRest, blanks, "["],
    chain [.wordEdge, "in", gap, "memo", .wordEdge],
    chain ["@", maybe "functools.", maybe "lru_", "cache", .wordEdge],
    chain [
      .wordEdge, "memo", wordRest, ".", oneOf ["get", "contains_key", "has", "contains"], blanks,
      "("]]

def twoDimensionalAccess : Pattern :=
  chain [
    .wordEdge, oneOf ["dp", "memo", "table"], wordRest, blanks,
    "[", zeroOrMore (except "]"), "]", blanks, "["]

def childLink (child : String) : Pattern :=
  chain [oneOf [".", "->"], child, .wordEdge]

/-- A call that takes the first item of a collection. -/
def takeFrontCall : Pattern :=
  oneOf [
    chain [".shift", blanks, "(", blanks, ")"],
    chain [".pop", blanks, "(", blanks, "0", blanks, ")"]]

/-- Whether some occurrence keeps the same text under its first two slots. -/
def sameIndexIn (pattern : Pattern) (text : List Char) : Bool :=
  (pattern.findAll text).any Statement.sameInBothSlots

end Sign

/-! ## Evidence -/

structure FunctionSpan where
  name : List Char
  lines : LineRange
  recursiveCalls : Nat
  loopDepth : Nat
  deriving DecidableEq, Repr, Inhabited

structure Evidence where
  functions : List FunctionSpan
  maxRecursiveCalls : Nat
  loopDepth : Nat
  signs : List Sign
  deriving DecidableEq, Repr, Inhabited

namespace Evidence

variable {α : Type}

/-- What is looked at for signs: the nodes of the tree, the lower-cased lines and their
text, and the identifiers in it. -/
structure View (α : Type) where
  source : NormalizedSource
  nodes : List (SyntaxNode α)
  lines : List (List Char)
  text : List Char
  identifiers : List (List Char)

namespace View

def of (source : NormalizedSource) (root : SyntaxNode α) : View α :=
  let lines := source.lines.map CodeLine.lowered
  let text := joinLines lines
  ⟨source, root.walk, lines, text, NormalizedSource.identifiersIn text⟩

def hasAny (view : View α) (identifiers : List String) : Bool :=
  identifiers.any fun identifier => view.identifiers.contains identifier.toList

def has (view : View α) (identifier : String) : Bool :=
  view.identifiers.contains identifier.toList

/-- Whether a loop has a `return` or a `break` among the lines below its header. -/
def leavesEarly (view : View α) (node : SyntaxNode α) : Bool :=
  let words := nameTokens (view.source.loweredRange node.lines.first (node.lines.last - 1))
  words.contains "return".toList || words.contains "break".toList

def shows (view : View α) : Sign → Bool
  | .mergeHelper =>
      ((Sign.mergeCall.findAll view.text).filterMap fun site => site.slot? 1).any fun name =>
        !contains "sort".toList name
  | .midpoint => view.lines.any Statement.hasMidpoint
  | .halving => Recursion.hasHalving view.text
  | .auxBuffer =>
      view.nodes.any (fun node => node.facts.container.isSome)
        || Sign.appendCall.occursIn view.text
  | .boundsIdentifiers =>
      (view.has "left" && view.has "right") || (view.has "low" && view.has "high")
        || (view.has "lo" && view.has "hi") || view.has "mid"
  | .adjacentComparison =>
      Sign.sameIndexIn Sign.comparedWithNext view.text
        || Sign.sameIndexIn Sign.comparedWithPrevious view.text
  | .swap => Sign.swapPattern.occursIn view.text
  | .pivot => view.has "pivot" || contains "partition(".toList view.text
  | .heapify => Sign.heapifyCall.occursIn view.text
  | .heapChildIndex => Sign.heapChild.occursIn view.text
  | .insertionKey => Sign.keyElement.occursIn view.text
  | .insertionShift => Sign.sameIndexIn Sign.shiftedElement view.text
  | .bisectionLoop => view.lines.any Statement.isBisectionHeader
  | .midpointUpdate => view.lines.any Sign.boundUpdate.occursIn
  | .equalitySearch => Sign.equalityTest.occursIn view.text
  | .earlyExit => view.nodes.any fun node => node.kind == .loop && view.leavesEarly node
  | .visited => view.hasAny ["visited", "seen", "marked", "explored", "discovered"]
  | .adjacency =>
      view.hasAny ["graph", "adj", "adjacency", "adj_list", "adjlist", "neighbors", "neighbours",
        "edges"]
  | .queue =>
      view.hasAny ["queue", "deque", "popleft", "pop_front", "vecdeque", "arraydeque"]
        || Sign.takeFrontCall.occursIn view.text
  | .stack => view.has "stack"
  | .priorityQueue =>
      view.hasAny ["heapq", "heappush", "heappop", "priorityqueue", "priority_queue",
        "binaryheap", "min_heap", "minheap", "pq"]
  | .distances => view.hasAny ["dist", "distance", "distances", "dists"]
  | .memoTable => Sign.memoAccess.occursIn view.text
  | .tableTwoD =>
      Sign.twoDimensionalAccess.occursIn view.text
        || view.nodes.any (fun node => node.facts.container == some .matrix)
  | .treeChildren =>
      (Sign.childLink "left").occursIn view.text && (Sign.childLink "right").occursIn view.text

end View

def functionSpans (nodes : List (SyntaxNode α)) : List FunctionSpan :=
  (nodes.filter fun node => node.kind == .function).map fun node =>
    ⟨node.name.getD [], node.lines, node.facts.recursiveCalls, node.loopDepth⟩

def ofSource (source : NormalizedSource) (root : SyntaxNode α) : Evidence :=
  let view := View.of source root
  let functions := functionSpans view.nodes
  { functions
    maxRecursiveCalls := (functions.map FunctionSpan.recursiveCalls).foldl max 0
    loopDepth := root.loopDepth
    signs := Sign.all.filter view.shows }

def shows (evidence : Evidence) (sign : Sign) : Bool :=
  evidence.signs.contains sign

/-- The lines of the first function whose name holds one of the hints, or else of the
first function. -/
def locate? (evidence : Evidence) (hints : List String) : Option LineRange :=
  let hinted := evidence.functions.find? fun span =>
    hints.any fun hint => contains hint.toList (lower span.name)
  (hinted.or evidence.functions.head?).map FunctionSpan.lines

end Evidence

end GrowthEstimate
