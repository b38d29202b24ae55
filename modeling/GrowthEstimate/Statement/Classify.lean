import GrowthEstimate.Text.Pattern
import GrowthEstimate.Tree.Node

/-!
Contract: what kind of statement a line of code is, and what it says about costs.

Owns: the patterns of declarations, loops, conditionals, assignments, calls and returns, and the
order in which they are asked; what a declaration allocates and what a single line costs; how
often a loop runs, as far as its header and body show it.
-/

set_option autoImplicit false

namespace GrowthEstimate

/-! ## Kinds of statements

The first rule that applies decides: function declaration, loop, conditional,
variable, call, return.  A line that no rule accepts has no kind. -/

namespace Statement

open Text
open Text.Pattern

def wordOr (others : String) : Char → Bool :=
  fun char => isWord char || among others char

/-- Words that control the flow of a program and are never names. -/
def controlWords : List String :=
  ["if", "else", "for", "while", "switch", "match", "return", "catch", "do", "loop", "elif",
   "sizeof", "new", "delete", "throw", "case", "print", "println", "assert", "await", "yield",
   "raise", "not", "and", "or", "in", "del", "lambda", "echo", "puts"]

def isControlWord (word : List Char) : Bool :=
  controlWords.any fun control => control.toList == word

/-! ### Patterns -/

/-- A declaration opened by a keyword, such as `pub fn solve` or `def merge_sort`. -/
def keywordFunction : Pattern :=
  chain [
    .start,
    maybe (chain ["pub", maybe (chain ["(", zeroOrMore (except ")"), ")"]), gap]),
    maybe (chain ["export", gap]),
    maybe (chain ["async", gap]),
    maybe (chain ["unsafe", gap]),
    maybe (chain ["const", gap]),
    oneOf ["fn", "def", "function", "func"],
    gap,
    .keep 1 identifier]

/-- A declaration of type and name, such as `static int* build(vector<int>& v)`. -/
def typedFunction : Pattern :=
  chain [
    .start,
    .rounds (chain [
      oneOf ["static", "inline", "public", "private", "protected", "virtual", "final",
        "synchronized", "override", "extern"],
      gap]),
    .one isAsciiNameStart,
    zeroOrMore (wordOr ":<>,[]"),
    oneOf [chain [blanks, oneOrMore (among "*&"), blanks], gap],
    .keep 1 identifier,
    blanks, "(", zeroOrMore (except ";"), ")", blanks,
    maybe (chain ["const", blanks]),
    maybe (chain ["throws", gap, oneOrMore fun char => isWord char || char == ',' || isSpace char]),
    maybe "\x7b",
    blanks,
    .finish]

/-- A named arrow function, such as `const fib = (n) =>`. -/
def arrowFunction : Pattern :=
  chain [
    .start,
    maybe (chain ["export", gap]),
    oneOf ["const", "let", "var"],
    gap,
    .keep 1 identifier,
    blanks, "=", blanks,
    maybe (chain ["async", blanks]),
    oneOf [chain ["(", zeroOrMore (except ")"), ")"], identifier],
    blanks, "=>"]

/-- A closing brace that may stand before a loop or a conditional. -/
def closingBrace : Pattern :=
  maybe (chain ["\x7d", blanks])

def loopOpening : Pattern :=
  chain [.start, closingBrace, .keep 1 (oneOf ["for", "while", "loop", "do"]), .wordEdge]

def conditionalOpening : Pattern :=
  chain [
    .start, closingBrace, maybe (chain ["else", gap]),
    .keep 1 (oneOf ["if", "elif", "switch", "match"]), .wordEdge]

/-- The type arguments of a container, up to the last closing angle bracket. -/
def typeArguments : Pattern :=
  chain [blanks, "<", zeroOrMore (except "\n"), ">"]

def declaration : Pattern :=
  chain [
    .start,
    oneOf [
      chain ["let", gap, maybe (chain ["mut", gap])],
      chain ["var", gap],
      chain ["const", gap],
      chain ["auto", blanks, maybe (.one (among "&*")), gap],
      chain [
        maybe (chain ["unsigned", gap]),
        oneOf ["int", "long", "short", "float", "double", "char", "bool", "boolean", "size_t",
          "usize", "String", "string"],
        blanks, maybe (.one (among "*&")), gap],
      chain [
        maybe "std::",
        oneOf ["vector", "map", "unordered_map", "set", "unordered_set", "deque", "queue",
          "stack", "list", "priority_queue", "pair"],
        typeArguments, blanks, maybe (.one (among "&*")), blanks],
      chain [
        oneOf ["List", "ArrayList", "Map", "HashMap", "Set", "HashSet", "Deque", "ArrayDeque",
          "Queue"],
        typeArguments, gap]],
    .keep 1 identifier]

/-- An assignment to a name, with a type annotation or not. -/
def assignment : Pattern :=
  chain [
    .start, .keep 1 identifier, blanks,
    maybe (chain [":", blanks, oneOrMore (wordOr "[], .")]),
    blanks, "=", blanks, .one (except "=")]

def callSite : Pattern :=
  chain [.keep 1 identifier, blanks, "("]

def returnOpening : Pattern :=
  chain [.start, "return", .wordEdge]

/-! ### Classification -/

/-- A statement: its kind and the name that belongs to it. -/
structure Classified where
  kind : NodeKind
  name : Option (List Char)
  deriving DecidableEq, Repr

/-- Whether the line closes a `do` block with its condition. -/
def closesDoWhile (code : List Char) : Bool :=
  opensWith ['}'] code && contains "while".toList code && closesWith [';'] code

/-- The function that a declaration of type and name declares.  A line with an equals
sign or with a control word in either place declares none. -/
def typedFunctionName? (code : List Char) : Option (List Char) :=
  match typedFunction.capture? 1 code with
  | none => none
  | some name =>
      if isControlWord name || isControlWord (code.takeWhile isNameChar) || code.contains '=' then
        none
      else some name

def functionName? (line : List Char) : Option (List Char) :=
  let code := trim line
  match keywordFunction.capture? 1 code with
  | some name => some name
  | none =>
      match arrowFunction.capture? 1 code with
      | some name => some name
      | none => typedFunctionName? code

def variableName? (code : List Char) : Option (List Char) :=
  match declaration.capture? 1 code with
  | some name => some name
  | none =>
      match assignment.capture? 1 code with
      | none => none
      | some name => if isControlWord name then none else some name

def callName? (code : List Char) : Option (List Char) :=
  ((callSite.findAll code).filterMap fun site => site.slot? 1).find? fun name =>
    !isControlWord name

def classify (line : List Char) : Option Classified :=
  let code := trim line
  if code.isEmpty || closesDoWhile code then none
  else
    match functionName? code with
    | some name => some ⟨.function, some name⟩
    | none =>
    match loopOpening.find? code with
    | some found => some ⟨.loop, found.slot? 1⟩
    | none =>
    match conditionalOpening.find? code with
    | some found => some ⟨.conditional, found.slot? 1⟩
    | none =>
    match variableName? code with
    | some name => some ⟨.binding, some name⟩
    | none =>
    match callName? code with
    | some name => some ⟨.call, some name⟩
    | none => if returnOpening.occursIn code then some ⟨.returning, none⟩ else none

/-! ## Containers and costly lines

Looked for are matrices, maps, sets and sequences, adapters and comprehensions that walk a
collection within one line, and library sorts. -/

/-- The end of a declaration: an equals sign or a semicolon. -/
def declarationEnd : Pattern :=
  oneOf ["=", ";"]

def bracketed : Pattern :=
  chain ["[", zeroOrMore (except "]"), "]"]

def matrixPattern : Pattern :=
  oneOf [
    chain ["[", blanks, "["],
    chain ["vec![", blanks, "vec!"],
    chain ["vector", blanks, "<", blanks, "vector"],
    chain ["]", blanks, bracketed, blanks, declarationEnd],
    chain [word, "[][]"]]

def mapPattern : Pattern :=
  oneOf [
    "HashMap",
    "BTreeMap",
    "unordered_map",
    chain [.wordEdge, "map", blanks, "<"],
    chain [.wordEdge, "Map", blanks, "<"],
    chain [.wordEdge, "dict", blanks, "("],
    chain ["=", blanks, "\x7b", blanks, "\x7d"],
    "defaultdict",
    chain ["new", gap, "Map", .wordEdge],
    "Counter("]

def setPattern : Pattern :=
  oneOf [
    "HashSet",
    "BTreeSet",
    "unordered_set",
    chain [.wordEdge, "set", blanks, "<"],
    chain [.wordEdge, "Set", blanks, "<"],
    chain [.wordEdge, "set", blanks, "("],
    chain ["new", gap, "Set", .wordEdge]]

def sequencePattern : Pattern :=
  oneOf [
    "vec!",
    "Vec::",
    "Vec<",
    chain [.wordEdge, "vector", blanks, "<"],
    "ArrayList",
    "LinkedList",
    "VecDeque",
    chain [.wordEdge, "deque", blanks, .one (among "<(")],
    chain [.wordEdge, "list", blanks, "("],
    chain ["=", blanks, "["],
    chain ["new", gap, word, blanks, "["],
    chain ["new", gap, "Array"],
    ".to_vec()",
    chain [".collect", .wordEdge],
    chain [.wordEdge, word, "[", blanks, wordRest, blanks, ":", blanks, wordRest, blanks, "]"],
    chain ["[", blanks, wordRest, blanks, "..", blanks, wordRest, blanks, "].to"],
    chain [
      .start, oneOrMore (wordOr ":<>"), gap, word, blanks, bracketed, blanks, declarationEnd],
    ".copy()",
    ".slice("]

def containerKind? (code : List Char) : Option ContainerKind :=
  if matrixPattern.occursIn code then some .matrix
  else if mapPattern.occursIn code then some .map
  else if setPattern.occursIn code then some .set
  else if sequencePattern.occursIn code then some .sequence
  else none

/-- A comprehension, or an adapter that goes over a whole collection. -/
def inlineIterationPattern : Pattern :=
  oneOf [
    chain [
      "[", zeroOrMore (except "]"), .wordEdge, "for", .wordEdge, zeroOrMore (except "]"),
      .wordEdge, "in", .wordEdge],
    chain [
      ".", oneOf ["map", "filter", "for_each", "forEach", "reduce", "fold"], blanks, "("]]

def hasInlineIteration (code : List Char) : Bool :=
  inlineIterationPattern.occursIn code

def sortCallPattern : Pattern :=
  oneOf [
    chain [".sort", maybe "_unstable", maybe (chain ["_by", maybe "_key"]), blanks, "("],
    chain [.wordEdge, "sorted", blanks, "("],
    chain [.wordEdge, "sort", blanks, "("],
    "Arrays.sort",
    "Collections.sort",
    chain ["qsort", blanks, "("]]

def libraryGrowth? (code : List Char) : Option GrowthClass :=
  if sortCallPattern.occursIn code then some .linearithmic else none

/-! ## Loops

Known of a loop are its kind, its variable and its iteration pattern, from the signs of halving, of
midpoints and of bisection. -/

/-! ### The kind and the variable of a loop -/

def forEachPattern : Pattern :=
  chain [
    .start, "for", blanks, maybe "(", blanks,
    maybe (chain [
      oneOf ["const", "let", "var", "auto", "final"], blanks, maybe (.one (among "&*")), blanks]),
    .run (fun char => wordOr "&*,()" char || isSpace char) false,
    .wordEdge, word, blanks,
    oneOf [
      chain [.wordEdge, "in", .wordEdge],
      chain [.wordEdge, "of", .wordEdge],
      chain [":", .one (except ":")]]]

/-- A range of numbers, or a condition between two semicolons that compares. -/
def countingPattern : Pattern :=
  oneOf [
    chain [
      .wordEdge, "in", gap,
      oneOf [
        chain ["range", blanks, "("],
        chain [maybe "(", blanks, oneOrMore (wordOr "."), blanks, ".."]]],
    chain [
      ";", zeroOrMore (except ";"), oneOf ["<", ">", "!="], zeroOrMore (except ";"), ";"]]

def headerCore (header : List Char) : List Char :=
  trimStart ((trim header).dropWhile (· == '}'))

/-- Fragments of a header that sets no bound. -/
def unboundedFragments : List String :=
  ["while (true)", "while true", "while(true)", "while True", "while 1"]

def loopKind (line : List Char) : LoopKind :=
  let header := headerCore line
  if opensWith "loop".toList header
      || unboundedFragments.any (fun fragment => contains fragment.toList header) then .unbounded
  else if opensWith "do".toList header then .doWhile
  else if opensWith "while".toList header then .whileLoop
  else if countingPattern.occursIn header then .counting
  else if forEachPattern.occursIn header then .forEach
  else .counting

/-- The name after the word `for` and the words of a declaration. -/
def loopVariablePattern : Pattern :=
  chain [
    .start, "for", blanks, maybe "(", blanks,
    .rounds (chain [
      oneOf ["int", "let", "var", "auto", "size_t", "long", "mut", "const"],
      blanks, maybe (.one (among "&*")), gap]),
    maybe (chain ["mut", gap]),
    .keep 1 identifier]

/-- The variable of a loop, if its header names one. -/
def loopVariable? (line : List Char) : Option (List Char) :=
  match loopVariablePattern.capture? 1 (headerCore line) with
  | none => none
  | some name => if isControlWord name then none else some name

/-! ### Halving and bisection -/

/-- The literals one and two, as whole words. -/
def oneOrTwo : Pattern :=
  chain [.one (among "12"), .wordEdge]

/-- A variable that is halved or doubled by an assigning operator. -/
def compoundHalving : Pattern :=
  chain [
    .wordEdge, .keep 1 word, blanks, oneOf ["/=", ">>=", "*=", "<<=", "//="], blanks, oneOrTwo]

def assignedHalving : Pattern :=
  chain [
    .wordEdge, .keep 1 word, blanks, "=", blanks, .keep 2 word, blanks,
    oneOf ["/", ">>", "*", "//", "<<"], blanks, oneOrTwo]

/-- Whether an occurrence keeps the same text under its first two slots. -/
def sameInBothSlots (found : Occurrence) : Bool :=
  found.slot? 1 == found.slot? 2

def halvedVariable? (code : List Char) : Option (List Char) :=
  match compoundHalving.find? code with
  | some found => found.slot? 1
  | none =>
      match (assignedHalving.findAll code).find? sameInBothSlots with
      | some found => found.slot? 1
      | none => none

/-- A division by two: by a slash, by two of them, or by a shift. -/
def dividedByTwo : Pattern :=
  oneOf [chain ["/", blanks, "2"], chain ["//", blanks, "2"], chain [">>", blanks, "1"]]

def midpointName : Pattern :=
  chain [.wordEdge, oneOf [chain ["mid", wordRest], "middle", chain ["half", wordRest], "m"]]

def midpointPattern : Pattern :=
  chain [midpointName, blanks, "=", blanks, zeroOrMore (except ";"), dividedByTwo]

def hasMidpoint (code : List Char) : Bool :=
  midpointPattern.occursIn code

def boundsCondition : Pattern :=
  chain [
    .wordEdge, oneOf ["left", "low", "lo", "l", "start", "begin", "first"], blanks,
    oneOf ["<", "<="], blanks,
    oneOf ["right", "high", "hi", "r", "end", "last"], .wordEdge]

def isBisectionHeader (code : List Char) : Bool :=
  contains "while".toList code && boundsCondition.occursIn code

/-! ### Iteration patterns -/

def squareBound : Pattern :=
  chain [
    .wordEdge, .keep 1 word, blanks, "*", blanks, .keep 2 word, blanks, "<", maybe "=", blanks,
    word]

def productBound : Pattern :=
  oneOf [
    chain [
      oneOf ["<", "<=", chain ["range", blanks, "("]], blanks,
      maybe (chain [word, blanks, ",", blanks]), word, blanks,
      oneOf [
        chain ["*", blanks, word], chain ["**", blanks, "2"], chain ["^", blanks, "2"]]],
    chain ["..", maybe "=", blanks, word, blanks, "*", blanks, word]]

def digits : Pattern :=
  oneOrMore isDecimalDigit

def literalBound : Pattern :=
  oneOf [
    chain ["range", blanks, "(", blanks, digits, blanks, ")"],
    chain ["range", blanks, "(", blanks, digits, blanks, ",", blanks, digits, blanks, ")"],
    chain [
      .wordEdge, "in", gap, maybe "(", digits, blanks, "..", maybe "=", blanks, digits,
      maybe ")", blanks, maybe "\x7b", blanks, .finish],
    chain [
      ";", blanks, word, blanks, oneOf ["<", "<=", ">", ">=", "!="], blanks, digits, blanks, ";"]]

def mentions (code name : List Char) : Bool :=
  (nameTokens code).contains name

/-- The condition of a header: its second part between semicolons, or else what it goes
over. -/
def loopCondition (header : List Char) : List Char :=
  match secondPiece? [';'] header with
  | some condition => condition
  | none => (secondPiece? " in ".toList header).getD []

/-- Whether the condition of a header mentions a variable of an enclosing loop other
than the loop's own. -/
def dependsOnOuter (header : List Char) (outer : List (List Char)) : Bool :=
  outer.any fun name =>
    some name != loopVariable? header && mentions (loopCondition header) name

/-- Whether a `while` header is a halving loop for its body: the body halves a variable
of the header, or the header compares bounds and the body computes a midpoint. -/
def halvesInBody (header : List Char) (body : List (List Char)) : Bool :=
  contains "while".toList header
    && ((body.filterMap halvedVariable?).any (mentions header)
      || (boundsCondition.occursIn header && body.any hasMidpoint))

/-- The iteration pattern of a loop with this header and these lines of code in its
body, inside loops with the variables `outer`. -/
def iterationPattern (line : List Char) (body outer : List (List Char)) : IterationPattern :=
  let header := trim line
  if (halvedVariable? header).isSome then .halving
  else if halvesInBody header body then .halving
  else if (squareBound.find? header).any sameInBothSlots then .squareRoot
  else if productBound.occursIn header then .quadraticBound
  else if literalBound.occursIn header then .constant
  else if dependsOnOuter header outer then .dependentIndex
  else .linear

end Statement

end GrowthEstimate
