import GrowthEstimate.Analysis.Run
import GrowthEstimate.Growth.Class
import GrowthEstimate.Number.Scalar
import GrowthEstimate.Regression.Report
import GrowthEstimate.Sampling.Sampler
import GrowthEstimate.Tree.Parse

/-!
Contract: trees, measurements, verdicts and reports as documents, and the text of a document.

Owns: the document of nested fields and the ways to build one, its JSON text, and the names and
fields of whatever a report consists of.

Does **not** own: command lines and settings as documents (`Document.Invocation`), and reading
JSON.
-/

set_option autoImplicit false

namespace GrowthEstimate

/-! ## Documents

A field without a value is left out of an object; a value that is absent where a field must stand
is null. -/

/-- A document whose real numbers are of type `α`. -/
inductive Document (α : Type) where
  | null
  | bool (value : Bool)
  | count (value : Nat)
  | real (value : α)
  | text (value : String)
  | list (items : List (Document α))
  | object (fields : List (String × Document α))

namespace Document

variable {α β : Type}

def ofChars (value : List Char) : Document α :=
  text (String.ofList value)

def orNull (write : β → Document α) : Option β → Document α
  | some value => write value
  | none => null

def each (write : β → Document α) (items : List β) : Document α :=
  list (items.map write)

/-- A field that is left out if there is no value. -/
def field? (key : String) (write : β → Document α) : Option β → List (String × Document α)
  | some value => [(key, write value)]
  | none => []

def ofClass (growth : GrowthClass) : Document α :=
  text growth.name

end Document

/-! ## Texts of documents

A text is quoted, and lines are indented by two blanks for each level.  A real number always has a
point or an exponent, and one that is undefined or infinite is null. -/

namespace Document

/-! ### Text -/

def hexDigit (value : Nat) : Char :=
  (Nat.toDigits 16 value).headD '0'

/-- A character inside of quotes.  Quotes, backslashes and control characters are
escaped; all else stands for itself. -/
def quotedChar (char : Char) : List Char :=
  match char with
  | '"' => ['\\', '"']
  | '\\' => ['\\', '\\']
  | '\n' => ['\\', 'n']
  | '\r' => ['\\', 'r']
  | '\t' => ['\\', 't']
  | '\x08' => ['\\', 'b']
  | '\x0c' => ['\\', 'f']
  | other =>
      if other.toNat < 32 then
        ['\\', 'u', '0', '0', hexDigit (other.toNat / 16), hexDigit (other.toNat % 16)]
      else [other]

def quoted (value : String) : String :=
  "\"" ++ String.ofList (value.toList.flatMap quotedChar) ++ "\""

/-! ### Layout -/

def newLine (depth : Nat) : String :=
  String.ofList ('\n' :: List.replicate (2 * depth) ' ')

variable {α : Type} [Scalar α]

mutual

/-- The text of a document whose first line stands at a depth already. -/
def jsonAt (depth : Nat) : Document α → String
  | null => "null"
  | bool value => if value then "true" else "false"
  | count value => toString value
  | real value => (Scalar.markedText? value).getD "null"
  | text value => quoted value
  | list [] => "[]"
  | list (first :: rest) =>
      "[" ++ newLine (depth + 1) ++ first.jsonAt (depth + 1) ++ itemsAt (depth + 1) rest
        ++ newLine depth ++ "]"
  | object [] => "\x7b\x7d"
  | object ((key, first) :: rest) =>
      "\x7b" ++ newLine (depth + 1) ++ quoted key ++ ": " ++ first.jsonAt (depth + 1)
        ++ fieldsAt (depth + 1) rest ++ newLine depth ++ "\x7d"

def itemsAt (depth : Nat) : List (Document α) → String
  | [] => ""
  | item :: rest => "," ++ newLine depth ++ item.jsonAt depth ++ itemsAt depth rest

def fieldsAt (depth : Nat) : List (String × Document α) → String
  | [] => ""
  | (key, value) :: rest =>
      "," ++ newLine depth ++ quoted key ++ ": " ++ value.jsonAt depth ++ fieldsAt depth rest

end

def json (document : Document α) : String :=
  document.jsonAt 0

end Document

/-! ## Trees -/

variable {α : Type}

def NodeKind.name : NodeKind → String
  | program => "program"
  | function => "function"
  | loop => "loop"
  | conditional => "conditional"
  | call => "call"
  | binding => "variable"
  | returning => "return"

def LoopKind.name : LoopKind → String
  | counting => "counting"
  | forEach => "for_each"
  | whileLoop => "while"
  | doWhile => "do_while"
  | unbounded => "unbounded"

def IterationPattern.name : IterationPattern → String
  | constant => "constant"
  | halving => "halving"
  | squareRoot => "square_root"
  | dependentIndex => "dependent_index"
  | quadraticBound => "quadratic_bound"
  | linear => "linear"

def ContainerKind.name : ContainerKind → String
  | sequence => "sequence"
  | map => "map"
  | set => "set"
  | matrix => "matrix"

def RecursionKind.all : List RecursionKind :=
  [divideAndConquer, binaryTree, linear, none]

def RecursionKind.name : RecursionKind → String
  | divideAndConquer => "divide_and_conquer"
  | binaryTree => "binary_tree"
  | linear => "linear"
  | none => "none"

def CommentSyntax.name : CommentSyntax → String
  | hash => "hash"
  | slash => "slash"
  | mixed => "mixed"

def Estimate.document (estimate : Estimate α) : Document α :=
  .object [
    ("time", .ofClass estimate.time),
    ("space", .ofClass estimate.space),
    ("confidence", .real estimate.confidence),
    ("factors", .each .text estimate.factors),
    ("exact", .bool estimate.exact)]

def LineRange.document (range : LineRange) : Document α :=
  .object [("start", .count range.first), ("end", .count range.last)]

def NodeFacts.document (facts : NodeFacts) : Document α :=
  .object (
    Document.field? "loop_kind" (fun kind => .text kind.name) facts.loopKind
    ++ Document.field? "iteration" (fun pattern => .text pattern.name) facts.iteration
    ++ [("is_recursive", .bool facts.isRecursive),
        ("recursive_calls", .count facts.recursiveCalls)]
    ++ Document.field? "container" (fun kind => .text kind.name) facts.container)

mutual

def SyntaxNode.document : SyntaxNode α → Document α
  | .node kind name estimate lines facts children =>
      .object (
        [("kind", .text kind.name)]
        ++ Document.field? "name" .ofChars name
        ++ [("children", .list (documents children)), ("complexity", estimate.document),
            ("lines", lines.document), ("metadata", facts.document)])

def SyntaxNode.documents : List (SyntaxNode α) → List (Document α)
  | [] => []
  | child :: rest => child.document :: documents rest

end

def ParseStats.document (stats : ParseStats) : Document α :=
  .object [
    ("total_lines", .count stats.totalLines),
    ("classified_lines", .count stats.classifiedLines),
    ("skipped_lines", .count stats.skippedLines),
    ("unbalanced_blocks", .count stats.unbalancedBlocks)]

def RecursionShape.document (shape : RecursionShape α) : Document α :=
  .object [
    ("kind", .text shape.kind.name),
    ("time", .ofClass shape.time),
    ("depth", .ofClass shape.depth),
    ("confidence", .real shape.confidence),
    ("sites", .count shape.sites)]

/-! ## Measurements -/

def CaseSplit.document (split : CaseSplit) : Document α :=
  .object [
    ("best", .ofClass split.best),
    ("average", .ofClass split.average),
    ("worst", .ofClass split.worst)]

def AlgorithmMatch.document (found : AlgorithmMatch α) : Document α :=
  .object ([
    ("name", .text found.name),
    ("time", .ofClass found.time),
    ("space", .ofClass found.space),
    ("cases", found.cases.document),
    ("confidence", .real found.confidence),
    ("evidence", .each .text found.evidence)]
    ++ Document.field? "lines" LineRange.document found.lines)

def CodeShape.document (shape : CodeShape) : Document α :=
  .object ([
    ("branching", .bool shape.branching),
    ("early_exit", .bool shape.earlyExit),
    ("unbounded_loop", .bool shape.unboundedLoop),
    ("containers", .bool shape.containers)]
    ++ Document.field? "recursion" (fun kind => .text kind.name) shape.recursion)

def StructuralVerdict.document (verdict : StructuralVerdict α) : Document α :=
  .object ([
    ("time", .ofClass verdict.time),
    ("space", .ofClass verdict.space),
    ("confidence", .real verdict.confidence),
    ("tree_class", .ofClass verdict.treeClass),
    ("function_count", .count verdict.functionCount),
    ("loop_count", .count verdict.loopCount)]
    ++ Document.field? "primary_pattern" .text verdict.primaryPattern
    ++ Document.field? "pattern_class" .ofClass verdict.patternClass
    ++ Document.field? "pattern_confidence" .real verdict.patternConfidence
    ++ [("shape", verdict.shape.document), ("factors", .each .text verdict.factors)])

def CostProfile.document (profile : CostProfile) : Document α :=
  .object [("class", .ofClass profile.growth), ("memory", .text profile.memory.name)]

def CostSample.document (sample : CostSample α) : Document α :=
  .object [
    ("size", .count sample.size),
    ("cost", .real sample.cost),
    ("iterations", .count sample.iterations),
    ("memory_estimate", .real sample.memory)]

def Fit.document (fit : Fit α) : Document α :=
  .object [
    ("class", .ofClass fit.growth),
    ("coefficient", .real fit.coefficient),
    ("r_squared", .real fit.rSquared),
    ("standard_error", .real fit.standardError),
    ("p_value", .real fit.pValue),
    ("residuals", .each .real fit.residuals),
    ("confidence", .real fit.confidence),
    ("composite_score", .real fit.compositeScore),
    ("selectable", .bool fit.selectable)]

def SampleDiagnostics.document (diagnostics : SampleDiagnostics α) : Document α :=
  .object [
    ("variance", .real diagnostics.variance),
    ("outliers", .each .count diagnostics.outliers),
    ("monotonicity", .real diagnostics.monotonicity)]

def RegressionReport.document (report : RegressionReport α) : Document α :=
  .object [
    ("best", .orNull Fit.document report.best),
    ("candidates", .each Fit.document report.candidates),
    ("diagnostics", report.diagnostics.document),
    ("sample_count", .count report.sampleCount),
    ("advisories", .each .text report.advisories)]

def HalfFit.document (half : HalfFit α) : Document α :=
  .object [("class", .ofClass half.growth), ("r_squared", .real half.rSquared)]

def GrowthChange.document (change : GrowthChange α) : Document α :=
  .object (
    [("has_change", .bool change.hasChange)]
    ++ Document.field? "change_point" .count change.point
    ++ Document.field? "before" HalfFit.document change.before
    ++ Document.field? "after" HalfFit.document change.after)

/-! ## Verdicts and reports -/

def VerdictClass.document : VerdictClass → Document α
  | .exact growth => .object [("exact", .ofClass growth)]
  | .range lower upper =>
      .object [("range", .object [("lower", .ofClass lower), ("upper", .ofClass upper)])]

def Validation.document (validation : Validation α) : Document α :=
  .object [
    ("structural_valid", .bool validation.structuralValid),
    ("regression_valid", .bool validation.regressionValid),
    ("cross_valid", .bool validation.crossValid),
    ("reliability", .real validation.reliability)]

def StageConfidence.document (stages : StageConfidence α) : Document α :=
  .object (
    [("structural", .real stages.structural)]
    ++ Document.field? "pattern" .real stages.pattern
    ++ Document.field? "regression" .real stages.regression
    ++ [("combined", .real stages.combined)])

def Opinion.document (opinion : Opinion α) : Document α :=
  .object [
    ("source", .text opinion.source),
    ("time_class", .ofClass opinion.time),
    ("confidence", .real opinion.confidence),
    ("notes", .each .text opinion.notes)]

def FinalVerdict.document (verdict : FinalVerdict α) : Document α :=
  .object ([
    ("time", verdict.time.document),
    ("space", .ofClass verdict.space),
    ("confidence", .real verdict.confidence),
    ("lower_bound", .ofClass verdict.lowerBound),
    ("upper_bound", .ofClass verdict.upperBound),
    ("agreement", .text verdict.agreement.name)]
    ++ Document.field? "range_label" .text verdict.rangeLabel
    ++ Document.field? "cases" CaseSplit.document verdict.cases
    ++ [("recommendations", .each .text verdict.recommendations),
        ("warnings", .each .text verdict.warnings),
        ("validation", verdict.validation.document),
        ("stages", verdict.stages.document)]
    ++ Document.field? "external" Opinion.document verdict.opinion)

def TreeSummary.document (summary : TreeSummary) : Document α :=
  .object [
    ("functions", .count summary.functions),
    ("loops", .count summary.loops),
    ("max_loop_depth", .count summary.maxLoopDepth),
    ("parse", summary.parse.document)]

def AnalysisDiagnostics.document (diagnostics : AnalysisDiagnostics α) : Document α :=
  .object ([
    ("tree", diagnostics.tree.document),
    ("structural", diagnostics.structural.document),
    ("matches", .each AlgorithmMatch.document diagnostics.found),
    ("samples", .each CostSample.document diagnostics.samples),
    ("sampling_truncated", .bool diagnostics.samplingTruncated)]
    ++ Document.field? "seed" .count diagnostics.seed
    ++ Document.field? "regression" RegressionReport.document diagnostics.regression
    ++ Document.field? "changes" GrowthChange.document diagnostics.change)

def AnalysisReport.document (report : AnalysisReport α) : Document α :=
  .object [
    ("verdict", report.verdict.document),
    ("diagnostics", report.diagnostics.document)]

end GrowthEstimate
