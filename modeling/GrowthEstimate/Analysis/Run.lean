import GrowthEstimate.Analysis.Context
import GrowthEstimate.Regression.Report
import GrowthEstimate.Settings.Options
import GrowthEstimate.Verdict.Final

/-!
Contract: one analysis, from the source to the report.

Owns: the report, the request, the checks before the first stage, the stages in their order, and
what ends a run early.

The stages are parsing, pattern matching, aggregation, sampling, regression and reconciliation.
Between stages a run asks whether it is cancelled.  What goes wrong inside a stage becomes a
warning of the verdict; only a refused input, refused options and cancellation end a run without
a report.
-/

set_option autoImplicit false

namespace GrowthEstimate

/-! ## Reports -/

structure TreeSummary where
  functions : Nat
  loops : Nat
  maxLoopDepth : Nat
  parse : ParseStats
  deriving DecidableEq, Repr, Inhabited

/-- What a verdict was reached from. -/
structure AnalysisDiagnostics (α : Type) where
  tree : TreeSummary
  structural : StructuralVerdict α
  found : List (AlgorithmMatch α)
  samples : List (CostSample α)
  samplingTruncated : Bool
  /-- The seed of sampling, by which a run can be repeated. -/
  seed : Option Nat
  regression : Option (RegressionReport α)
  change : Option (GrowthChange α)

structure AnalysisReport (α : Type) where
  verdict : FinalVerdict α
  diagnostics : AnalysisDiagnostics α

/-! ## Runs -/

/-- What is asked of a run besides the source. -/
structure AnalysisRequest (α : Type) where
  options : AnalysisOptions
  thresholds : Thresholds α
  /-- The cost model, if it is not to be drawn from the seed. -/
  model : Option (CostModel α)
  cancellation : Cancellation
  freshSeed : Nat

namespace AnalysisRequest

variable {α : Type}

/-- The request with standard thresholds, the drawn cost model and nobody who cancels. -/
def ofOptions [Scalar α] (options : AnalysisOptions) : AnalysisRequest α :=
  ⟨options, .standard, none, .never, 0⟩

def seed (request : AnalysisRequest α) : Nat :=
  request.options.seed.getD request.freshSeed

def costModel [Scalar α] (request : AnalysisRequest α) : CostModel α :=
  match request.model with
  | some model => model
  | none => .synthetic (CostModel.drawFactor (RandomStream.ofSeed request.seed.toUInt64))

end AnalysisRequest

namespace Analysis

variable {α : Type} [Scalar α]

/-! ### Checks -/

def byteSize (source : List Char) : Nat :=
  source.foldl (fun size char => size + char.utf8Size) 0

/-- Accepts an input of at most `maxBytes` bytes that is not blank, or any of that size if
blank inputs are allowed. -/
def checkInput (source : List Char) (maxBytes : Nat) (allowEmpty : Bool) :
    Except AnalysisError Unit :=
  let size := byteSize source
  if maxBytes < size then .error (.inputTooLarge size maxBytes)
  else if !allowEmpty && source.all Text.isSpace then .error .emptyInput
  else .ok ()

def checkSettings (options : AnalysisOptions) (thresholds : Thresholds α) :
    Except AnalysisError Unit :=
  match options.fault? with
  | some fault => .error (.configuration fault.message)
  | none =>
      match thresholds.fault? with
      | some fault => .error (.configuration fault.message)
      | none => .ok ()

def checkRequest (request : AnalysisRequest α) (source : List Char) : Except AnalysisError Unit :=
  match checkSettings request.options request.thresholds with
  | .error error => .error error
  | .ok () => checkInput source request.options.maxInputBytes true

def checkpoint (request : AnalysisRequest α) (next : AnalysisPhase) : Course Unit :=
  if request.cancellation.before next then .fail (.cancelled next.name) else .succeed ()

/-! ### Measuring -/

/-- What sampling and regression gave. -/
structure Measured (α : Type) where
  samples : List (CostSample α)
  truncated : Bool
  seed : Option Nat
  regression : Option (RegressionReport α)
  change : Option (GrowthChange α)
  failed : Bool
  warnings : List String

namespace Measured

def skipped {α : Type} : Measured α :=
  ⟨[], false, none, none, none, false, []⟩

def tooFew {α : Type} (seed collected : Nat) : Measured α :=
  ⟨[], false, some seed, none, none, true,
    ["Sampling collected " ++ toString collected ++ " of the " ++ toString CostSample.fewest
      ++ " samples needed; no measured estimate"]⟩

def measurement {α : Type} (measured : Measured α) : Measurement α :=
  match measured.regression with
  | some report => .measured report
  | none => if measured.failed then .failed else .skipped

end Measured

def truncationWarnings (options : AnalysisOptions) (outcome : SamplingOutcome α) : List String :=
  if outcome.truncated then
    ["Sampling hit the " ++ toString options.ceilingMs ++ " ms ceiling; fitted "
      ++ toString outcome.samples.length ++ " of " ++ toString options.sampleSizes.length
      ++ " sizes"]
  else []

def changeWarnings (change : GrowthChange α) : List String :=
  match change.hasChange, change.before, change.after with
  | true, some before, some after =>
      ["Measured growth shifts from " ++ before.growth.notationText ++ " to "
        ++ after.growth.notationText ++ " around size " ++ toString (change.point.getD 0)]
  | _, _, _ => []

def regressionError (collected : Nat) : AnalysisError :=
  .withContext "fitting sampled costs" (.insufficientSamples collected CostSample.fewest)

def fitSamples (request : AnalysisRequest α) (outcome : SamplingOutcome α) :
    Course (Measured α) := do
  let (report, change) ← Course.inPhase .regression (
    match RegressionReport.ofSamples outcome.samples with
    | .error collected => .fail (regressionError collected)
    | .ok report => .succeed (report, GrowthChange.ofSamples outcome.samples))
  return {
    samples := outcome.samples
    truncated := outcome.truncated
    seed := some request.seed
    regression := some report
    change := some change
    failed := false
    warnings := truncationWarnings request.options outcome ++ changeWarnings change }

def measure (request : AnalysisRequest α) (structural : StructuralVerdict α) :
    Course (Measured α) := do
  let outcome ← Course.inPhase .sampling (.succeed
    (Sampling.sample request.costModel (.ofVerdict structural) request.seed.toUInt64
      request.options.sampleSizes))
  match outcome with
  | .error collected => return .tooFew request.seed collected
  | .ok outcome =>
      checkpoint request .regression
      fitSamples request outcome

def measureIfEnabled (request : AnalysisRequest α) (structural : StructuralVerdict α) :
    Course (Measured α) :=
  if request.options.enableSampling then do
    checkpoint request .sampling
    measure request structural
  else .succeed .skipped

/-! ### The run -/

def parseWarnings (α : Type) [Scalar α] (stats : ParseStats) : List String :=
  let ratio : α := stats.skipRatio
  (if stats.unbalancedBlocks > 0 then
    [toString stats.unbalancedBlocks
      ++ " block(s) had unbalanced braces; their bodies run to the end of input"]
  else [])
  ++ (if Scalar.lt 0.5 ratio then
        [Scalar.fixedText 0 (ratio * 100.0)
          ++ "% of lines were not recognised; the structural estimate is coarse"]
      else [])

/-- What the stages before measuring found. -/
structure Structured (α : Type) where
  source : NormalizedSource
  parsed : ParsedSource α
  found : List (AlgorithmMatch α)
  verdict : StructuralVerdict α

def Structured.summary {α : Type} (structured : Structured α) : TreeSummary where
  functions := structured.verdict.functionCount
  loops := structured.verdict.loopCount
  maxLoopDepth := structured.parsed.root.loopDepth
  parse := structured.parsed.stats

/-- Parses, matches patterns and aggregates. -/
def structureOf (request : AnalysisRequest α) (text : List Char) : Course (Structured α) := do
  checkpoint request .parsing
  let source := NormalizedSource.ofText text
  let parsed ← Course.inPhase .parsing
    (.succeed (ParsedSource.ofSource Parse.defaultMaxDepth source))
  checkpoint request .patternMatching
  let found ← Course.inPhase .patternMatching (.succeed (Catalogue.detect source parsed.root))
  checkpoint request .aggregation
  let verdict ← Course.inPhase .aggregation
    (.succeed (StructuralVerdict.ofTree request.options.precedence parsed.root found))
  return ⟨source, parsed, found, verdict⟩

def blankReport (request : AnalysisRequest α) (structured : Structured α) : AnalysisReport α where
  verdict :=
    Reconciliation.emptyVerdict request.thresholds request.options.includeCases structured.verdict
  diagnostics :=
    { tree := structured.summary
      structural := structured.verdict
      found := structured.found
      samples := []
      samplingTruncated := false
      seed := none
      regression := none
      change := none }

def fullReport (request : AnalysisRequest α) (structured : Structured α)
    (measured : Measured α) : AnalysisReport α where
  verdict :=
    Reconciliation.verdict request.thresholds request.options.includeCases structured.verdict
      measured.measurement (parseWarnings α structured.parsed.stats ++ measured.warnings)
  diagnostics :=
    { tree := structured.summary
      structural := structured.verdict
      found := structured.found
      samples := measured.samples
      samplingTruncated := measured.truncated
      seed := measured.seed
      regression := measured.regression
      change := measured.change }

/-- The course of a run from its first check on. -/
def stages (request : AnalysisRequest α) (text : List Char) : Course (AnalysisReport α) := do
  Course.inPhase .validation (.ofExcept (checkRequest request text))
  let structured ← structureOf request text
  if structured.source.isBlank then
    Course.recordCompleted
    return blankReport request structured
  else
    let measured ← measureIfEnabled request structured.verdict
    checkpoint request .reconciliation
    let report ← Course.inPhase .reconciliation
      (.succeed (fullReport request structured measured))
    Course.recordCompleted
    return report

def course (request : AnalysisRequest α) (text : List Char) : Course (AnalysisReport α) := do
  Course.recordStarted
  stages request text

def run (request : AnalysisRequest α) (text : List Char) :
    Tracker → Execution (AnalysisReport α) :=
  (course request text).execute

/-- The outcome of an analysis that nothing else was done before. -/
def outcome (request : AnalysisRequest α) (text : List Char) :
    Except AnalysisError (AnalysisReport α) :=
  (run request text .initial).1

end Analysis

end GrowthEstimate
