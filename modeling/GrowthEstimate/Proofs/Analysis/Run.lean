import GrowthEstimate.Analysis.Run
import GrowthEstimate.Number.Binary64
import GrowthEstimate.Proofs.Analysis.Course
import GrowthEstimate.Proofs.Number.Unit
import GrowthEstimate.Proofs.Regression.Report
import GrowthEstimate.Proofs.Sampling.Schedule
import GrowthEstimate.Proofs.Text.Lines
import GrowthEstimate.Proofs.Verdict.Coherence

/-!
Contract: how a run ends.

Owns: the phases before which a run asks whether it is cancelled and the report that it has if it is
not, both as functions of the request and the text, what a run is refused for, and the end of every
run; the size of a text in bytes, which failure or report a run ends with, and the coherence of the
verdict of a report.

Does **not** own: the tracker that a run leaves behind.
-/

set_option autoImplicit false

namespace GrowthEstimate

/-! ## Checkpoints

A computation is described by the phases it asks before and by the value it has if the
answer is always no.  The phases of two steps follow each other, and the value of a
stage does not depend on the answers, so an answer can only cut a run short. -/

namespace Analysis

variable {α : Type}

theorem checkpoint_asks (request : AnalysisRequest α) (phase : AnalysisPhase) :
    (checkpoint request phase).Asks request.cancellation [phase] () := by
  intro tracker
  unfold checkpoint
  cases isCancelled : request.cancellation.before phase <;>
    simp [List.find?, isCancelled, Course.execute]

/-- What follows a checkpoint asks before the phase of the checkpoint first. -/
theorem after_checkpoint {γ : Type} {request : AnalysisRequest α} {phase : AnalysisPhase}
    {phases : List AnalysisPhase} {next : Unit → Course γ} {result : γ}
    (asksNext : (next ()).Asks request.cancellation phases result) :
    (checkpoint request phase >>= next).Asks request.cancellation (phase :: phases) result :=
  (checkpoint_asks request phase).bind asksNext

variable [Scalar α]

/-! ### Structure -/

/-- What every run finds in a text before it measures. -/
def structured (request : AnalysisRequest α) (text : List Char) : Structured α :=
  let source := NormalizedSource.ofText text
  let parsed := ParsedSource.ofSource Parse.defaultMaxDepth source
  let found := Catalogue.detect source parsed.root
  ⟨source, parsed, found, .ofTree request.options.precedence parsed.root found⟩

theorem structureOf_asks (request : AnalysisRequest α) (text : List Char) :
    (structureOf request text).Asks request.cancellation
      [.parsing, .patternMatching, .aggregation] (structured request text) := by
  unfold structureOf
  refine after_checkpoint (.after_stage ?_)
  refine after_checkpoint (.after_stage ?_)
  refine after_checkpoint (.after_stage ?_)
  exact Course.succeed_asks _

/-! ### Measuring -/

/-- What was sampled is enough to be fitted. -/
theorem ofSamples_ok_of_sample {model : CostModel α} {profile : CostProfile} {seed : UInt64}
    {sizes : List Nat} {outcome : SamplingOutcome α}
    (sampled : Sampling.sample model profile seed sizes = .ok outcome) :
    ∃ report, RegressionReport.ofSamples outcome.samples = .ok report := by
  obtain ⟨enough, rfl⟩ := Sampling.sample_ok sampled
  apply RegressionReport.ofSamples_of_enough
  rw [List.length_map]
  exact enough

/-- Whether a run collects enough samples to fit them. -/
def collectsEnough (request : AnalysisRequest α) : Bool :=
  CostSample.fewest ≤
    request.options.sampleSizes.countP fun size => !request.costModel.stalls size

/-- What a run samples of a text of this structure. -/
def sampled (request : AnalysisRequest α) (structural : StructuralVerdict α) :
    Except Nat (SamplingOutcome α) :=
  Sampling.sample request.costModel (.ofVerdict structural) request.seed.toUInt64
    request.options.sampleSizes

theorem sampled_cases (request : AnalysisRequest α) (structural : StructuralVerdict α) :
    (collectsEnough request = false ∧ ∃ collected, sampled request structural = .error collected)
      ∨ collectsEnough request = true ∧ ∃ outcome, sampled request structural = .ok outcome := by
  simp only [collectsEnough, sampled, Sampling.sample_eq, Sampling.length_keptSizes]
  split
  · next tooFew =>
      left
      exact ⟨by simpa using tooFew, _, rfl⟩
  · next enough =>
      right
      exact ⟨by simpa using enough, _, rfl⟩

/-- What fitting samples gives. -/
def fitted (request : AnalysisRequest α) (outcome : SamplingOutcome α) : Measured α :=
  let change := GrowthChange.ofSamples outcome.samples
  { samples := outcome.samples
    truncated := outcome.truncated
    seed := some request.seed
    regression := (RegressionReport.ofSamples outcome.samples).toOption
    change := some change
    failed := false
    warnings := truncationWarnings request.options outcome ++ changeWarnings change }

/-- What a run measures of a text of this structure. -/
def measuredOf (request : AnalysisRequest α) (structural : StructuralVerdict α) : Measured α :=
  if request.options.enableSampling then
    match sampled request structural with
    | .error collected => .tooFew request.seed collected
    | .ok outcome => fitted request outcome
  else .skipped

/-- The phases of measuring before which a run asks. -/
def measuringPhases (request : AnalysisRequest α) : List AnalysisPhase :=
  if request.options.enableSampling then
    .sampling :: if collectsEnough request then [.regression] else []
  else []

theorem fitSamples_asks {request : AnalysisRequest α} {structural : StructuralVerdict α}
    {outcome : SamplingOutcome α} (enough : sampled request structural = .ok outcome) :
    (fitSamples request outcome).Asks request.cancellation [] (fitted request outcome) := by
  obtain ⟨report, fits⟩ := ofSamples_ok_of_sample enough
  rw [fitSamples, fitted, fits]
  exact .after_stage (Course.succeed_asks _)

theorem measureIfEnabled_asks (request : AnalysisRequest α)
    (structural : StructuralVerdict α) :
    (measureIfEnabled request structural).Asks request.cancellation (measuringPhases request)
      (measuredOf request structural) := by
  unfold measureIfEnabled measuringPhases measuredOf
  by_cases enabled : request.options.enableSampling
  · simp only [enabled, if_true]
    rw [measure, ← sampled]
    rcases sampled_cases request structural with
      ⟨notEnough, collected, tooFew⟩ | ⟨isEnough, outcome, enough⟩
    · rw [notEnough, tooFew]
      exact after_checkpoint (.after_stage (Course.succeed_asks _))
    · rw [isEnough, enough]
      exact after_checkpoint (.after_stage (after_checkpoint (fitSamples_asks enough)))
  · simp only [enabled]
    exact Course.succeed_asks _

/-! ### Runs -/

/-- The phases before which a run that is accepted asks whether it is cancelled. -/
def checkpoints (request : AnalysisRequest α) (text : List Char) : List AnalysisPhase :=
  [.parsing, .patternMatching, .aggregation]
    ++ if (NormalizedSource.ofText text).isBlank then []
      else measuringPhases request ++ [.reconciliation]

/-- The report of a run that is accepted and not cancelled. -/
def reportOf (request : AnalysisRequest α) (text : List Char) : AnalysisReport α :=
  let found := structured request text
  if found.source.isBlank then blankReport request found
  else fullReport request found (measuredOf request found.verdict)

theorem stages_asks {request : AnalysisRequest α} {text : List Char}
    (accepted : checkRequest request text = .ok ()) :
    (stages request text).Asks request.cancellation (checkpoints request text)
      (reportOf request text) := by
  unfold checkpoints stages reportOf
  rw [accepted]
  refine .after_stage ((structureOf_asks request text).bind ?_)
  by_cases blank : (NormalizedSource.ofText text).isBlank
  · simp only [structured, blank, if_true]
    exact .after_silent Course.recordCompleted_asks (Course.succeed_asks _)
  · simp only [structured, blank]
    refine (measureIfEnabled_asks request _).bind (after_checkpoint (.after_stage ?_))
    exact .after_silent Course.recordCompleted_asks (Course.succeed_asks _)

theorem run_asks {request : AnalysisRequest α} {text : List Char}
    (accepted : checkRequest request text = .ok ()) (tracker : Tracker) :
    (run request text tracker).1 =
      match (checkpoints request text).find? request.cancellation.before with
      | some phase => .error (.cancelled phase.name)
      | none => .ok (reportOf request text) :=
  have asks : (course request text).Asks _ _ _ :=
    .after_silent Course.recordStarted_asks (stages_asks accepted)
  asks tracker

theorem run_refused {request : AnalysisRequest α} {text : List Char} {refusal : AnalysisError}
    (refused : checkRequest request text = .error refusal) (tracker : Tracker) :
    (run request text tracker).1 = .error refusal := by
  unfold run course stages
  rw [refused]
  rfl

/-! ### Endings -/

/-- What a run is refused for: options that have a fault, then thresholds that have one,
then a source that is too large. -/
def refusal? (request : AnalysisRequest α) (text : List Char) : Option AnalysisError :=
  let optionsFault := request.options.fault?.map OptionsFault.message
  let thresholdsFault := request.thresholds.fault?.map ThresholdsFault.message
  ((optionsFault.or thresholdsFault).map .configuration).or
    (if request.options.maxInputBytes < byteSize text then
      some (.inputTooLarge (byteSize text) request.options.maxInputBytes)
    else none)

theorem checkRequest_eq (request : AnalysisRequest α) (text : List Char) :
    checkRequest request text =
      match refusal? request text with
      | some refusal => .error refusal
      | none => .ok () := by
  unfold checkRequest checkSettings checkInput refusal?
  cases request.options.fault? with
  | some fault => rfl
  | none =>
      cases request.thresholds.fault? with
      | some fault => rfl
      | none =>
          simp only [Option.map_none, Option.none_or, Bool.not_true, Bool.false_and]
          split <;> rfl

end Analysis

/-! ## Failures and reports -/

namespace Analysis

variable {α : Type} [Scalar α]

/-! ### Checks -/

/-- The size of a text is that of the string of its characters in UTF-8. -/
theorem byteSize_eq (text : List Char) : byteSize text = (String.ofList text).utf8ByteSize := by
  have counted (size : Nat) : text.foldl (fun size char => size + char.utf8Size) size =
      size + (Text.bytes text).length := by
    induction text generalizing size with
    | nil => rfl
    | cons char rest inductionHypothesis =>
        rw [List.foldl_cons, inductionHypothesis, Text.bytes, Text.bytes, List.flatMap_cons,
          List.length_append, String.length_utf8EncodeChar, Nat.add_assoc]
  rw [byteSize, counted, Nat.zero_add, Text.length_bytes]

/-- A request is accepted if neither its options nor its thresholds have a fault and its
source is not too large. -/
theorem checkRequest_eq_ok {request : AnalysisRequest α} {text : List Char} :
    checkRequest request text = .ok () ↔
      request.options.fault? = none ∧ request.thresholds.fault? = none
        ∧ byteSize text ≤ request.options.maxInputBytes := by
  unfold checkRequest checkSettings checkInput
  cases request.options.fault? with
  | some fault => simp
  | none =>
      cases request.thresholds.fault? with
      | some fault => simp
      | none => simp

/-! ### Runs -/

/-- What a run of the text ends with instead of a report. -/
def failure? (request : AnalysisRequest α) (text : List Char) : Option AnalysisError :=
  (refusal? request text).or
    (((checkpoints request text).find? request.cancellation.before).map fun phase =>
      .cancelled phase.name)

theorem run_eq_failure? (request : AnalysisRequest α) (text : List Char) (tracker : Tracker) :
    (run request text tracker).1 =
      match failure? request text with
      | some error => .error error
      | none => .ok (reportOf request text) := by
  have checked := checkRequest_eq request text
  unfold failure?
  cases refused : refusal? request text with
  | some refusal =>
      rw [refused] at checked
      exact run_refused checked tracker
  | none =>
      rw [refused] at checked
      rw [run_asks checked tracker, Option.none_or]
      cases (checkpoints request text).find? request.cancellation.before <;> rfl

/-- A run that ends with a report was accepted, and its report is the one that it would
have without anybody to cancel it. -/
theorem run_ok {request : AnalysisRequest α} {text : List Char} {tracker : Tracker}
    {report : AnalysisReport α} (ok : (run request text tracker).1 = .ok report) :
    checkRequest request text = .ok () ∧ report = reportOf request text := by
  cases checked : checkRequest request text with
  | error refusal =>
      rw [run_refused checked] at ok
      contradiction
  | ok _ =>
      rw [run_asks checked tracker] at ok
      split at ok
      · contradiction
      · exact ⟨rfl, (Except.ok.inj ok).symm⟩

/-- Nothing but a refused request and cancellation keeps a run from its report. -/
theorem run_succeeds {request : AnalysisRequest α} {text : List Char}
    (accepted : checkRequest request text = .ok ())
    (never : ∀ phase, request.cancellation.before phase = false) (tracker : Tracker) :
    ∃ report, (run request text tracker).1 = .ok report := by
  have notCancelled : (checkpoints request text).find? request.cancellation.before = none :=
    List.find?_eq_none.mpr fun phase _ => by simp [never phase]
  have ended := run_asks accepted tracker
  rw [notCancelled] at ended
  exact ⟨reportOf request text, ended⟩

/-! ### Coherence -/

theorem structured_grounded (request : AnalysisRequest α) (text : List Char) :
    (structured request text).verdict.Grounded :=
  StructuralVerdict.ofSource_grounded request.options.precedence Parse.defaultMaxDepth
    (NormalizedSource.ofText text)

theorem report?_measurement {α : Type} (measured : Measured α) :
    measured.measurement.report? = measured.regression := by
  unfold Measured.measurement
  cases measured.regression with
  | none => cases measured.failed <;> rfl
  | some report => rfl

/-- The verdict of every report is coherent with the labels that the report was reached
from. -/
theorem run_coherent {request : AnalysisRequest α} {text : List Char} {tracker : Tracker}
    {report : AnalysisReport α} (ok : (run request text tracker).1 = .ok report) :
    report.verdict.Coherent
      (Reconciliation.labelsOf report.diagnostics.structural report.diagnostics.regression)
      request.thresholds.conflictSteps := by
  obtain ⟨_, isReport⟩ := run_ok ok
  unfold reportOf at isReport
  simp only at isReport
  split_ifs at isReport with blank
  · rw [isReport]
    apply Reconciliation.emptyVerdict_coherent
    exact StructuralVerdict.treeClass_of_blank _ _ blank _
  · let measured := measuredOf request (structured request text).verdict
    have coherent := Reconciliation.verdict_coherent request.thresholds
      request.options.includeCases (structured_grounded request text) measured.measurement
      (parseWarnings α (structured request text).parsed.stats ++ measured.warnings)
    rw [report?_measurement] at coherent
    rw [isReport]
    exact coherent

/-- A linear search, analyzed as it is by default. -/
theorem run_coherent_linearSearch :
    let request : AnalysisRequest ℝ := .ofOptions .standard
    let text := "def find(xs, x):\n  for y in xs:\n    if y == x:\n      return y\n".toList
    ∃ report, (run request text .initial).1 = .ok report ∧
      report.verdict.Coherent
        (Reconciliation.labelsOf report.diagnostics.structural report.diagnostics.regression)
        request.thresholds.conflictSteps := by
  intro request text
  have accepted : checkRequest request text = .ok () :=
    checkRequest_eq_ok.mpr ⟨by decide, Thresholds.standard_fault?, by decide⟩
  obtain ⟨report, ok⟩ := run_succeeds accepted (fun _ => rfl) .initial
  exact ⟨report, ok, run_coherent ok⟩

end Analysis

end GrowthEstimate
