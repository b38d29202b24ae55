import GrowthEstimate.Proofs.Analysis.Report
import GrowthEstimate.Proofs.Analysis.Run
import GrowthEstimate.Proofs.Verdict.Decision
import GrowthEstimate.Proofs.Verdict.Opinion

/-!
Contract: the confidence of every report, and opinions merged into the verdict of a run.

Owns: that the verdict of every report is well-formed and has no opinion yet, and what holds of it
once opinions were merged; what a report measured, confident reports, and that every run over a
source that is not blank pairs the class of its verdict with a confidence that the stages allow.

Does **not** own: what a single opinion changes (`Proofs.Verdict.Opinion`), and the confidence of a
report on a blank source, which is that of the structure.
-/

set_option autoImplicit false

namespace GrowthEstimate

variable {α : Type} [Scalar α]

/-! ## Merged opinions -/

/-! ### Reconciled verdicts -/

theorem FinalVerdict.Coherent.bounded {α : Type} {labels : List GrowthClass} {conflictSteps : Nat}
    {verdict : FinalVerdict α} (coherent : verdict.Coherent labels conflictSteps) :
    verdict.lowerBound ≤ verdict.upperBound := by
  obtain ⟨below, between, above⟩ := coherent.bounds
  exact below.trans (between.trans above)

namespace Reconciliation

variable [UnitArithmetic α] {thresholds : Thresholds α} {structural : StructuralVerdict α}

theorem verdict_wellFormed (accepted : thresholds.fault? = none) (includeCases : Bool)
    (grounded : structural.Grounded) (structuralInUnit : structural.InUnit)
    {measurement : Measurement α}
    (reports : ∀ report, measurement.report? = some report →
      Thresholds.inUnit report.confidence = true)
    (stageWarnings : List String) :
    (verdict thresholds includeCases structural measurement stageWarnings).WellFormed := by
  have advised (time : VerdictClass) (level : AgreementLevel) (more : List String) :
      (((Advisories.none.warnAll stageWarnings).warnAll more).onVerdict time level).Nodup :=
    ((Advisories.none_nodup.warnAll stageWarnings).warnAll more).onVerdict time level
  constructor
  case warnings => exact (advised _ _ _).warnings
  case recommendations => exact (advised _ _ _).recommendations
  case confidence => exact verdict_inUnit accepted includeCases structuralInUnit reports _
  case combined => rfl
  case label => rfl
  case bounds => exact (verdict_coherent thresholds includeCases grounded measurement _).bounded

omit [UnitArithmetic α] in
theorem emptyVerdict_wellFormed (includeCases : Bool) (structuralInUnit : structural.InUnit) :
    (emptyVerdict thresholds includeCases structural).WellFormed where
  warnings := List.nodup_singleton _
  recommendations := List.nodup_nil
  confidence := structuralInUnit.confidence
  combined := rfl
  label := rfl
  bounds := le_refl GrowthClass.const

end Reconciliation

namespace Analysis

/-! ### Measuring -/

/-- Every regression that is reported was fitted to samples. -/
theorem exists_samples_of_measuredOf {request : AnalysisRequest α}
    {structural : StructuralVerdict α} {report : RegressionReport α}
    (reported : (measuredOf request structural).regression = some report) :
    ∃ samples, RegressionReport.ofSamples samples = .ok report := by
  unfold measuredOf at reported
  split at reported
  · split at reported
    · contradiction
    · next outcome _ =>
      change (RegressionReport.ofSamples outcome.samples).toOption = some report at reported
      refine ⟨outcome.samples, ?_⟩
      cases fits : RegressionReport.ofSamples outcome.samples with
      | error collected =>
          rw [fits] at reported
          contradiction
      | ok fit =>
          rw [fits] at reported
          rw [Option.some.inj reported]
  · contradiction

/-! ### Runs -/

theorem run_wellFormed [UnitArithmetic α] {request : AnalysisRequest α} {text : List Char}
    {tracker : Tracker} {report : AnalysisReport α}
    (ok : (run request text tracker).1 = .ok report) :
    report.verdict.WellFormed ∧ report.verdict.opinion = none := by
  obtain ⟨accepted, isReport⟩ := run_ok ok
  obtain ⟨_, thresholdsAccepted, _⟩ := checkRequest_eq_ok.mp accepted
  have structuralInUnit : (structured request text).verdict.InUnit :=
    StructuralVerdict.ofSource_inUnit request.options.precedence Parse.defaultMaxDepth
      (NormalizedSource.ofText text)
  unfold reportOf at isReport
  simp only at isReport
  split_ifs at isReport
  · rw [isReport]
    exact ⟨Reconciliation.emptyVerdict_wellFormed _ structuralInUnit, rfl⟩
  · rw [isReport]
    refine ⟨Reconciliation.verdict_wellFormed thresholdsAccepted _
      (structured_grounded request text) structuralInUnit ?_ _, rfl⟩
    intro regression reported
    rw [report?_measurement] at reported
    obtain ⟨samples, fits⟩ := exists_samples_of_measuredOf reported
    exact RegressionReport.confidence_inUnit fits

/-- Whatever opinions were merged into the verdict of a run: the verdict is well-formed, it
extends what it was after the earlier ones and what it was at first, and it has the
opinion that was merged last.  All that is asked of an opinion is that its confidence is a
number. -/
theorem run_mergeAll {request : AnalysisRequest Float} {text : List Char} {tracker : Tracker}
    {report : AnalysisReport Float} (ok : (run request text tracker).1 = .ok report)
    (earlier later : List (Opinion Float × MergePolicy Float))
    (areDefined : ∀ merge ∈ earlier ++ later, Scalar.isNaN merge.1.confidence = false) :
    let merged := report.verdict.mergeAll (earlier ++ later)
    merged.WellFormed ∧ (report.verdict.mergeAll earlier).Extends merged
      ∧ report.verdict.Extends merged
      ∧ merged.opinion = (earlier ++ later).getLast?.map Prod.fst := by
  intro merged
  obtain ⟨wellFormed, noOpinion⟩ := run_wellFormed ok
  refine ⟨wellFormed.mergeAll areDefined, ?_, ?_, ?_⟩
  · show (report.verdict.mergeAll earlier).Extends (report.verdict.mergeAll (earlier ++ later))
    rw [FinalVerdict.mergeAll_append]
    exact FinalVerdict.extends_mergeAll _ later
  · exact FinalVerdict.extends_mergeAll _ (earlier ++ later)
  · rw [FinalVerdict.mergeAll_opinion, noOpinion, Option.or_none]

/-- A linear search, with one opinion that is averaged and then one that is preferred. -/
theorem run_mergeAll_linearSearch :
    let request : AnalysisRequest Float := .ofOptions .standard
    let text := "def find(xs, x):\n  for y in xs:\n    if y == x:\n      return y\n".toList
    let averaged : Opinion Float × MergePolicy Float := (⟨"reviewer", .log, 0.5, []⟩, .average)
    let preferred : Opinion Float × MergePolicy Float :=
      (⟨"profiler", .quadratic, 2.5, []⟩, .preferExternal 0.8)
    ∃ report, (run request text .initial).1 = .ok report ∧
      let merged := report.verdict.mergeAll ([averaged] ++ [preferred])
      merged.WellFormed ∧ (report.verdict.mergeAll [averaged]).Extends merged
        ∧ report.verdict.Extends merged ∧ merged.opinion = some preferred.1 := by
  intro request text averaged preferred
  have accepted : checkRequest request text = .ok () :=
    checkRequest_eq_ok.mpr ⟨by decide, by decide +kernel, by decide⟩
  have areDefined : ∀ merge ∈ [averaged] ++ [preferred],
      Scalar.isNaN merge.1.confidence = false := by
    decide +kernel
  obtain ⟨report, ok⟩ := run_succeeds accepted (fun _ => rfl) .initial
  exact ⟨report, ok, run_mergeAll ok [averaged] [preferred] areDefined⟩

end Analysis

/-! ## Confident reports

The laws asked of numbers hold for exact numbers and for doubles alike. -/

/-- The class and the confidence that were measured, if a fit won. -/
def AnalysisDiagnostics.measured? (diagnostics : AnalysisDiagnostics α) :
    Option (Reconciliation.Signal α) :=
  diagnostics.regression.bind RegressionReport.signal?

/-- A structural verdict has a class and a confidence of the strongest match, or neither. -/
theorem StructuralVerdict.ofTree_paired (policy : PatternPrecedence) (root : SyntaxNode α)
    (found : List (AlgorithmMatch α)) :
    (ofTree policy root found).patternClass.isSome =
      (ofTree policy root found).patternConfidence.isSome := by
  unfold ofTree
  split
  · rfl
  · simp only [Option.isSome_map]

/-- The signal of the matches is that of the first match of greatest confidence; there is none only
without matches. -/
def StructuralVerdict.SpeaksFor (verdict : StructuralVerdict α)
    (found : List (AlgorithmMatch α)) : Prop :=
  match verdict.patternSignal? with
  | some signal => Reconciliation.FirstStrongest (found.map AlgorithmMatch.signal) signal
  | none => found = []

theorem StructuralVerdict.ofTree_speaksFor [UnitOrder α] (policy : PatternPrecedence)
    (root : SyntaxNode α) {found : List (AlgorithmMatch α)}
    (units : ∀ one ∈ found, Thresholds.inUnit one.confidence = true) :
    (ofTree policy root found).SpeaksFor found := by
  unfold ofTree
  split
  · next nothing => exact List.isEmpty_iff.mp (Bool.and_eq_true_iff.mp nothing).2
  · unfold SpeaksFor patternSignal?
    cases isBest : AlgorithmMatch.strongest? found with
    | some best => exact Reconciliation.firstStrongest_of_strongest? units isBest
    | none =>
        cases found with
        | nil => rfl
        | cons first rest => contradiction

/-- The confidence of a report is what thresholds make of the confidences of its stages.  Those are
the confidences of its signals: of the structure, of the first match of greatest confidence and of
the fit that won. -/
structure AnalysisReport.Confident (report : AnalysisReport α) (thresholds : Thresholds α) :
    Prop where
  inUnit : Thresholds.inUnit report.verdict.confidence = true
  combined : report.verdict.stages.combined = report.verdict.confidence
  pattern : report.diagnostics.structural.SpeaksFor report.diagnostics.found
  stages : report.verdict.stages.known =
    (Reconciliation.present report.diagnostics.structural report.diagnostics.measured?).map
      Prod.snd
  weighed : Reconciliation.Weighed thresholds report.diagnostics.structural
    report.diagnostics.measured? report.verdict.agreement report.verdict.time
    report.verdict.confidence
  bounded : report.verdict.agreement ≠ .conflict →
    ∃ stage ∈ report.verdict.stages.known, Scalar.le report.verdict.confidence stage = true

namespace Analysis

variable [UnitOrder α]

/-- A report is confident if its regression is fitted to samples and its structure is a verdict
in the unit interval. -/
theorem fullReport_confident {request : AnalysisRequest α} {found : Structured α}
    {measured : Measured α} (accepted : request.thresholds.fault? = none)
    (structuralInUnit : found.verdict.InUnit)
    (paired : found.verdict.patternClass.isSome = found.verdict.patternConfidence.isSome)
    (pattern : found.verdict.SpeaksFor found.found)
    (fits : ∀ regression, measured.regression = some regression →
      ∃ samples, RegressionReport.ofSamples samples = .ok regression) :
    (fullReport request found measured).Confident request.thresholds := by
  let warnings := parseWarnings α found.parsed.stats ++ measured.warnings
  have isReport := report?_measurement measured
  have reports : ∀ regression, measured.measurement.report? = some regression →
      Thresholds.inUnit regression.confidence = true := by
    intro regression reported
    obtain ⟨samples, isFit⟩ := fits regression (isReport ▸ reported)
    exact RegressionReport.confidence_inUnit isFit
  have isSignal : measured.measurement.signal? =
      measured.regression.bind RegressionReport.signal? := by
    rw [Measurement.signal?_eq, isReport]
    intro regression reported
    obtain ⟨samples, isFit⟩ := fits regression (isReport ▸ reported)
    exact ⟨_, RegressionReport.ofSamples_consistent isFit⟩
  have stages := Reconciliation.verdict_stages request.thresholds request.options.includeCases
    measured.measurement warnings paired
  have weighed := Reconciliation.verdict_weighed accepted request.options.includeCases
    structuralInUnit reports warnings
  have bounded := weighed.le_present accepted
    (Reconciliation.present_inUnit structuralInUnit (Reconciliation.signal?_inUnit reports))
  rw [isSignal] at stages weighed bounded
  constructor
  case inUnit => exact Reconciliation.verdict_inUnit accepted _ structuralInUnit reports _
  case combined => rfl
  case pattern => exact pattern
  case stages => exact stages
  case weighed => exact weighed
  case bounded =>
    intro noConflict
    obtain ⟨signal, isPresent, atMost⟩ := bounded noConflict
    have isStage := List.mem_map_of_mem (f := Prod.snd) isPresent
    rw [← stages] at isStage
    exact ⟨signal.2, isStage, atMost⟩

/-- The confidence of every report on a source that is not blank lies in the unit interval
and is the one of all stages together.  At high agreement it is the least of what structure
and measurement have and of the cap, at medium agreement a share of the greatest confidence of
a signal, whose class is reported, at low agreement at most the cap and what the signal has
whose class is reported, and in conflict it is fixed.  Outside conflict no stage is outdone. -/
theorem run_confident {request : AnalysisRequest α} {text : List Char} {tracker : Tracker}
    {report : AnalysisReport α} (ok : (run request text tracker).1 = .ok report)
    (notBlank : (NormalizedSource.ofText text).isBlank = false) :
    report.Confident request.thresholds := by
  obtain ⟨accepted, isReport⟩ := run_ok ok
  obtain ⟨_, thresholdsAccepted, _⟩ := checkRequest_eq_ok.mp accepted
  have isFull : report = fullReport request (structured request text)
      (measuredOf request (structured request text).verdict) := by
    rw [isReport, reportOf]
    exact if_neg (Bool.eq_false_iff.mp notBlank)
  rw [isFull]
  apply fullReport_confident thresholdsAccepted
  case structuralInUnit => exact StructuralVerdict.ofSource_inUnit _ _ _
  case paired => exact StructuralVerdict.ofTree_paired _ _ _
  case pattern => exact StructuralVerdict.ofTree_speaksFor _ _ (Catalogue.matchesOf_inUnit _)
  case fits => exact fun _ => exists_samples_of_measuredOf

/-- A linear search in exact numbers. -/
theorem run_confident_linearSearch :
    let request : AnalysisRequest ℝ := .ofOptions .standard
    let text := "def find(xs, x):\n  for y in xs:\n    if y == x:\n      return y\n".toList
    (NormalizedSource.ofText text).isBlank = false ∧
      ∃ report, (run request text .initial).1 = .ok report ∧
        report.Confident request.thresholds := by
  intro request text
  have accepted : checkRequest request text = .ok () :=
    checkRequest_eq_ok.mpr ⟨by decide, Thresholds.standard_fault?, by decide⟩
  have notBlank : (NormalizedSource.ofText text).isBlank = false := by decide
  obtain ⟨report, ok⟩ := run_succeeds accepted (fun _ => rfl) .initial
  exact ⟨notBlank, report, ok, run_confident ok notBlank⟩

end Analysis

end GrowthEstimate
