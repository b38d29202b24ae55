import GrowthEstimate.Proofs.Analysis.Run
import GrowthEstimate.Proofs.Catalogue.Entry
import GrowthEstimate.Proofs.Regression.Report
import GrowthEstimate.Proofs.Source.Scan

/-!
Contract: the parts of every report fit together.

Owns: when sampling is attempted, the ways measuring can go, consistent diagnostics, and that every
run that ends with a report gives consistent ones; what the stages before measuring find in a source
without code, the report on nothing, and that every accepted run over such a source ends with it.

Does **not** own: the class and the confidence of the verdict, and sources with code that nothing is
found in, which get a verdict of their own.
-/

set_option autoImplicit false

namespace GrowthEstimate

variable {α : Type} [Scalar α]

/-! ## Consistent reports

A report comes about in four ways: without measuring, because the source is blank or
sampling is off, with too few samples, and with a fit. -/

/-! ### Options -/

theorem AnalysisOptions.pairwise_of_isAscending {sizes : List Nat}
    (ascending : isAscending sizes = true) : sizes.Pairwise (· < ·) := by
  apply List.isChain_iff_pairwise.mp
  fun_induction isAscending sizes with
  | case1 => exact .nil
  | case2 size => exact .singleton size
  | case3 first second rest inductionHypothesis =>
      obtain ⟨isLess, restAscending⟩ := Bool.and_eq_true_iff.mp ascending
      exact .cons_cons (of_decide_eq_true isLess) (inductionHypothesis restAscending)

/-- Accepted sizes ascend. -/
theorem AnalysisOptions.sampleSizes_pairwise {options : AnalysisOptions}
    (accepted : options.fault? = none) : options.sampleSizes.Pairwise (· < ·) := by
  apply pairwise_of_isAscending
  unfold fault? at accepted
  split_ifs at accepted with _ _ ascending
  simpa using ascending

/-! ### Structure -/

namespace StructuralVerdict

/-- Loops are nested no deeper than a verdict counts them, unless the root is one itself. -/
theorem ofTree_loopDepth (policy : PatternPrecedence) {root : SyntaxNode α}
    (found : List (AlgorithmMatch α)) (notLoop : root.kind ≠ .loop) :
    root.loopDepth ≤ (ofTree policy root found).loopCount := by
  unfold ofTree
  split
  · next nothing =>
      have childless : root.children = [] := by simp_all
      rw [SyntaxNode.loopDepth_eq, childless, if_neg notLoop]
      exact Nat.le_refl 0
  · exact SyntaxNode.loopDepth_le_count root

end StructuralVerdict

namespace Analysis

/-! ### Measuring -/

/-- Whether a run of the text samples at all. -/
def attemptsSampling (request : AnalysisRequest α) (text : List Char) : Bool :=
  request.options.enableSampling && !(NormalizedSource.ofText text).isBlank

/-- What a run measures is nothing, too few samples, or samples with their fit. -/
theorem measuredOf_cases (request : AnalysisRequest α) (structural : StructuralVerdict α) :
    (request.options.enableSampling = false ∧ measuredOf request structural = .skipped) ∨
    (request.options.enableSampling = true ∧
      ∃ collected, measuredOf request structural = .tooFew request.seed collected) ∨
    (request.options.enableSampling = true ∧
      ∃ outcome, sampled request structural = .ok outcome ∧
        measuredOf request structural = fitted request outcome) := by
  unfold measuredOf
  cases request.options.enableSampling with
  | false => exact Or.inl ⟨rfl, rfl⟩
  | true =>
      right
      cases sampling : sampled request structural with
      | error collected => exact Or.inl ⟨rfl, collected, rfl⟩
      | ok outcome => exact Or.inr ⟨rfl, outcome, rfl, rfl⟩

/-- Samples are taken at those of the sizes that do not stall, and at no fewer than three. -/
theorem sampled_sizes {request : AnalysisRequest α} {structural : StructuralVerdict α}
    {outcome : SamplingOutcome α}
    (ascending : request.options.sampleSizes.Pairwise (· < ·))
    (enough : sampled request structural = .ok outcome) :
    outcome.samples.map CostSample.size =
        request.options.sampleSizes.filter (fun size => !request.costModel.stalls size)
      ∧ 3 ≤ outcome.samples.length
      ∧ outcome.truncated = request.options.sampleSizes.any request.costModel.stalls := by
  obtain ⟨notFewer, rfl⟩ := Sampling.sample_ok enough
  refine ⟨?_, ?_, rfl⟩
  · rw [List.map_map, ← Sampling.keptSizes_of_ascending ascending]
    exact List.map_id _
  · rw [List.length_map]
    exact notFewer

end Analysis

/-! ### Consistent diagnostics -/

/-- What was measured fits together: the samples, the regression and the change are there
together or not at all, and the samples are taken at some of the sizes. -/
structure Analysis.Measured.Consistent (measured : Measured α) (requested : List Nat) : Prop where
  change : measured.regression.isSome = true ↔ measured.change.isSome = true
  regression : measured.regression.isSome = true ↔ measured.samples ≠ []
  fit : ∀ report, measured.regression = some report → report.Consistent measured.samples.length
  enough : measured.samples ≠ [] → 3 ≤ measured.samples.length
  sizes : (measured.samples.map CostSample.size).Sublist requested
  truncated : measured.truncated = true → measured.samples.length < requested.length

/-- What a report holds fits together. -/
structure AnalysisReport.Consistent (report : AnalysisReport α) (request : AnalysisRequest α)
    (text : List Char) : Prop where
  change : report.diagnostics.regression.isSome = true ↔ report.diagnostics.change.isSome = true
  regression : report.diagnostics.regression.isSome = true ↔ report.diagnostics.samples ≠ []
  enough : report.diagnostics.samples ≠ [] → 3 ≤ report.diagnostics.samples.length
  ascending : report.diagnostics.samples.Pairwise fun left right => left.size < right.size
  sizes : ∀ sample ∈ report.diagnostics.samples, sample.size ∈ request.options.sampleSizes
  attempted : report.diagnostics.samples ≠ [] → Analysis.attemptsSampling request text = true
  seed : report.diagnostics.seed =
    if Analysis.attemptsSampling request text then some request.seed else none
  truncated : report.diagnostics.samplingTruncated = true →
    report.diagnostics.samples.length < request.options.sampleSizes.length
  fit : ∀ regression, report.diagnostics.regression = some regression →
    regression.Consistent report.diagnostics.samples.length
  stage : report.verdict.stages.regression.isSome = true ↔
    ∃ regression, report.diagnostics.regression = some regression ∧
      regression.best.isSome = true
  nested : report.diagnostics.tree.maxLoopDepth ≤ report.diagnostics.tree.loops

namespace Analysis

omit [Scalar α] in
theorem Measured.Consistent.of_nothing {measured : Measured α} {requested : List Nat}
    (samples : measured.samples = []) (regression : measured.regression = none)
    (change : measured.change = none) (truncated : measured.truncated = false) :
    measured.Consistent requested := by
  constructor <;> simp_all

theorem fitted_consistent {request : AnalysisRequest α} {structural : StructuralVerdict α}
    {outcome : SamplingOutcome α}
    (ascending : request.options.sampleSizes.Pairwise (· < ·))
    (enough : sampled request structural = .ok outcome) :
    (fitted request outcome).Consistent request.options.sampleSizes := by
  obtain ⟨report, fits⟩ := ofSamples_ok_of_sample enough
  obtain ⟨sizes, notFewer, truncated⟩ := sampled_sizes ascending enough
  have regression : (fitted request outcome).regression = some report := by
    rw [fitted, fits]
    rfl
  have nonEmpty : (fitted request outcome).samples ≠ [] := List.ne_nil_of_length_pos
    (show 0 < outcome.samples.length by omega)
  constructor
  case change =>
    rw [regression]
    exact Iff.rfl
  case regression => simpa only [regression, Option.isSome_some, true_iff] using nonEmpty
  case fit =>
    intro other isReport
    rw [regression] at isReport
    rw [← Option.some.inj isReport]
    exact RegressionReport.ofSamples_consistent fits
  case enough => exact fun _ => notFewer
  case sizes =>
    show (outcome.samples.map CostSample.size).Sublist _
    rw [sizes]
    exact List.filter_sublist
  case truncated =>
    intro isTruncated
    have someStalls : ∃ size ∈ request.options.sampleSizes,
        request.costModel.stalls size = true :=
      List.any_eq_true.mp (truncated ▸ isTruncated)
    have fewer : (outcome.samples.map CostSample.size).length <
        request.options.sampleSizes.length := by
      rw [sizes, List.length_filter_lt_length_iff_exists]
      simpa using someStalls
    rwa [List.length_map] at fewer

theorem measuredOf_consistent {request : AnalysisRequest α} (structural : StructuralVerdict α)
    (ascending : request.options.sampleSizes.Pairwise (· < ·)) :
    (measuredOf request structural).Consistent request.options.sampleSizes := by
  rcases measuredOf_cases request structural with
    ⟨_, isSkipped⟩ | ⟨_, collected, isTooFew⟩ | ⟨_, outcome, enough, isFitted⟩
  · rw [isSkipped]
    exact .of_nothing rfl rfl rfl rfl
  · rw [isTooFew]
    exact .of_nothing rfl rfl rfl rfl
  · rw [isFitted]
    exact fitted_consistent ascending enough

/-- Sampling leaves its seed, whatever comes of it. -/
theorem measuredOf_seed (request : AnalysisRequest α) (structural : StructuralVerdict α) :
    (measuredOf request structural).seed =
      if request.options.enableSampling then some request.seed else none := by
  rcases measuredOf_cases request structural with
    ⟨disabled, isSkipped⟩ | ⟨enabled, collected, isTooFew⟩ | ⟨enabled, outcome, _, isFitted⟩
  · rw [isSkipped, disabled]
    rfl
  · rw [isTooFew, enabled]
    rfl
  · rw [isFitted, enabled]
    rfl

theorem structured_nested (request : AnalysisRequest α) (text : List Char) :
    (structured request text).summary.maxLoopDepth ≤ (structured request text).summary.loops :=
  StructuralVerdict.ofTree_loopDepth _ _ fun isLoop => NodeKind.noConfusion isLoop

theorem blankReport_consistent {request : AnalysisRequest α} {text : List Char}
    (blank : (NormalizedSource.ofText text).isBlank = true) :
    (blankReport request (structured request text)).Consistent request text := by
  have notAttempted : attemptsSampling request text = false := by
    simp [attemptsSampling, blank]
  constructor
  case nested => exact structured_nested request text
  case seed => simp [blankReport, notAttempted]
  all_goals simp [blankReport, Reconciliation.emptyVerdict]

theorem fullReport_consistent {request : AnalysisRequest α} {text : List Char}
    (notBlank : (NormalizedSource.ofText text).isBlank = false)
    (ascending : request.options.sampleSizes.Pairwise (· < ·)) :
    (fullReport request (structured request text)
      (measuredOf request (structured request text).verdict)).Consistent request text := by
  have measured := measuredOf_consistent (structured request text).verdict ascending
  have seed := measuredOf_seed request (structured request text).verdict
  have attempts : attemptsSampling request text = request.options.enableSampling := by
    simp [attemptsSampling, notBlank]
  constructor
  case change => exact measured.change
  case regression => exact measured.regression
  case enough => exact measured.enough
  case ascending => exact List.pairwise_map.mp (ascending.sublist measured.sizes)
  case sizes =>
    intro sample isSample
    exact measured.sizes.subset (List.mem_map_of_mem isSample)
  case attempted =>
    intro someSamples
    rw [attempts]
    rcases measuredOf_cases request (structured request text).verdict with
      ⟨_, isSkipped⟩ | ⟨enabled, _⟩ | ⟨enabled, _⟩
    · exact absurd (congrArg Measured.samples isSkipped) someSamples
    · exact enabled
    · exact enabled
  case seed =>
    rw [attempts]
    exact seed
  case truncated => exact measured.truncated
  case fit => exact measured.fit
  case stage =>
    show (measuredOf request _).measurement.confidence?.isSome = true ↔ _
    rw [Measurement.confidence?_isSome, report?_measurement]
    · rfl
    · intro report reported
      rw [report?_measurement] at reported
      exact ⟨_, measured.fit report reported⟩
  case nested => exact structured_nested request text

/-! ### Runs -/

/-- Every report is consistent: the samples, the regression and the change are there together
or not at all, the samples are of some of the sizes in their order, and what is reported of
sampling, of the fit and of the tree fits to them. -/
theorem run_consistent {request : AnalysisRequest α} {text : List Char} {tracker : Tracker}
    {report : AnalysisReport α} (ok : (run request text tracker).1 = .ok report) :
    report.Consistent request text := by
  obtain ⟨accepted, isReport⟩ := run_ok ok
  obtain ⟨optionsAccepted, _⟩ := checkRequest_eq_ok.mp accepted
  have ascending := AnalysisOptions.sampleSizes_pairwise optionsAccepted
  unfold reportOf at isReport
  simp only at isReport
  split_ifs at isReport with blank
  · rw [isReport]
    exact blankReport_consistent blank
  · rw [isReport]
    exact fullReport_consistent (Bool.eq_false_iff.mpr blank) ascending

/-- A linear search, sampled as it is by default. -/
theorem run_consistent_linearSearch :
    let request : AnalysisRequest ℝ := .ofOptions .standard
    let text := "def find(xs, x):\n  for y in xs:\n    if y == x:\n      return y\n".toList
    ∃ report, (run request text .initial).1 = .ok report ∧ report.Consistent request text
      ∧ report.diagnostics.seed = some 0 := by
  intro request text
  have accepted : checkRequest request text = .ok () :=
    checkRequest_eq_ok.mpr ⟨by decide, Thresholds.standard_fault?, by decide⟩
  have attempted : attemptsSampling request text = true := by
    show (true && !(NormalizedSource.ofText text).isBlank) = true
    decide
  obtain ⟨report, ok⟩ := run_succeeds accepted (fun _ => rfl) .initial
  refine ⟨report, ok, run_consistent ok, ?_⟩
  rw [(run_consistent ok).seed, if_pos attempted]
  rfl

end Analysis

/-! ## Sources without code

Two stages take a shortcut, and both have to.  Aggregation does so for a tree without nodes
and without matches, the run for a source without code.  So the tree and the catalogue have to
be shown empty first: only then is the verdict that the run passes on the one on nothing. -/

/-! ### Before measuring -/

theorem ParsedSource.children_of_blank {source : NormalizedSource}
    (blank : source.isBlank = true) (maxDepth : Nat) :
    (ofSource maxDepth source : ParsedSource α).root.children = [] := by
  have noNodes := Parse.forest_of_blank (α := α) (max maxDepth 1) 0 []
    (List.all_eq_true.mp blank)
  show (Parse.forest (α := α) (max maxDepth 1) 0 [] source.lines).nodes = []
  rw [noNodes]
  rfl

theorem StructuralVerdict.ofTree_of_nothing (policy : PatternPrecedence) {root : SyntaxNode α}
    (childless : root.children = []) :
    ofTree policy root [] = ofNothing (CodeShape.ofNodes root.walk) := by
  simp [ofTree, childless]

namespace Analysis

/-- Nothing is found in a source without code, and the verdict is that on nothing. -/
theorem structured_of_blank (request : AnalysisRequest α) {text : List Char}
    (blank : (NormalizedSource.ofText text).isBlank = true) :
    (structured request text).found = [] ∧
      ∃ shape, (structured request text).verdict = .ofNothing shape := by
  have childless := ParsedSource.children_of_blank (α := α) blank Parse.defaultMaxDepth
  have nothingFound := Catalogue.detect_of_blank (α := α) blank rfl childless
  have isVerdict := StructuralVerdict.ofTree_of_nothing request.options.precedence childless
  rw [← nothingFound] at isVerdict
  exact ⟨nothingFound, _, isVerdict⟩

end Analysis

/-! ### The report on nothing -/

/-- The report says that nothing was there: constant in every respect and certain of it, with
nothing found in the source and nothing measured. -/
structure AnalysisReport.OnNothing (report : AnalysisReport α) (includeCases : Bool) : Prop where
  time : report.verdict.time = .exact .const
  space : report.verdict.space = .const
  bounds : report.verdict.lowerBound = .const ∧ report.verdict.upperBound = .const
  confidence : report.verdict.confidence = 1.0
  agreement : report.verdict.agreement = .high
  cases : report.verdict.cases = if includeCases then some (.uniform .const) else none
  functions : report.diagnostics.tree.functions = 0
  loops : report.diagnostics.tree.loops = 0
  found : report.diagnostics.found = []
  samples : report.diagnostics.samples = []
  regression : report.diagnostics.regression = none
  change : report.diagnostics.change = none

namespace Analysis

theorem blankReport_onNothing (request : AnalysisRequest α) {structured : Structured α}
    (nothingFound : structured.found = []) {shape : CodeShape}
    (isVerdict : structured.verdict = .ofNothing shape) :
    (blankReport request structured).OnNothing request.options.includeCases := by
  constructor
  case confidence =>
    show structured.verdict.confidence = 1.0
    rw [isVerdict]
    rfl
  case functions =>
    show structured.verdict.functionCount = 0
    rw [isVerdict]
    rfl
  case loops =>
    show structured.verdict.loopCount = 0
    rw [isVerdict]
    rfl
  case found => exact nothingFound
  case bounds => exact ⟨rfl, rfl⟩
  all_goals rfl

/-- A text of blanks and comments has no code.  Whatever has no code is reported as nothing:
every run over it that is accepted and not cancelled has such a report, whether it is to
sample or not. -/
theorem run_of_blank {request : AnalysisRequest α} {text : List Char}
    (options : request.options.fault? = none) (thresholds : request.thresholds.fault? = none)
    (notTooLarge : byteSize text ≤ request.options.maxInputBytes)
    (never : ∀ phase, request.cancellation.before phase = false) (tracker : Tracker) :
    (isCommentary (.detect text) false (Text.lines text) = true →
      (NormalizedSource.ofText text).isBlank = true) ∧
    ((NormalizedSource.ofText text).isBlank = true →
      ∃ report, (run request text tracker).1 = .ok report ∧
        report.OnNothing request.options.includeCases) := by
  refine ⟨NormalizedSource.ofText_isBlank, ?_⟩
  intro blank
  have accepted : checkRequest request text = .ok () :=
    checkRequest_eq_ok.mpr ⟨options, thresholds, notTooLarge⟩
  obtain ⟨report, ok⟩ := run_succeeds accepted never tracker
  obtain ⟨_, isReport⟩ := run_ok ok
  obtain ⟨nothingFound, shape, isVerdict⟩ := structured_of_blank request blank
  refine ⟨report, ok, ?_⟩
  have isBlankReport : report = blankReport request (structured request text) := by
    rw [isReport]
    exact if_pos blank
  rw [isBlankReport]
  exact blankReport_onNothing request nothingFound isVerdict

/-- Comments of every kind, one of them over two lines, and blanks around them; sampling is on. -/
theorem run_of_blank_comments :
    let request : AnalysisRequest ℝ := .ofOptions .standard
    let text := "// a note\n\t/* two\n lines */ // more\n\n  # the end".toList
    request.options.enableSampling = true ∧
      (NormalizedSource.ofText text).isBlank = true ∧
      ∃ report, (run request text .initial).1 = .ok report ∧ report.OnNothing true := by
  intro request text
  have accepted : request.options.fault? = none := by decide
  have notTooLarge : byteSize text ≤ request.options.maxInputBytes := by decide
  have onNothing := run_of_blank accepted Thresholds.standard_fault? notTooLarge (fun _ => rfl)
    .initial
  have blank := onNothing.1 (by decide)
  exact ⟨rfl, blank, onNothing.2 blank⟩

end Analysis

end GrowthEstimate
