import GrowthEstimate.Proofs.Analysis.Run

/-!
Contract: two runs of one request that differ in nothing but the policy that lets a match or the
tree decide.

Owns: structural verdicts with another time class, what reconciliation makes of them, and runs
under two policies.

Does **not** own: which class a policy decides for, and runs that sample.

A policy sets one field, the time class of the structural verdict.  The labels that are compared
are those of the tree and of the match, so the level of agreement cannot tell two policies
apart.  In conflict the class is the range of those labels, and the decided class is not used.
Without samples nothing else has seen it: a sampling profile depends on it.
-/

set_option autoImplicit false

namespace GrowthEstimate

variable {α : Type}

/-! ## Structure -/

namespace StructuralVerdict

/-- The verdict with another time class. -/
def withTime (verdict : StructuralVerdict α) (time : GrowthClass) : StructuralVerdict α :=
  { verdict with time }

theorem Grounded.time_isKnown {verdict : StructuralVerdict α} (grounded : verdict.Grounded) :
    verdict.time.isKnown = true := by
  rcases grounded.time with ofTree | ofPattern
  · rw [ofTree]
    exact grounded.tree
  · exact grounded.pattern verdict.time ofPattern

/-- Under another policy a tree and its matches have the same verdict with another time class. -/
theorem ofTree_withTime [Scalar α] (policy other : PatternPrecedence) (root : SyntaxNode α)
    (found : List (AlgorithmMatch α)) :
    ∃ time, ofTree other root found = (ofTree policy root found).withTime time := by
  refine ⟨(ofTree other root found).time, ?_⟩
  unfold ofTree
  split <;> rfl

end StructuralVerdict

/-! ## Reconciliation -/

/-- What two final verdicts share if only the decided class told their structures apart. -/
structure FinalVerdict.SharesSignals (verdict other : FinalVerdict α) : Prop where
  agreement : verdict.agreement = other.agreement
  space : verdict.space = other.space
  structuralStage : verdict.stages.structural = other.stages.structural
  patternStage : verdict.stages.pattern = other.stages.pattern
  rangeLabel : verdict.rangeLabel = other.rangeLabel
  validation : verdict.validation = other.validation
  inConflict : verdict.agreement = .conflict → verdict = other

namespace Reconciliation

variable [Scalar α] (thresholds : Thresholds α) (includeCases : Bool)
  {structural : StructuralVerdict α} {time : GrowthClass}

/-- Validation asks of the time class only that it is known. -/
theorem validate_withTime (known : structural.time.isKnown = true) (timeKnown : time.isKnown = true)
    (report : Option (RegressionReport α)) (level : AgreementLevel) :
    validate thresholds (structural.withTime time) report level =
      validate thresholds structural report level := by
  have sameKnown : (structural.withTime time).time.isKnown = structural.time.isKnown :=
    timeKnown.trans known.symm
  unfold validate
  rw [sameKnown]
  rfl

/-- A verdict has a range label in conflict only, and it is that of the compared labels. -/
theorem verdict_rangeLabel (structural : StructuralVerdict α) (measurement : Measurement α)
    (stageWarnings : List String) :
    let compared :=
      Agreement.labels structural.treeClass structural.patternClass measurement.growth
    (verdict thresholds includeCases structural measurement stageWarnings).rangeLabel =
      if Agreement.level thresholds compared = .conflict then some (span compared).label
      else none := by
  intro compared
  show (if (decide thresholds (Agreement.level thresholds compared) compared structural _).1.isRange
    then _ else _) = _
  cases Agreement.level thresholds compared <;> rfl

/-- In conflict the decided class is not used for anything but validation. -/
theorem verdict_withTime_of_conflict (known : structural.time.isKnown = true)
    (timeKnown : time.isKnown = true) (measurement : Measurement α) (stageWarnings : List String)
    (conflict : Agreement.level thresholds (Agreement.labels structural.treeClass
      structural.patternClass measurement.growth) = .conflict) :
    verdict thresholds includeCases (structural.withTime time) measurement stageWarnings =
      verdict thresholds includeCases structural measurement stageWarnings := by
  simp only [verdict, validate_withTime thresholds known timeKnown]
  simp only [StructuralVerdict.withTime, conflict, decide, span, casesOf?]

theorem verdict_withTime (known : structural.time.isKnown = true) (timeKnown : time.isKnown = true)
    (measurement : Measurement α) (stageWarnings : List String) :
    (verdict thresholds includeCases structural measurement stageWarnings).SharesSignals
      (verdict thresholds includeCases (structural.withTime time) measurement stageWarnings) where
  agreement := rfl
  space := rfl
  structuralStage := rfl
  patternStage := rfl
  rangeLabel := by
    rw [verdict_rangeLabel, verdict_rangeLabel]
    rfl
  validation := (validate_withTime thresholds known timeKnown _ _).symm
  inConflict conflict := (verdict_withTime_of_conflict thresholds includeCases known timeKnown
    measurement stageWarnings conflict).symm

theorem emptyVerdict_withTime (known : structural.time.isKnown = true)
    (timeKnown : time.isKnown = true) :
    (emptyVerdict thresholds includeCases structural).SharesSignals
      (emptyVerdict thresholds includeCases (structural.withTime time)) where
  agreement := rfl
  space := rfl
  structuralStage := rfl
  patternStage := rfl
  rangeLabel := rfl
  validation := (validate_withTime thresholds known timeKnown _ _).symm
  inConflict conflict := by contradiction

end Reconciliation

/-! ## Runs -/

/-- The request under another policy. -/
def AnalysisRequest.withPrecedence (request : AnalysisRequest α) (policy : PatternPrecedence) :
    AnalysisRequest α :=
  { request with options := { request.options with precedence := policy } }

namespace Analysis

variable [Scalar α]

/-- No policy makes a run fail that another one lets end. -/
theorem failure?_withPrecedence (request : AnalysisRequest α) (policy : PatternPrecedence)
    (text : List Char) :
    failure? (request.withPrecedence policy) text = failure? request text :=
  rfl

section Unmeasured

variable {request : AnalysisRequest α} {text : List Char}

theorem reportOf_of_blank (blank : (NormalizedSource.ofText text).isBlank = true) :
    reportOf request text = blankReport request (structured request text) :=
  if_pos blank

theorem reportOf_of_unmeasured (notBlank : ¬(NormalizedSource.ofText text).isBlank = true)
    (unmeasured : request.options.enableSampling = false) :
    reportOf request text = fullReport request (structured request text) .skipped := by
  have skipped : measuredOf request (structured request text).verdict = .skipped :=
    if_neg (by simp [unmeasured])
  rw [← skipped]
  exact if_neg notBlank

end Unmeasured

theorem reportOf_withPrecedence {request : AnalysisRequest α}
    (unmeasured : request.options.enableSampling = false) (text : List Char)
    (policy other : PatternPrecedence) :
    (reportOf (request.withPrecedence policy) text).verdict.SharesSignals
      (reportOf (request.withPrecedence other) text).verdict := by
  have known := (structured_grounded (request.withPrecedence policy) text).time_isKnown
  have otherKnown := (structured_grounded (request.withPrecedence other) text).time_isKnown
  obtain ⟨time, isWithTime⟩ : ∃ time, (structured (request.withPrecedence other) text).verdict =
      (structured (request.withPrecedence policy) text).verdict.withTime time :=
    StructuralVerdict.ofTree_withTime policy other _ _
  rw [isWithTime] at otherKnown
  by_cases blank : (NormalizedSource.ofText text).isBlank = true
  · rw [reportOf_of_blank blank, reportOf_of_blank blank]
    simp only [blankReport]
    rw [isWithTime]
    exact Reconciliation.emptyVerdict_withTime _ _ known otherKnown
  · have neither (decided : PatternPrecedence) :
        (request.withPrecedence decided).options.enableSampling = false :=
      unmeasured
    rw [reportOf_of_unmeasured blank (neither policy), reportOf_of_unmeasured blank (neither other)]
    simp only [fullReport]
    rw [isWithTime]
    exact Reconciliation.verdict_withTime _ _ known otherKnown _ _

/-- Runs that do not sample, under two policies and whatever was done before them.  Either both
fail, and with the same error, or both end with verdicts that share their signals, and are one
in conflict. -/
theorem run_withPrecedence {request : AnalysisRequest α}
    (unmeasured : request.options.enableSampling = false) (text : List Char)
    (policy other : PatternPrecedence) (tracker otherTracker : Tracker) :
    match failure? request text with
    | some error =>
        (run (request.withPrecedence policy) text tracker).1 = .error error ∧
          (run (request.withPrecedence other) text otherTracker).1 = .error error
    | none =>
        ∃ report otherReport, (run (request.withPrecedence policy) text tracker).1 = .ok report ∧
          (run (request.withPrecedence other) text otherTracker).1 = .ok otherReport ∧
          report.verdict.SharesSignals otherReport.verdict := by
  have ends := run_eq_failure? (request.withPrecedence policy) text tracker
  have otherEnds := run_eq_failure? (request.withPrecedence other) text otherTracker
  rw [failure?_withPrecedence] at ends otherEnds
  cases failed : failure? request text with
  | some error =>
      rw [failed] at ends otherEnds
      exact ⟨ends, otherEnds⟩
  | none =>
      rw [failed] at ends otherEnds
      exact ⟨_, _, ends, otherEnds, reportOf_withPrecedence unmeasured text policy other⟩

/-- A memoized recursion has an exponential tree and a linear match.  The policies decide for
different classes, and still the verdict is one and the same. -/
theorem run_withPrecedence_memoized :
    let options := { AnalysisOptions.standard with enableSampling := false }
    let request : AnalysisRequest Float := .ofOptions options
    let text := "def fib(n):\n  memo[n] = fib(n - 1) + fib(n - 2)\n".toList
    request.options.enableSampling = false ∧
      ∃ report otherReport,
        (run (request.withPrecedence .structureFirst) text .initial).1 = .ok report ∧
        (run (request.withPrecedence .patternFirst) text .initial).1 = .ok otherReport ∧
        report.diagnostics.structural.time = .exponential ∧
        otherReport.diagnostics.structural.time = .linear ∧
        report.verdict = otherReport.verdict := by
  intro options request text
  have unmeasured : request.options.enableSampling = false := rfl
  have noFailure : failure? request text = none := by decide +kernel
  have ended :=
    run_withPrecedence unmeasured text .structureFirst .patternFirst .initial .initial
  rw [noFailure] at ended
  obtain ⟨report, otherReport, ends, otherEnds, shared⟩ := ended
  have isReport := (run_ok ends).2
  have isOtherReport := (run_ok otherEnds).2
  have decided : report.diagnostics.structural.time = .exponential
      ∧ report.verdict.agreement = .conflict := by
    rw [isReport]
    decide +kernel
  have linear : otherReport.diagnostics.structural.time = .linear := by
    rw [isOtherReport]
    decide +kernel
  exact ⟨unmeasured, report, otherReport, ends, otherEnds, decided.1, linear,
    shared.inConflict decided.2⟩

end Analysis

end GrowthEstimate
