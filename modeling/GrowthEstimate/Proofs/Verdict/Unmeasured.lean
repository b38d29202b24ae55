import GrowthEstimate.Number.Binary64
import GrowthEstimate.Proofs.Verdict.Opinion

/-!
Contract: a measurement that no class fits counts as no measurement.

Owns: what a report without a best fit contributes to a verdict, and the messages that a verdict
adds to those of the stages before it.

Does **not** own: when sampling is skipped or fails, and which advisories a report has.

A measurement reaches the labels, the signals and the validation as an unknown class, whichever
way it is missing.  Only the advisories of a report are read without a look at its best fit, so
they are what a report without one can still add.
-/

set_option autoImplicit false

namespace GrowthEstimate

/-! ## Messages -/

theorem mem_addUnique {messages : List String} {message added : String} :
    message ∈ addUnique messages added ↔ message ∈ messages ∨ message = added := by
  unfold addUnique
  split
  · next isThere =>
    have addedIsThere : added ∈ messages := List.contains_iff_mem.mp isThere
    refine ⟨Or.inl, ?_⟩
    rintro (isThere | rfl)
    · exact isThere
    · exact addedIsThere
  · rw [List.mem_append, List.mem_singleton]

theorem mem_addAllUnique {messages more : List String} {message : String} :
    message ∈ addAllUnique messages more ↔ message ∈ messages ∨ message ∈ more := by
  unfold addAllUnique
  induction more generalizing messages with
  | nil => simp
  | cons added rest inductionHypothesis =>
      rw [List.foldl_cons, inductionHypothesis, mem_addUnique, List.mem_cons, or_assoc]

namespace Advisories

variable (time : VerdictClass) (level : AgreementLevel) {advisories other : Advisories}

/-- What a verdict recommends does not depend on the warnings before it. -/
theorem recommendations_onVerdict
    (same : advisories.recommendations = other.recommendations) :
    (advisories.onVerdict time level).recommendations
      = (other.onVerdict time level).recommendations := by
  have sameOnAgreement : (advisories.onAgreement time level).recommendations
      = (other.onAgreement time level).recommendations := by
    cases level with
    | high | medium => exact same
    | low | conflict => exact congrArg (addUnique · _) same
  unfold onVerdict onGrowth
  split_ifs
  · exact congrArg (addUnique · _) sameOnAgreement
  · exact congrArg (addUnique · _) sameOnAgreement
  · exact congrArg (addUnique · _) sameOnAgreement
  · exact sameOnAgreement

/-- What a verdict warns of does not depend on the advisories before it. -/
theorem mem_warnings_onVerdict {warning : String} :
    warning ∈ (advisories.onVerdict time level).warnings
      ↔ warning ∈ advisories.warnings ∨ warning ∈ (none.onVerdict time level).warnings := by
  have onAgreement : warning ∈ (advisories.onAgreement time level).warnings
      ↔ warning ∈ advisories.warnings ∨ warning ∈ (none.onAgreement time level).warnings := by
    cases level with
    | high | medium => simp [Advisories.onAgreement, none]
    | low | conflict => simp [Advisories.onAgreement, recommend, warn, mem_addUnique, none]
  unfold onVerdict onGrowth
  split_ifs
  · exact onAgreement
  · simp only [recommend, warn, mem_addUnique, onAgreement, or_assoc]
  · simp only [recommend, warn, mem_addUnique, onAgreement, or_assoc]
  · exact onAgreement

/-- Messages before a verdict are warnings beside those of the verdict. -/
theorem mem_warnings_warnAll_onVerdict {messages : List String} {warning : String} :
    warning ∈ ((advisories.warnAll messages).onVerdict time level).warnings
      ↔ warning ∈ (advisories.onVerdict time level).warnings ∨ warning ∈ messages := by
  have before : warning ∈ (advisories.warnAll messages).warnings
      ↔ warning ∈ advisories.warnings ∨ warning ∈ messages :=
    mem_addAllUnique
  rw [mem_warnings_onVerdict, before, or_right_comm, ← mem_warnings_onVerdict]

end Advisories

variable {α : Type}

/-- The later verdict warns of the messages too, of each of them once, and is the same in all
else. -/
structure FinalVerdict.AlsoWarnsOf (earlier : FinalVerdict α) (messages : List String)
    (later : FinalVerdict α) : Prop where
  same : later = { earlier with warnings := later.warnings }
  nodup : later.warnings.Nodup
  warnings : ∀ warning, warning ∈ later.warnings
    ↔ warning ∈ earlier.warnings ∨ warning ∈ messages

/-! ## Reports without a best fit -/

theorem Measurement.growth_withoutFit {report : RegressionReport α} (noFit : report.best = none) :
    (measured report).growth = .unknown := by
  show report.bestClass = .unknown
  unfold RegressionReport.bestClass
  rw [noFit]
  rfl

variable [Scalar α]

theorem Measurement.confidence?_withoutFit {report : RegressionReport α}
    (noFit : report.best = none) : (measured report).confidence? = none := by
  unfold confidence?
  rw [growth_withoutFit noFit]
  rfl

namespace Reconciliation

theorem measurementValid_withoutFit (thresholds : Thresholds α) {report : RegressionReport α}
    (noFit : report.best = none) : measurementValid thresholds report = false := by
  have isUnknown : report.bestClass = .unknown := Measurement.growth_withoutFit noFit
  unfold measurementValid
  rw [isUnknown]
  rfl

theorem validate_withoutFit (thresholds : Thresholds α) (structural : StructuralVerdict α)
    {report : RegressionReport α} (noFit : report.best = none) (level : AgreementLevel) :
    validate thresholds structural (some report) level
      = validate thresholds structural none level := by
  unfold validate
  rw [Option.any_some, measurementValid_withoutFit thresholds noFit, Option.any_none]

section Verdicts

variable (thresholds : Thresholds α) (includeCases : Bool) (structural : StructuralVerdict α)
  (stageWarnings : List String)

/-- What a verdict of this class and agreement advises after the stages and a report. -/
def advised (time : VerdictClass) (level : AgreementLevel) (reportAdvisories : List String) :
    Advisories :=
  ((Advisories.none.warnAll stageWarnings).warnAll reportAdvisories).onVerdict time level

/-- A report without a best fit leaves its mark on the advisories alone. -/
theorem verdict_measured_withoutFit {report : RegressionReport α} (noFit : report.best = none) :
    let unmeasured := verdict thresholds includeCases structural .skipped stageWarnings
    let advice :=
      advised stageWarnings unmeasured.time unmeasured.agreement report.advisories
    verdict thresholds includeCases structural (.measured report) stageWarnings =
      { unmeasured with
        recommendations := advice.recommendations
        warnings := advice.warnings } := by
  have sameGrowth : (Measurement.measured report).growth = (Measurement.skipped (α := α)).growth :=
    Measurement.growth_withoutFit noFit
  have sameConfidence :
      (Measurement.measured report).confidence? = (Measurement.skipped (α := α)).confidence? :=
    Measurement.confidence?_withoutFit noFit
  simp only [verdict, sameGrowth, sameConfidence, Measurement.report?,
    validate_withoutFit thresholds structural noFit]
  rfl

/-- Sampling that was skipped and sampling that failed lead to the same verdict.  A report without
a best fit leads to it too, but for the warnings: they are those of the other verdict and the
advisories of the report, each of them once. -/
theorem verdict_withoutFit :
    verdict thresholds includeCases structural .failed stageWarnings
        = verdict thresholds includeCases structural .skipped stageWarnings ∧
      ∀ report : RegressionReport α, report.best = none →
        (verdict thresholds includeCases structural .skipped stageWarnings).AlsoWarnsOf
          report.advisories
          (verdict thresholds includeCases structural (.measured report) stageWarnings) := by
  refine ⟨rfl, fun report noFit => ?_⟩
  let unmeasured := verdict thresholds includeCases structural .skipped stageWarnings
  let measured := verdict thresholds includeCases structural (.measured report) stageWarnings
  let advice := advised stageWarnings unmeasured.time unmeasured.agreement report.advisories
  have isMeasured : measured = { unmeasured with
      recommendations := advice.recommendations
      warnings := advice.warnings } :=
    verdict_measured_withoutFit thresholds includeCases structural stageWarnings noFit
  have sameRecommendations : advice.recommendations = unmeasured.recommendations :=
    Advisories.recommendations_onVerdict unmeasured.time unmeasured.agreement rfl
  rw [sameRecommendations] at isMeasured
  have isAdvice : measured.warnings = advice.warnings := congrArg FinalVerdict.warnings isMeasured
  constructor
  case same => exact isAdvice ▸ isMeasured
  case nodup =>
    have before : ((Advisories.none.warnAll stageWarnings).warnAll report.advisories).Nodup :=
      (Advisories.none_nodup.warnAll stageWarnings).warnAll report.advisories
    rw [isAdvice]
    exact (before.onVerdict unmeasured.time unmeasured.agreement).warnings
  case warnings =>
    intro warning
    rw [isAdvice]
    exact Advisories.mem_warnings_warnAll_onVerdict unmeasured.time unmeasured.agreement

/-- A report that repeats a warning of an earlier stage. -/
theorem verdict_withoutFit_repeated :
    let structural : StructuralVerdict Float :=
      { StructuralVerdict.ofNothing default with time := .exponential, treeClass := .exponential }
    let report : RegressionReport Float :=
      ⟨none, [], ⟨0.0, [], 1.0⟩, 7, ["no fit", "coarse estimate", "no fit"]⟩
    let unmeasured := verdict .standard true structural .skipped ["coarse estimate"]
    let measured := verdict .standard true structural (.measured report) ["coarse estimate"]
    report.best = none ∧ unmeasured.AlsoWarnsOf report.advisories measured ∧
      measured.warnings =
        ["coarse estimate", "no fit", "O(2^n) growth becomes impractical beyond small inputs"] ∧
      "no fit" ∈ measured.warnings := by
  intro structural report unmeasured measured
  obtain ⟨_, withoutFit⟩ := verdict_withoutFit .standard true structural ["coarse estimate"]
  have also : unmeasured.AlsoWarnsOf report.advisories measured := withoutFit report rfl
  have isAdvised : "no fit" ∈ report.advisories := List.mem_cons_self
  exact ⟨rfl, also, by decide, (also.warnings "no fit").mpr (Or.inr isAdvised)⟩

end Verdicts

end Reconciliation

end GrowthEstimate
