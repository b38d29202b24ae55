import GrowthEstimate.Proofs.Number.Interval
import GrowthEstimate.Proofs.Verdict.Coherence
import GrowthEstimate.Verdict.Opinion

/-!
Contract: what merging opinions does to a finished verdict.

Owns: whether an opinion is adopted and what follows from it, opinions without a class,
well-formed verdicts, the parts that merging keeps or only extends, and the induction over
opinions merged in turn.

Does **not** own: that the verdicts of runs are well-formed, which `Proofs.Analysis.Confidence`
proves.

The cases of a verdict are its one part that merging neither keeps in step with the class
nor drops: an adopted class leaves the cases of the class before it.
-/

set_option autoImplicit false

namespace GrowthEstimate

open Thresholds (inUnit)
open UnitArithmetic

/-! ## Messages without repetition -/

theorem prefix_addUnique (messages : List String) (message : String) :
    messages <+: addUnique messages message := by
  unfold addUnique
  split
  · exact List.prefix_rfl
  · exact List.prefix_append messages [message]

theorem nodup_addUnique {messages : List String} (nodup : messages.Nodup) (message : String) :
    (addUnique messages message).Nodup := by
  unfold addUnique
  split
  · exact nodup
  · next isNew =>
    have notMember : message ∉ messages := by simpa using isNew
    rw [← List.concat_eq_append]
    exact nodup.concat notMember

theorem nodup_addAllUnique {messages : List String} (nodup : messages.Nodup)
    (more : List String) : (addAllUnique messages more).Nodup :=
  List.foldlRecOn (motive := List.Nodup) more _ nodup
    fun _ stillNodup message _ => nodup_addUnique stillNodup message

namespace Advisories

/-- No message is repeated. -/
structure Nodup (advisories : Advisories) : Prop where
  recommendations : advisories.recommendations.Nodup
  warnings : advisories.warnings.Nodup

theorem none_nodup : none.Nodup :=
  ⟨List.nodup_nil, List.nodup_nil⟩

variable {advisories : Advisories}

theorem Nodup.recommend (nodup : advisories.Nodup) (message : String) :
    (advisories.recommend message).Nodup :=
  ⟨nodup_addUnique nodup.recommendations message, nodup.warnings⟩

theorem Nodup.warn (nodup : advisories.Nodup) (message : String) :
    (advisories.warn message).Nodup :=
  ⟨nodup.recommendations, nodup_addUnique nodup.warnings message⟩

theorem Nodup.warnAll (nodup : advisories.Nodup) (messages : List String) :
    (advisories.warnAll messages).Nodup :=
  ⟨nodup.recommendations, nodup_addAllUnique nodup.warnings messages⟩

theorem Nodup.onAgreement (nodup : advisories.Nodup) (time : VerdictClass)
    (level : AgreementLevel) : (advisories.onAgreement time level).Nodup := by
  cases level with
  | high | medium => exact nodup
  | low | conflict => exact (nodup.warn _).recommend _

theorem Nodup.onGrowth (nodup : advisories.Nodup) (upper : GrowthClass) :
    (advisories.onGrowth upper).Nodup := by
  unfold Advisories.onGrowth
  split_ifs
  · exact nodup.recommend _
  · exact (nodup.warn _).recommend _
  · exact (nodup.warn _).recommend _
  · exact nodup

theorem Nodup.onVerdict (nodup : advisories.Nodup) (time : VerdictClass)
    (level : AgreementLevel) : (advisories.onVerdict time level).Nodup :=
  (nodup.onAgreement time level).onGrowth time.upper

end Advisories

namespace FinalVerdict

/-! ## Adoption -/

section Adoption

variable {α : Type} [Scalar α] (verdict : FinalVerdict α) (opinion : Opinion α)
  (policy : MergePolicy α)

/-- Whether the verdict takes over the class of the opinion. -/
def adopts : Bool :=
  let confidence := Scalar.clampUnit opinion.confidence
  match policy with
  | .keepCore => false
  | .preferExternal threshold =>
      Scalar.le threshold confidence && Scalar.lt verdict.confidence confidence
  | .average => Scalar.lt verdict.confidence confidence && opinion.time.isKnown

/-- The confidence is that of the opinion or its average with that of the verdict. -/
def Offers (confidence : α) : Prop :=
  confidence = Scalar.clampUnit opinion.confidence
    ∨ confidence = (verdict.confidence + Scalar.clampUnit opinion.confidence) / 2.0

/-- An opinion that is not adopted changes at most the confidence. -/
theorem settle_cases :
    (verdict.adopts opinion policy = true ∧ ∃ confidence, verdict.Offers opinion confidence ∧
        verdict.settle opinion policy = verdict.adopt opinion confidence)
      ∨ verdict.adopts opinion policy = false ∧ (verdict.settle opinion policy = verdict
        ∨ ∃ confidence, verdict.Offers opinion confidence ∧
          verdict.settle opinion policy = verdict.withConfidence confidence) := by
  cases policy with
  | keepCore => exact Or.inr ⟨rfl, Or.inl rfl⟩
  | preferExternal threshold =>
      unfold adopts settle
      simp only
      split
      · next adopted => exact Or.inl ⟨adopted, _, Or.inl rfl, rfl⟩
      · next kept => exact Or.inr ⟨by simpa using kept, Or.inl rfl⟩
  | average =>
      unfold adopts settle
      simp only
      split
      · next adopted => exact Or.inl ⟨adopted, _, Or.inr rfl, rfl⟩
      · next kept => exact Or.inr ⟨by simpa using kept, Or.inr ⟨_, Or.inr rfl, rfl⟩⟩

end Adoption

/-! ## Cases -/

section Cases

variable {α : Type}

/-- The bounds of the verdict are the best and the worst of its cases, if it has cases, and
its class is that of the average. -/
def CasesConsistent (verdict : FinalVerdict α) : Prop :=
  ∀ split, verdict.cases = some split →
    verdict.lowerBound = split.best ∧ verdict.upperBound = split.worst
      ∧ verdict.time = .exact split.average

theorem Coherent.casesConsistent {labels : List GrowthClass} {conflictSteps : Nat}
    {verdict : FinalVerdict α} (coherent : verdict.Coherent labels conflictSteps) :
    verdict.CasesConsistent := by
  intro split isSplit
  obtain ⟨_, _, time, lowerBound, upperBound⟩ := coherent.cases split isSplit
  exact ⟨lowerBound, upperBound, time⟩

theorem adopt_casesConsistent_iff {verdict : FinalVerdict α} {opinion : Opinion α}
    {confidence : α} : (verdict.adopt opinion confidence).CasesConsistent ↔
      ∀ split, verdict.cases = some split → split = .uniform opinion.time := by
  refine forall₂_congr fun split _ => ?_
  constructor
  · rintro ⟨best, worst, average⟩
    have isAverage : opinion.time = split.average := VerdictClass.exact.inj average
    calc split
      _ = ⟨split.best, split.average, split.worst⟩ := rfl
      _ = .uniform opinion.time := by
          rw [← best, ← isAverage, ← worst]
          rfl
  · rintro rfl
    exact ⟨rfl, rfl, rfl⟩

variable [Scalar α]

/-- A merged verdict is consistent with its cases if it was before, or, where the opinion
is adopted, if there are no cases or all of them have the class of the opinion. -/
theorem merge_casesConsistent_iff (verdict : FinalVerdict α) (opinion : Opinion α)
    (policy : MergePolicy α) :
    (verdict.merge opinion policy).CasesConsistent ↔
      if verdict.adopts opinion policy then
        ∀ split, verdict.cases = some split → split = .uniform opinion.time
      else verdict.CasesConsistent := by
  change (verdict.settle opinion policy).CasesConsistent ↔ _
  rcases verdict.settle_cases opinion policy with
    ⟨adopted, confidence, _, isSettled⟩ | ⟨kept, isSettled | ⟨confidence, _, isSettled⟩⟩
  · rw [isSettled, if_pos adopted]
    exact adopt_casesConsistent_iff
  · rw [isSettled, kept]
    exact Iff.rfl
  · rw [isSettled, kept]
    exact Iff.rfl

/-- A linear verdict that adopts a quadratic class keeps its linear cases. -/
theorem merge_not_casesConsistent :
    let structural : StructuralVerdict Float :=
      { StructuralVerdict.ofNothing ⟨false, false, false, false, none⟩ with
        time := .linear
        treeClass := .linear
        confidence := 0.9 }
    let verdict := Reconciliation.verdict .standard true structural .skipped []
    verdict.CasesConsistent ∧
      ¬(verdict.merge ⟨"reviewer", .quadratic, 0.99, []⟩
        (.preferExternal 0.5)).CasesConsistent := by
  intro structural verdict
  have grounded : structural.Grounded :=
    ⟨rfl, fun _ isPattern => by contradiction, Or.inl rfl, fun _ isPrimary => by contradiction⟩
  refine ⟨(Reconciliation.verdict_coherent .standard true grounded .skipped []).casesConsistent,
    fun consistent => ?_⟩
  have adopted : (verdict.merge ⟨"reviewer", .quadratic, 0.99, []⟩
      (.preferExternal 0.5)).lowerBound = .quadratic := by
    decide +kernel
  have best := (consistent (.uniform .linear) (by decide +kernel)).1
  rw [adopted] at best
  contradiction

end Cases

/-! ## Opinions without a class -/

section MissingClass

variable {α : Type} {verdict : FinalVerdict α} {opinion : Opinion α}

/-- The later verdict says the same of time as the earlier one. -/
structure KeepsTime (earlier later : FinalVerdict α) : Prop where
  time : later.time = earlier.time
  lowerBound : later.lowerBound = earlier.lowerBound
  upperBound : later.upperBound = earlier.upperBound
  rangeLabel : later.rangeLabel = earlier.rangeLabel
  cases : later.cases = earlier.cases

@[refl] theorem KeepsTime.refl (verdict : FinalVerdict α) : verdict.KeepsTime verdict :=
  ⟨rfl, rfl, rfl, rfl, rfl⟩

/-- A verdict that adopts no class has lost the known one it had. -/
theorem not_keepsTime_adopt (missing : opinion.time = .unknown)
    (known : verdict.time.lower.isKnown = true) (confidence : α) :
    ¬verdict.KeepsTime (verdict.adopt opinion confidence) := by
  intro keeps
  have isUnknown : verdict.time = .exact .unknown := by
    rw [← keeps.time, ← missing]
    rfl
  rw [isUnknown] at known
  contradiction

variable [Scalar α]

/-- An opinion without a class is adopted by no policy but the one that prefers opinions. -/
theorem adopts_of_missing (missing : opinion.time = .unknown) (policy : MergePolicy α) :
    verdict.adopts opinion policy = true ↔
      ∃ threshold, policy = .preferExternal threshold
        ∧ Scalar.le threshold (Scalar.clampUnit opinion.confidence) = true
        ∧ Scalar.lt verdict.confidence (Scalar.clampUnit opinion.confidence) = true := by
  cases policy with
  | keepCore => simp [adopts]
  | preferExternal threshold => simp [adopts]
  | average => simp [adopts, missing, GrowthClass.isKnown]

/-- An opinion without a class leaves all that a verdict with a known class says of time,
unless the policy prefers opinions and the confidence of this one reaches the threshold and
exceeds that of the verdict. -/
theorem merge_keepsTime_iff (missing : opinion.time = .unknown)
    (known : verdict.time.lower.isKnown = true) (policy : MergePolicy α) :
    verdict.KeepsTime (verdict.merge opinion policy) ↔
      ¬∃ threshold, policy = .preferExternal threshold
        ∧ Scalar.le threshold (Scalar.clampUnit opinion.confidence) = true
        ∧ Scalar.lt verdict.confidence (Scalar.clampUnit opinion.confidence) = true := by
  -- merging adds to a settled verdict only a warning and the opinion itself
  have onlySettled : verdict.KeepsTime (verdict.merge opinion policy) ↔
      verdict.KeepsTime (verdict.settle opinion policy) :=
    ⟨fun keeps => { keeps with }, fun keeps => { keeps with }⟩
  rw [onlySettled, ← adopts_of_missing missing policy, Bool.not_eq_true]
  rcases verdict.settle_cases opinion policy with
    ⟨adopted, confidence, _, isSettled⟩ | ⟨kept, isSettled | ⟨confidence, _, isSettled⟩⟩
  · rw [isSettled, adopted]
    exact iff_of_false (not_keepsTime_adopt missing known confidence) (by decide)
  · rw [isSettled]
    exact iff_of_true (KeepsTime.refl verdict) kept
  · rw [isSettled]
    exact iff_of_true { KeepsTime.refl verdict with } kept

/-- The verdict on a linear structure that was not measured. -/
def linearVerdict : FinalVerdict Float :=
  Reconciliation.verdict .standard true
    { StructuralVerdict.ofNothing ⟨false, false, false, false, none⟩ with
      time := .linear
      treeClass := .linear
      confidence := 0.9 }
    .skipped []

/-- Averaged with a confident opinion without a class, a linear verdict stays linear. -/
theorem merge_keepsTime_average :
    linearVerdict.time.lower.isKnown = true ∧
      linearVerdict.KeepsTime (linearVerdict.merge ⟨"reviewer", .unknown, 0.99, []⟩ .average) := by
  have known : linearVerdict.time.lower.isKnown = true := by decide +kernel
  refine ⟨known, (merge_keepsTime_iff rfl known .average).mpr ?_⟩
  rintro ⟨threshold, isPreferred, _⟩
  contradiction

/-- The same verdict loses its class to the same opinion if opinions are preferred. -/
theorem merge_not_keepsTime :
    linearVerdict.time.lower.isKnown = true ∧
      ¬linearVerdict.KeepsTime
        (linearVerdict.merge ⟨"reviewer", .unknown, 0.99, []⟩ (.preferExternal 0.5)) := by
  refine ⟨by decide +kernel, fun keeps => ?_⟩
  have adopted : (linearVerdict.merge ⟨"reviewer", .unknown, 0.99, []⟩
      (.preferExternal 0.5)).lowerBound = .unknown := by
    decide +kernel
  have linear : linearVerdict.lowerBound = .linear := by decide +kernel
  rw [← keeps.lowerBound, adopted] at linear
  contradiction

end MissingClass

/-! ## Merging in turn -/

section Turns

variable {α : Type}

/-- What holds of a finished verdict however many opinions were merged into it. -/
structure WellFormed [Scalar α] (verdict : FinalVerdict α) : Prop where
  warnings : verdict.warnings.Nodup
  recommendations : verdict.recommendations.Nodup
  confidence : inUnit verdict.confidence = true
  combined : verdict.stages.combined = verdict.confidence
  label : verdict.rangeLabel = if verdict.time.isRange then some verdict.time.label else none
  bounds : verdict.lowerBound ≤ verdict.upperBound

/-- The later verdict has the messages of the earlier one, in their order, before all
others, and the parts of it that no opinion is about. -/
structure Extends (earlier later : FinalVerdict α) : Prop where
  warnings : earlier.warnings <+: later.warnings
  recommendations : earlier.recommendations <+: later.recommendations
  space : later.space = earlier.space
  agreement : later.agreement = earlier.agreement
  validation : later.validation = earlier.validation
  structural : later.stages.structural = earlier.stages.structural
  pattern : later.stages.pattern = earlier.stages.pattern
  regression : later.stages.regression = earlier.stages.regression

@[refl] theorem Extends.refl (verdict : FinalVerdict α) : verdict.Extends verdict :=
  ⟨List.prefix_rfl, List.prefix_rfl, rfl, rfl, rfl, rfl, rfl, rfl⟩

theorem Extends.trans {first second third : FinalVerdict α} (former : first.Extends second)
    (latter : second.Extends third) : first.Extends third where
  warnings := former.warnings.trans latter.warnings
  recommendations := former.recommendations.trans latter.recommendations
  space := latter.space.trans former.space
  agreement := latter.agreement.trans former.agreement
  validation := latter.validation.trans former.validation
  structural := latter.structural.trans former.structural
  pattern := latter.pattern.trans former.pattern
  regression := latter.regression.trans former.regression

variable {verdict : FinalVerdict α} {opinion : Opinion α} {confidence : α}

theorem extends_adopt : verdict.Extends (verdict.adopt opinion confidence) :=
  { Extends.refl verdict with recommendations := prefix_addUnique verdict.recommendations _ }

theorem extends_withConfidence : verdict.Extends (verdict.withConfidence confidence) :=
  { Extends.refl verdict with }

variable [Scalar α]

theorem WellFormed.adopt (wellFormed : verdict.WellFormed)
    (isUnit : inUnit confidence = true) : (verdict.adopt opinion confidence).WellFormed where
  warnings := wellFormed.warnings
  recommendations := nodup_addUnique wellFormed.recommendations _
  confidence := isUnit
  combined := rfl
  label := rfl
  bounds := le_refl opinion.time

theorem WellFormed.withConfidence (wellFormed : verdict.WellFormed)
    (isUnit : inUnit confidence = true) : (verdict.withConfidence confidence).WellFormed :=
  { wellFormed with confidence := isUnit, combined := rfl }

theorem extends_settle (policy : MergePolicy α) :
    verdict.Extends (verdict.settle opinion policy) := by
  rcases verdict.settle_cases opinion policy with
    ⟨_, confidence, _, isSettled⟩ | ⟨_, isSettled | ⟨confidence, _, isSettled⟩⟩
  · rw [isSettled]
    exact extends_adopt
  · rw [isSettled]
  · rw [isSettled]
    exact extends_withConfidence

theorem extends_merge (policy : MergePolicy α) :
    verdict.Extends (verdict.merge opinion policy) := by
  have settled : verdict.Extends (verdict.settle opinion policy) := extends_settle policy
  refine { settled with warnings := ?_ }
  unfold merge
  simp only
  split
  · exact settled.warnings
  · exact settled.warnings.trans (prefix_addUnique _ _)

/-- Opinions merged one after another, each under its own policy. -/
def mergeAll (verdict : FinalVerdict α) (merges : List (Opinion α × MergePolicy α)) :
    FinalVerdict α :=
  merges.foldl (fun current (opinion, policy) => current.merge opinion policy) verdict

theorem mergeAll_append (earlier later : List (Opinion α × MergePolicy α)) :
    verdict.mergeAll (earlier ++ later) = (verdict.mergeAll earlier).mergeAll later :=
  List.foldl_append

theorem extends_mergeAll (verdict : FinalVerdict α)
    (merges : List (Opinion α × MergePolicy α)) :
    verdict.Extends (verdict.mergeAll merges) := by
  induction merges generalizing verdict with
  | nil => exact Extends.refl verdict
  | cons merge rest inductionHypothesis =>
      exact (extends_merge merge.2).trans (inductionHypothesis (verdict.merge merge.1 merge.2))

theorem mergeAll_opinion (verdict : FinalVerdict α)
    (merges : List (Opinion α × MergePolicy α)) :
    (verdict.mergeAll merges).opinion =
      (merges.getLast?.map Prod.fst).or verdict.opinion := by
  induction merges using List.reverseRecOn with
  | nil => rfl
  | append_singleton earlier last _ =>
      rw [mergeAll_append, List.getLast?_concat]
      rfl

variable [UnitArithmetic α]

theorem offered_inUnit (wellFormed : verdict.WellFormed)
    (isDefined : Scalar.isNaN opinion.confidence = false)
    (offered : verdict.Offers opinion confidence) : inUnit confidence = true := by
  have clamped : inUnit (Scalar.clampUnit opinion.confidence) = true :=
    clampUnit_inUnit isDefined
  rcases offered with rfl | rfl
  · exact clamped
  · exact average_inUnit wellFormed.confidence clamped

theorem WellFormed.settle (wellFormed : verdict.WellFormed)
    (isDefined : Scalar.isNaN opinion.confidence = false) (policy : MergePolicy α) :
    (verdict.settle opinion policy).WellFormed := by
  rcases verdict.settle_cases opinion policy with
    ⟨_, confidence, offered, isSettled⟩ | ⟨_, isSettled | ⟨confidence, offered, isSettled⟩⟩
  · rw [isSettled]
    exact wellFormed.adopt (offered_inUnit wellFormed isDefined offered)
  · rw [isSettled]
    exact wellFormed
  · rw [isSettled]
    exact wellFormed.withConfidence (offered_inUnit wellFormed isDefined offered)

theorem WellFormed.merge (wellFormed : verdict.WellFormed)
    (isDefined : Scalar.isNaN opinion.confidence = false) (policy : MergePolicy α) :
    (verdict.merge opinion policy).WellFormed := by
  have settled := wellFormed.settle isDefined policy
  refine { settled with warnings := ?_ }
  unfold FinalVerdict.merge
  simp only
  split
  · exact settled.warnings
  · exact nodup_addUnique settled.warnings _

theorem WellFormed.mergeAll (wellFormed : verdict.WellFormed)
    {merges : List (Opinion α × MergePolicy α)}
    (areDefined : ∀ merge ∈ merges, Scalar.isNaN merge.1.confidence = false) :
    (verdict.mergeAll merges).WellFormed := by
  induction merges generalizing verdict with
  | nil => exact wellFormed
  | cons merge rest inductionHypothesis =>
      have merged := wellFormed.merge (areDefined merge List.mem_cons_self) merge.2
      exact inductionHypothesis merged fun other isOther =>
        areDefined other (List.mem_cons_of_mem merge isOther)

end Turns

end FinalVerdict

end GrowthEstimate
