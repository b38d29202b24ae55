import GrowthEstimate.Proofs.Number.Order
import GrowthEstimate.Proofs.Regression.Report
import GrowthEstimate.Proofs.Structure.Verdict
import GrowthEstimate.Proofs.Verdict.Coherence

/-!
Contract: the confidence of a reconciled verdict.

Owns: that the confidence of a regression, of a measurement, and of the class that is decided at
each level of agreement lies in the unit interval; the signals that there are, the first strongest
of them, and weighed decisions, which pair the class that is reported with a confidence that its
signal allows.

Does **not** own: the class by itself, which `Proofs.Verdict.Coherence` accounts for, and opinions
that are merged later.
-/

set_option autoImplicit false

namespace GrowthEstimate

open Thresholds (inUnit)

/-! ## Confidences in the unit interval

Accepted thresholds lie in the unit interval themselves.  The confidence of a fit does so
whatever was measured, because an undefined one counts as none. -/

section Confidences

open UnitArithmetic

variable {α : Type} [Scalar α]

/-! ### Thresholds -/

theorem Thresholds.unitFields_inUnit {thresholds : Thresholds α}
    (accepted : thresholds.fault? = none) :
    ∀ field ∈ thresholds.unitFields, inUnit field.2 = true := by
  unfold fault? at accepted
  split at accepted
  · contradiction
  · next noneOutside =>
    intro field isField
    simpa using List.find?_eq_none.mp noneOutside field isField

/-! ### Regression -/

section Measured

variable [UnitArithmetic α]

theorem Fit.confidenceOf_inUnit (rSquared : α) (count : Nat) (standardError coefficient : α) :
    inUnit (confidenceOf rSquared count standardError coefficient) = true := by
  unfold confidenceOf
  extract_lets relativeError confidence
  split
  · exact zero_inUnit
  · next isDefined => exact clampUnit_inUnit (by simpa using isDefined)

theorem RegressionReport.confidence_inUnit {samples : List (CostSample α)}
    {report : RegressionReport α} (fitted : ofSamples samples = .ok report) :
    inUnit report.confidence = true := by
  unfold ofSamples at fitted
  split at fitted
  · contradiction
  · rw [← Except.ok.inj fitted, confidence]
    cases selected : select (GrowthClass.canonical.map fun growth =>
        Fit.ofSamples growth (CostSample.sorted samples)) with
    | none => exact zero_inUnit
    | some best =>
        obtain ⟨growth, _, rfl⟩ := List.mem_map.mp (select_mem selected)
        exact Fit.confidenceOf_inUnit _ _ _ _

theorem Measurement.confidence?_inUnit {measurement : Measurement α}
    (reports : ∀ report, measurement.report? = some report → inUnit report.confidence = true)
    {confidence : α} (isConfidence : measurement.confidence? = some confidence) :
    inUnit confidence = true := by
  unfold confidence? at isConfidence
  split at isConfidence
  · rw [← Option.some.inj isConfidence]
    cases found : measurement.report? with
    | none => exact zero_inUnit
    | some report => exact reports report found
  · contradiction

end Measured

/-! ### Reconciliation -/

namespace Reconciliation

variable {thresholds : Thresholds α} {structural : StructuralVerdict α}

theorem strongest_inUnit (structuralInUnit : structural.InUnit) {measured : Option (Signal α)}
    (measuredInUnit : ∀ signal, measured = some signal → inUnit signal.2 = true) :
    inUnit (strongest structural measured).2 = true := by
  rcases strongest_mem structural measured with isStructural | ⟨_, isPattern⟩ | isMeasured
  · rw [isStructural]
    exact structuralInUnit.confidence
  · exact structuralInUnit.pattern _ isPattern
  · exact measuredInUnit _ isMeasured

variable [UnitArithmetic α]

theorem decide_inUnit (accepted : thresholds.fault? = none)
    (structuralInUnit : structural.InUnit) {measured : Option (Signal α)}
    (measuredInUnit : ∀ signal, measured = some signal → inUnit signal.2 = true)
    (level : AgreementLevel) (compared : List GrowthClass) :
    inUnit (decide thresholds level compared structural measured).2 = true := by
  have fields := Thresholds.unitFields_inUnit accepted
  simp only [Thresholds.unitFields, List.forall_mem_cons] at fields
  obtain ⟨highCap, mediumDiscount, lowCap, onConflict, _⟩ := fields
  cases level with
  | high =>
      refine smaller_inUnit (smaller_inUnit structuralInUnit.confidence ?_) highCap
      cases measured with
      | none => exact structuralInUnit.confidence
      | some signal => exact measuredInUnit signal rfl
  | medium => exact mul_inUnit (strongest_inUnit structuralInUnit measuredInUnit) mediumDiscount
  | low =>
      refine smaller_inUnit ?_ lowCap
      cases measured with
      | none => exact structuralInUnit.confidence
      | some signal => exact measuredInUnit signal rfl
  | conflict => exact onConflict

theorem verdict_inUnit (accepted : thresholds.fault? = none) (includeCases : Bool)
    (structuralInUnit : structural.InUnit) {measurement : Measurement α}
    (reports : ∀ report, measurement.report? = some report → inUnit report.confidence = true)
    (stageWarnings : List String) :
    inUnit (verdict thresholds includeCases structural measurement stageWarnings).confidence =
      true := by
  refine decide_inUnit accepted structuralInUnit ?_ _ _
  intro signal isSignal
  obtain ⟨confidence, isConfidence, rfl⟩ := Option.map_eq_some_iff.mp isSignal
  exact Measurement.confidence?_inUnit reports isConfidence

end Reconciliation

end Confidences

/-! ## Weighed decisions

The strongest signal is found by a fold in which an equal never replaces an earlier one.
The invariant of the fold is that the signal at hand is the first of greatest confidence
among those that were seen. -/

/-- The confidences of the stages that have one. -/
def StageConfidence.known {α : Type} (stages : StageConfidence α) : List α :=
  stages.structural :: (stages.pattern.toList ++ stages.regression.toList)

/-- The class and the confidence that the matches contribute. -/
def StructuralVerdict.patternSignal? {α : Type} (structural : StructuralVerdict α) :
    Option (Reconciliation.Signal α) :=
  structural.patternClass.bind fun growth =>
    structural.patternConfidence.map fun confidence => (growth, confidence)

/-- The class and the confidence of a match. -/
def AlgorithmMatch.signal {α : Type} (found : AlgorithmMatch α) : Reconciliation.Signal α :=
  (found.time, found.confidence)

namespace Reconciliation

variable {α : Type} [Scalar α]

/-! ### The first strongest signal -/

omit [Scalar α] in
/-- The signals that there are, of the structure, of the matches and of measurement, in this
order. -/
def present (structural : StructuralVerdict α) (measured : Option (Signal α)) :
    List (Signal α) :=
  [some (structural.time, structural.confidence), structural.patternSignal?,
    measured].reduceOption

omit [Scalar α] in
theorem present_eq (structural : StructuralVerdict α) (measured : Option (Signal α)) :
    present structural measured
      = (signals structural measured).1 :: (signals structural measured).2 := by
  unfold present signals StructuralVerdict.patternSignal?
  cases structural.patternClass <;> cases structural.patternConfidence <;> cases measured <;> rfl

/-- The signal is one of those listed.  Those before it are less confident and those after it
are not more confident. -/
def FirstStrongest (listed : List (Signal α)) (winner : Signal α) : Prop :=
  ∃ earlier later, listed = earlier ++ winner :: later
    ∧ (∀ signal ∈ earlier, Scalar.lt signal.2 winner.2 = true)
    ∧ ∀ signal ∈ later, Scalar.le signal.2 winner.2 = true

namespace FirstStrongest

variable {listed : List (Signal α)} {incumbent challenger winner : Signal α}

theorem mem (first : FirstStrongest listed winner) : winner ∈ listed := by
  obtain ⟨earlier, later, rfl, _, _⟩ := first
  exact List.mem_append_right earlier List.mem_cons_self

/-- A signal may stand in front of those it is weaker than. -/
theorem cons_of_lt (first : FirstStrongest listed winner)
    (weaker : Scalar.lt incumbent.2 winner.2 = true) :
    FirstStrongest (incumbent :: listed) winner := by
  obtain ⟨earlier, later, rfl, isBefore, isAfter⟩ := first
  exact ⟨incumbent :: earlier, later, rfl, List.forall_mem_cons.mpr ⟨weaker, isBefore⟩, isAfter⟩

variable [UnitOrder α]

theorem le_winner (first : FirstStrongest listed winner)
    (units : ∀ signal ∈ listed, inUnit signal.2 = true) {signal : Signal α}
    (isListed : signal ∈ listed) : Scalar.le signal.2 winner.2 = true := by
  have winnerUnit := units winner first.mem
  obtain ⟨earlier, later, rfl, isBefore, isAfter⟩ := first
  rcases List.mem_append.mp isListed with isEarlier | isRest
  · exact UnitOrder.le_of_lt (units signal isListed) winnerUnit (isBefore signal isEarlier)
  · rcases List.mem_cons.mp isRest with rfl | isLater
    · exact UnitOrder.le_refl winnerUnit
    · exact isAfter signal isLater

/-- A signal that does not replace the first one changes nothing. -/
theorem insert_of_le (first : FirstStrongest (incumbent :: listed) winner)
    (units : ∀ signal ∈ incumbent :: challenger :: listed, inUnit signal.2 = true)
    (notStronger : Scalar.le challenger.2 incumbent.2 = true) :
    FirstStrongest (incumbent :: challenger :: listed) winner := by
  obtain ⟨earlier, later, isSplit, isBefore, isAfter⟩ := first
  cases earlier with
  | nil =>
      obtain ⟨rfl, rfl⟩ := List.cons.inj isSplit
      exact ⟨[], challenger :: listed, rfl, isBefore,
        List.forall_mem_cons.mpr ⟨notStronger, isAfter⟩⟩
  | cons head rest =>
      obtain ⟨rfl, rfl⟩ := List.cons.inj isSplit
      obtain ⟨incumbentWeaker, restWeaker⟩ := List.forall_mem_cons.mp isBefore
      have challengerWeaker : Scalar.lt challenger.2 winner.2 = true :=
        UnitOrder.lt_of_le_of_lt (units challenger (by simp)) (units incumbent (by simp))
          (units winner (by simp)) notStronger incumbentWeaker
      exact ⟨incumbent :: challenger :: rest, later, rfl,
        List.forall_mem_cons.mpr ⟨incumbentWeaker,
          List.forall_mem_cons.mpr ⟨challengerWeaker, restWeaker⟩⟩, isAfter⟩

end FirstStrongest

theorem foldl_challenge_firstStrongest [UnitOrder α] {incumbent : Signal α}
    {others : List (Signal α)}
    (units : ∀ signal ∈ incumbent :: others, inUnit signal.2 = true) :
    FirstStrongest (incumbent :: others) (others.foldl challenge incumbent) := by
  induction others generalizing incumbent with
  | nil => exact ⟨[], [], rfl, List.forall_mem_nil _, List.forall_mem_nil _⟩
  | cons challenger rest inductionHypothesis =>
      obtain ⟨incumbentUnit, othersUnit⟩ := List.forall_mem_cons.mp units
      obtain ⟨challengerUnit, restUnit⟩ := List.forall_mem_cons.mp othersUnit
      rw [List.foldl_cons, challenge]
      split
      · next notStronger =>
          have first := inductionHypothesis (List.forall_mem_cons.mpr ⟨incumbentUnit, restUnit⟩)
          exact first.insert_of_le units notStronger
      · next stronger =>
          have first := inductionHypothesis othersUnit
          have weaker : Scalar.lt incumbent.2 challenger.2 = true :=
            (UnitOrder.lt_iff_not_le incumbentUnit challengerUnit).mpr
              (Bool.eq_false_iff.mpr stronger)
          have winnerUnit := othersUnit _ first.mem
          refine first.cons_of_lt ?_
          rw [UnitOrder.lt_iff_not_le incumbentUnit winnerUnit]
          by_contra isLE
          rw [Bool.not_eq_false] at isLE
          have back := UnitOrder.le_trans challengerUnit winnerUnit incumbentUnit
            (first.le_winner othersUnit List.mem_cons_self) isLE
          rw [(UnitOrder.lt_iff_not_le incumbentUnit challengerUnit).mp weaker] at back
          contradiction

/-- Matches challenge each other as their signals do. -/
theorem signal_foldl [UnitOrder α] {first : AlgorithmMatch α} {rest : List (AlgorithmMatch α)}
    (units : ∀ one ∈ first :: rest, inUnit one.confidence = true) :
    (rest.foldl (fun best found =>
      if Scalar.lt best.confidence found.confidence then found else best) first).signal =
      (rest.map AlgorithmMatch.signal).foldl challenge first.signal := by
  induction rest generalizing first with
  | nil => rfl
  | cons challenger rest inductionHypothesis =>
      obtain ⟨firstUnit, othersUnit⟩ := List.forall_mem_cons.mp units
      obtain ⟨challengerUnit, restUnit⟩ := List.forall_mem_cons.mp othersUnit
      have same : challenge first.signal challenger.signal =
          (if Scalar.lt first.confidence challenger.confidence then challenger
            else first).signal := by
        unfold challenge AlgorithmMatch.signal
        have stronger := UnitOrder.lt_iff_not_le firstUnit challengerUnit
        cases isLE : Scalar.le challenger.confidence first.confidence <;> simp [stronger, isLE]
      rw [List.foldl_cons, List.map_cons, List.foldl_cons, same]
      apply inductionHypothesis
      split
      · exact othersUnit
      · exact List.forall_mem_cons.mpr ⟨firstUnit, restUnit⟩

/-- The strongest of some matches is the first of greatest confidence. -/
theorem firstStrongest_of_strongest? [UnitOrder α] {found : List (AlgorithmMatch α)}
    (units : ∀ one ∈ found, inUnit one.confidence = true) {best : AlgorithmMatch α}
    (isBest : AlgorithmMatch.strongest? found = some best) :
    FirstStrongest (found.map AlgorithmMatch.signal) best.signal := by
  have signalUnits : ∀ signal ∈ found.map AlgorithmMatch.signal, inUnit signal.2 = true :=
    List.forall_mem_map.mpr units
  cases found with
  | nil => contradiction
  | cons first rest =>
      rw [← Option.some.inj isBest, signal_foldl units]
      exact foldl_challenge_firstStrongest signalUnits

/-! ### Weighed decisions -/

/-- The confidence is what the level of agreement makes of the signals, and the class is the
one of the signal that it was made of. -/
structure Weighed (thresholds : Thresholds α) (structural : StructuralVerdict α)
    (measured : Option (Signal α)) (level : AgreementLevel) (time : VerdictClass)
    (confidence : α) : Prop where
  high : level = .high → time = .exact structural.time ∧ ∃ regression, measured = some regression
    ∧ Scalar.IsLeastOf [structural.confidence, regression.2, thresholds.highConfidenceCap]
      confidence
  medium : level = .medium → ∃ winner, FirstStrongest (present structural measured) winner
    ∧ time = .exact winner.1 ∧ confidence = winner.2 * thresholds.mediumDiscount
  low : level = .low → Scalar.le confidence thresholds.lowConfidenceCap = true
    ∧ ∃ signal ∈ present structural measured, time = .exact signal.1
      ∧ Scalar.le confidence signal.2 = true
  conflict : level = .conflict → confidence = thresholds.conflictConfidence

section Deciding

variable {thresholds : Thresholds α} {structural : StructuralVerdict α}
  {measured : Option (Signal α)}

omit [Scalar α] in
theorem structural_mem_present :
    (structural.time, structural.confidence) ∈ present structural measured := by
  rw [present_eq]
  exact List.mem_cons_self

omit [Scalar α] in
theorem measured_mem_present {signal : Signal α} (isMeasured : measured = some signal) :
    signal ∈ present structural measured := by
  rw [present_eq, isMeasured]
  exact List.mem_cons_of_mem _ (List.mem_append_right _ (by simp))

theorem present_inUnit (structuralInUnit : structural.InUnit)
    (measuredInUnit : ∀ signal, measured = some signal → inUnit signal.2 = true) :
    ∀ signal ∈ present structural measured, inUnit signal.2 = true := by
  intro signal isPresent
  rw [present_eq] at isPresent
  rcases List.mem_cons.mp isPresent with rfl | isOther
  · exact structuralInUnit.confidence
  · rcases List.mem_append.mp isOther with isPattern | isMeasured
    · have isSignal := Option.mem_toList.mp isPattern
      split at isSignal
      · next hasConfidence =>
          rw [← Option.some.inj isSignal]
          exact structuralInUnit.pattern _ hasConfidence
      · contradiction
    · exact measuredInUnit signal (Option.mem_toList.mp isMeasured)

omit [Scalar α] in
/-- The confidences of the signals are those of the stages. -/
theorem map_snd_present
    (paired : structural.patternClass.isSome = structural.patternConfidence.isSome) :
    (present structural measured).map Prod.snd =
      structural.confidence
        :: (structural.patternConfidence.toList ++ (measured.map Prod.snd).toList) := by
  rw [present_eq, signals]
  cases isClass : structural.patternClass <;> cases isConfidence : structural.patternConfidence <;>
    cases measured <;> simp_all

variable [UnitOrder α]

theorem decide_weighed (accepted : thresholds.fault? = none)
    (structuralInUnit : structural.InUnit)
    (measuredInUnit : ∀ signal, measured = some signal → inUnit signal.2 = true)
    {level : AgreementLevel} (isMeasured : level = .high → measured.isSome = true)
    (compared : List GrowthClass) :
    Weighed thresholds structural measured level
      (decide thresholds level compared structural measured).1
      (decide thresholds level compared structural measured).2 := by
  have fields := Thresholds.unitFields_inUnit accepted
  simp only [Thresholds.unitFields, List.forall_mem_cons] at fields
  obtain ⟨highCap, _, lowCap, _⟩ := fields
  have units := present_inUnit structuralInUnit measuredInUnit
  constructor
  case high =>
    rintro rfl
    obtain ⟨regression, rfl⟩ := Option.isSome_iff_exists.mp (isMeasured rfl)
    have structuralUnit := structuralInUnit.confidence
    have regressionUnit := measuredInUnit regression rfl
    have leastOfTwo := UnitOrder.isLeastOf_append
      (UnitOrder.isLeastOf_singleton structuralUnit) (by simpa using structuralUnit) regressionUnit
    exact ⟨rfl, regression, rfl, UnitOrder.isLeastOf_append leastOfTwo
      (by simpa using ⟨structuralUnit, regressionUnit⟩) highCap⟩
  case medium =>
    rintro rfl
    rw [present_eq] at units
    refine ⟨strongest structural measured, ?_, rfl, rfl⟩
    rw [present_eq]
    exact foldl_challenge_firstStrongest units
  case low =>
    rintro rfl
    have isPresent : measured.getD (structural.time, structural.confidence) ∈
        present structural measured := by
      cases measured with
      | none => exact structural_mem_present
      | some signal => exact measured_mem_present rfl
    have isUnit := units _ isPresent
    exact ⟨UnitOrder.smaller_le_right isUnit lowCap,
      _, isPresent, rfl, UnitOrder.smaller_le_left isUnit lowCap⟩
  case conflict =>
    rintro rfl
    rfl

/-- Outside conflict no signal is outdone. -/
theorem Weighed.le_present {level : AgreementLevel} {time : VerdictClass} {confidence : α}
    (weighed : Weighed thresholds structural measured level time confidence)
    (accepted : thresholds.fault? = none)
    (units : ∀ signal ∈ present structural measured, inUnit signal.2 = true)
    (noConflict : level ≠ .conflict) :
    ∃ signal ∈ present structural measured, Scalar.le confidence signal.2 = true := by
  have fields := Thresholds.unitFields_inUnit accepted
  simp only [Thresholds.unitFields, List.forall_mem_cons] at fields
  cases level with
  | high =>
      obtain ⟨_, regression, _, isLeast⟩ := weighed.high rfl
      exact ⟨_, structural_mem_present, isLeast.2 _ List.mem_cons_self⟩
  | medium =>
      obtain ⟨winner, first, _, rfl⟩ := weighed.medium rfl
      exact ⟨winner, first.mem, UnitOrder.mul_le_left (units winner first.mem) fields.2.1⟩
  | low =>
      obtain ⟨_, signal, isPresent, _, atMost⟩ := weighed.low rfl
      exact ⟨signal, isPresent, atMost⟩
  | conflict => contradiction

end Deciding

/-! ### Reconciled verdicts -/

section Reconciled

variable {thresholds : Thresholds α} {structural : StructuralVerdict α}
  {measurement : Measurement α}

/-- The confidences of the stages of a verdict are those of the signals that it was reached
from. -/
theorem verdict_stages (thresholds : Thresholds α) (includeCases : Bool)
    (measurement : Measurement α) (stageWarnings : List String)
    (paired : structural.patternClass.isSome = structural.patternConfidence.isSome) :
    (verdict thresholds includeCases structural measurement stageWarnings).stages.known =
      (present structural measurement.signal?).map Prod.snd := by
  rw [map_snd_present paired, Measurement.signal?, Option.map_map]
  show structural.confidence :: (structural.patternConfidence.toList
    ++ measurement.confidence?.toList) = _
  simp [Function.comp_def]

variable [UnitOrder α]

theorem signal?_inUnit
    (reports : ∀ report, measurement.report? = some report → inUnit report.confidence = true) :
    ∀ signal, measurement.signal? = some signal → inUnit signal.2 = true := by
  intro signal isSignal
  obtain ⟨confidence, isConfidence, rfl⟩ := Option.map_eq_some_iff.mp isSignal
  exact Measurement.confidence?_inUnit reports isConfidence

theorem verdict_weighed (accepted : thresholds.fault? = none) (includeCases : Bool)
    (structuralInUnit : structural.InUnit)
    (reports : ∀ report, measurement.report? = some report → inUnit report.confidence = true)
    (stageWarnings : List String) :
    let final := verdict thresholds includeCases structural measurement stageWarnings
    Weighed thresholds structural measurement.signal? final.agreement final.time
      final.confidence := by
  apply decide_weighed accepted structuralInUnit (signal?_inUnit reports)
  intro isHigh
  have known := Agreement.isKnown_of_high isHigh
  simp [Measurement.signal?, Measurement.confidence?, known]

end Reconciled

end Reconciliation

end GrowthEstimate
