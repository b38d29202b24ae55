import GrowthEstimate.Proofs.Structure.Verdict
import GrowthEstimate.Proofs.Verdict.Agreement
import GrowthEstimate.Verdict.Final

/-!
Contract: the parts of a final verdict fit together.

Owns: coherent verdicts, and that reconciliation gives a coherent one at every level of
agreement.

Does **not** own: that a run reaches reconciliation (`Proofs.Analysis.Run`), and opinions merged
later.

Reconciliation needs one thing from the stages before, a grounded structural verdict.
Nothing is asked of the measurement, which may be missing or have no class.
-/

set_option autoImplicit false

namespace GrowthEstimate

/-! ## Coherent verdicts -/

/-- The class is a label and known. -/
def GrowthClass.IsKnownLabel (labels : List GrowthClass) (growth : GrowthClass) : Prop :=
  growth ∈ labels ∧ growth ≠ .unknown

/-- The two classes are labels, they enclose all known labels, and they are too far apart
to agree. -/
structure GrowthClass.Enclose (labels : List GrowthClass) (conflictSteps : Nat)
    (lower upper : GrowthClass) : Prop where
  lowerLabel : lower.IsKnownLabel labels
  upperLabel : upper.IsKnownLabel labels
  between : ∀ label ∈ labels, label ≠ .unknown → lower ≤ label ∧ label ≤ upper
  apart : ∃ distance, lower.distance? upper = some distance ∧ conflictSteps < distance

/-- The verdict class is one of the labels, or a range of labels in conflict. -/
def VerdictClass.RestsOn (labels : List GrowthClass) (conflictSteps : Nat) :
    VerdictClass → Prop
  | exact growth => growth.IsKnownLabel labels
  | range lower upper => GrowthClass.Enclose labels conflictSteps lower upper

/-- The parts of a verdict that was reached from labels fit together. -/
structure FinalVerdict.Coherent {α : Type} (labels : List GrowthClass)
    (conflictSteps : Nat) (verdict : FinalVerdict α) : Prop where
  rangeOnConflict : verdict.time.isRange = true ↔ verdict.agreement = .conflict
  rangeLabelled : verdict.time.isRange = true ↔ verdict.rangeLabel.isSome = true
  time : verdict.time.RestsOn labels conflictSteps
  bounds : verdict.lowerBound ≤ verdict.time.lower
    ∧ verdict.time.lower ≤ verdict.time.upper ∧ verdict.time.upper ≤ verdict.upperBound
  cases : ∀ split, verdict.cases = some split →
    split.best ≤ split.average ∧ split.average ≤ split.worst
      ∧ verdict.time = .exact split.average
      ∧ verdict.lowerBound = split.best ∧ verdict.upperBound = split.worst

/-! ## Cases -/

namespace CaseSplit

theorem ofShape_around {time : GrowthClass} (known : time.isKnown = true)
    (shape : CodeShape) : (ofShape time shape).Around time := by
  unfold ofShape
  split
  · split
    · exact ⟨GrowthClass.const_le known, rfl, le_refl time⟩
    · exact uniform_around time
  · exact uniform_around time
  · exact uniform_around time
  all_goals
    refine ⟨?_, rfl, ?_⟩
    · show (if shape.earlyExit then time.easier else time) ≤ time
      split
      · exact GrowthClass.easier_le time
      · exact le_refl time
    · show time ≤ if shape.unboundedLoop then time.harder else time
      split
      · exact GrowthClass.le_harder time
      · exact le_refl time

end CaseSplit

namespace Reconciliation

variable {α : Type}

/-- Only a single class has cases, and they are around it.  The split of the catalogue is
used for no other class than the one it belongs to. -/
theorem casesOf?_around {labels : List GrowthClass} {conflictSteps : Nat}
    {structural : StructuralVerdict α} (grounded : structural.Grounded) {time : VerdictClass}
    (rests : time.RestsOn labels conflictSteps) {includeCases : Bool} {split : CaseSplit}
    (found : casesOf? includeCases structural time = some split) :
    ∃ growth, time = .exact growth ∧ split.Around growth := by
  cases time with
  | range lower upper => contradiction
  | exact growth =>
      have known : growth.isKnown = true := GrowthClass.isKnown_iff.mpr rests.2
      refine ⟨growth, rfl, ?_⟩
      unfold casesOf? at found
      simp only at found
      split_ifs at found with wanted sameClass
      · rw [← Option.some.inj found, CaseSplit.ofVerdict]
        cases recorded : structural.primaryPattern.bind Catalogue.casesOf? with
        | none => exact CaseSplit.ofShape_around known structural.shape
        | some split =>
            obtain ⟨name, isPrimary, isRecorded⟩ := Option.bind_eq_some_iff.mp recorded
            exact grounded.cases name isPrimary growth sameClass split isRecorded
      · rw [← Option.some.inj found]
        exact CaseSplit.ofShape_around known structural.shape

/-! ## Conflict -/

/-- The ends of the labels in conflict enclose all of them. -/
theorem span_encloses {labels compared : List GrowthClass} {mediumSteps conflictSteps : Nat}
    (knownOnes : ∀ label, label ∈ compared ↔ label ∈ labels ∧ label.isKnown = true)
    (conflict : Agreement.levelWithin mediumSteps conflictSteps compared = .conflict) :
    GrowthClass.Enclose labels conflictSteps (compared.foldl .meet .unknown)
      (compared.foldl .join .unknown) := by
  have isLabel : ∀ label, label ∈ compared → label.IsKnownLabel labels := by
    intro label member
    obtain ⟨isLabel, known⟩ := (knownOnes label).mp member
    exact ⟨isLabel, GrowthClass.isKnown_iff.mp known⟩
  have above : ∀ label ∈ compared, compared.foldl .meet .unknown ≤ label :=
    fun label member =>
      GrowthClass.foldl_meet_le member ((knownOnes label).mp member).2 .unknown
  have below : ∀ label ∈ compared, label ≤ compared.foldl .join .unknown :=
    fun label member =>
      GrowthClass.le_foldl_join member ((knownOnes label).mp member).2 .unknown
  obtain ⟨left, leftMember, right, rightMember, distance, found, apart⟩ :=
    Agreement.exists_apart_of_conflict conflict
  have leftKnown : left ≠ .unknown := (isLabel left leftMember).2
  constructor
  case lowerLabel =>
    rcases GrowthClass.foldl_meet_mem compared .unknown with isStart | member
    · -- the meet is below a known label, so it is not the unknown start
      have same := (above left leftMember).1
      rw [isStart, ((knownOnes left).mp leftMember).2] at same
      contradiction
    · exact isLabel _ member
  case upperLabel =>
    rcases GrowthClass.foldl_join_mem compared .unknown with isStart | member
    · have same := (below left leftMember).1
      rw [isStart, ((knownOnes left).mp leftMember).2] at same
      contradiction
    · exact isLabel _ member
  case between =>
    intro label member known
    have isCompared := (knownOnes label).mpr ⟨member, GrowthClass.isKnown_iff.mpr known⟩
    exact ⟨above label isCompared, below label isCompared⟩
  case apart =>
    obtain ⟨wider, foundWider, isWider⟩ := GrowthClass.distance?_of_between found
      (above left leftMember) (above right rightMember)
      (below left leftMember) (below right rightMember)
    exact ⟨wider, foundWider, Nat.lt_of_lt_of_le apart isWider⟩

/-! ## The class at a level of agreement -/

section Deciding

variable [Scalar α]

/-- The strongest signal is one of those that there are. -/
theorem strongest_mem (structural : StructuralVerdict α) (measured : Option (Signal α)) :
    strongest structural measured = (structural.time, structural.confidence)
      ∨ (structural.patternClass = some (strongest structural measured).1
        ∧ structural.patternConfidence = some (strongest structural measured).2)
      ∨ measured = some (strongest structural measured) := by
  have chosen : strongest structural measured = (structural.time, structural.confidence)
      ∨ strongest structural measured ∈ (signals structural measured).2 := by
    apply foldl_mem_of_choosing
    intro incumbent challenger
    unfold challenge
    split
    · exact Or.inl rfl
    · exact Or.inr rfl
  refine chosen.imp_right fun isOther => ?_
  rcases List.mem_append.mp isOther with isPattern | isMeasured
  · left
    have isSignal := Option.mem_toList.mp isPattern
    split at isSignal
    · next growth confidence hasClass hasConfidence =>
        rw [hasClass, hasConfidence, ← Option.some.inj isSignal]
        exact ⟨rfl, rfl⟩
    · contradiction
  · right
    exact Option.mem_toList.mp isMeasured

variable {labels : List GrowthClass} {thresholds : Thresholds α}
  {structural : StructuralVerdict α} {measured : Option (Signal α)}

theorem decide_restsOn {level : AgreementLevel} {compared : List GrowthClass}
    (time : structural.time.IsKnownLabel labels)
    (pattern : ∀ growth, structural.patternClass = some growth → growth.IsKnownLabel labels)
    (measurement : ∀ signal, measured = some signal → signal.1.IsKnownLabel labels)
    (conflict : level = .conflict →
      (span compared).RestsOn labels thresholds.conflictSteps) :
    (decide thresholds level compared structural measured).1.RestsOn labels
      thresholds.conflictSteps := by
  cases level with
  | high => exact time
  | medium =>
      show (strongest structural measured).1.IsKnownLabel labels
      rcases strongest_mem structural measured with isStructural | ⟨isPattern, _⟩ | isMeasured
      · rw [isStructural]
        exact time
      · exact pattern _ isPattern
      · exact measurement _ isMeasured
  | low =>
      cases measured with
      | none => exact time
      | some signal => exact measurement signal rfl
  | conflict => exact conflict rfl

theorem decide_isRange (level : AgreementLevel) (compared : List GrowthClass) :
    (decide thresholds level compared structural measured).1.isRange = true
      ↔ level = .conflict := by
  cases level <;> simp [decide, span, VerdictClass.isRange]

end Deciding

/-! ## Reconciled verdicts -/

/-- The labels of the tree, of the strongest match and of the measurement, of those that
there are. -/
def labelsOf (structural : StructuralVerdict α) (report : Option (RegressionReport α)) :
    List GrowthClass :=
  structural.treeClass
    :: (structural.patternClass.toList ++ (report.map RegressionReport.bestClass).toList)

/-- What is compared is what is known among the labels. -/
theorem mem_compared {structural : StructuralVerdict α} {measurement : Measurement α}
    {label : GrowthClass} :
    label ∈ Agreement.labels structural.treeClass structural.patternClass measurement.growth
      ↔ label ∈ labelsOf structural measurement.report? ∧ label.isKnown = true := by
  rw [Agreement.mem_labels]
  refine and_congr_left fun known => ?_
  have isNotUnknown := GrowthClass.isKnown_iff.mp known
  unfold labelsOf Measurement.growth
  cases structural.patternClass <;> cases measurement.report? <;> simp [isNotUnknown]

theorem lower_le_upper {labels : List GrowthClass} {conflictSteps : Nat} {time : VerdictClass}
    (rests : time.RestsOn labels conflictSteps) : time.lower ≤ time.upper := by
  cases time with
  | exact growth => exact le_refl growth
  | range lower upper =>
      obtain ⟨isLabel, known⟩ := rests.lowerLabel
      exact (rests.between lower isLabel known).2

/-- The bounds of a verdict class enclose it. -/
theorem boundsOf_enclose {time : VerdictClass} {cases : Option CaseSplit}
    (around : ∀ split, cases = some split →
      ∃ growth, time = .exact growth ∧ split.Around growth) :
    (boundsOf time cases).1 ≤ time.lower ∧ time.upper ≤ (boundsOf time cases).2 := by
  cases cases with
  | none => exact ⟨le_refl time.lower, le_refl time.upper⟩
  | some split =>
      obtain ⟨growth, isExact, splitAround⟩ := around split rfl
      rw [isExact]
      exact ⟨splitAround.best, splitAround.worst⟩

/-- A verdict is coherent if its class is what its agreement and its label say, and its
bounds are those of its class and its cases. -/
theorem coherent_of_parts {labels : List GrowthClass} {conflictSteps : Nat}
    {final : FinalVerdict α}
    (rangeOnConflict : final.time.isRange = true ↔ final.agreement = .conflict)
    (rangeLabelled : final.time.isRange = true ↔ final.rangeLabel.isSome = true)
    (rests : final.time.RestsOn labels conflictSteps)
    (around : ∀ split, final.cases = some split →
      ∃ growth, final.time = .exact growth ∧ split.Around growth)
    (bounds : (final.lowerBound, final.upperBound) = boundsOf final.time final.cases) :
    final.Coherent labels conflictSteps := by
  obtain ⟨lowerBound, upperBound⟩ := Prod.ext_iff.mp bounds
  simp only at lowerBound upperBound
  constructor
  case rangeOnConflict => exact rangeOnConflict
  case rangeLabelled => exact rangeLabelled
  case time => exact rests
  case bounds =>
    obtain ⟨below, above⟩ := boundsOf_enclose around
    rw [lowerBound, upperBound]
    exact ⟨below, lower_le_upper rests, above⟩
  case cases =>
    intro split found
    obtain ⟨growth, isExact, splitAround⟩ := around split found
    rw [found] at lowerBound upperBound
    rw [splitAround.average]
    exact ⟨splitAround.best, splitAround.worst, isExact, lowerBound, upperBound⟩

variable [Scalar α]

theorem verdict_restsOn (thresholds : Thresholds α) (includeCases : Bool)
    {structural : StructuralVerdict α} (grounded : structural.Grounded)
    (measurement : Measurement α) (stageWarnings : List String) :
    (verdict thresholds includeCases structural measurement stageWarnings).time.RestsOn
      (labelsOf structural measurement.report?) thresholds.conflictSteps := by
  have pattern : ∀ growth, structural.patternClass = some growth →
      growth.IsKnownLabel (labelsOf structural measurement.report?) := by
    intro growth isPattern
    exact ⟨by simp [labelsOf, isPattern],
      GrowthClass.isKnown_iff.mp (grounded.pattern growth isPattern)⟩
  apply decide_restsOn
  case time =>
    rcases grounded.time with fromTree | fromPattern
    · rw [fromTree]
      exact ⟨by simp [labelsOf], GrowthClass.isKnown_iff.mp grounded.tree⟩
    · exact pattern structural.time fromPattern
  case pattern => exact pattern
  case measurement =>
    intro signal isSignal
    obtain ⟨confidence, isConfidence, rfl⟩ := Option.map_eq_some_iff.mp isSignal
    unfold Measurement.confidence? at isConfidence
    split at isConfidence
    · next known =>
        have isCompared : measurement.growth ∈ Agreement.labels structural.treeClass
            structural.patternClass measurement.growth :=
          Agreement.mem_labels.mpr ⟨Or.inr (Or.inr rfl), known⟩
        exact ⟨(mem_compared.mp isCompared).1, GrowthClass.isKnown_iff.mp known⟩
    · contradiction
  case conflict =>
    intro isConflict
    exact span_encloses (fun _ => mem_compared) isConflict

theorem verdict_coherent (thresholds : Thresholds α) (includeCases : Bool)
    {structural : StructuralVerdict α} (grounded : structural.Grounded)
    (measurement : Measurement α) (stageWarnings : List String) :
    (verdict thresholds includeCases structural measurement stageWarnings).Coherent
      (labelsOf structural measurement.report?) thresholds.conflictSteps := by
  have rests := verdict_restsOn thresholds includeCases grounded measurement stageWarnings
  refine coherent_of_parts (decide_isRange _ _) ?_ rests ?_ rfl
  · unfold verdict
    simp only
    split <;> simp [*]
  · intro split found
    exact casesOf?_around grounded rests found

/-- The verdict on a source without code. -/
theorem emptyVerdict_coherent (thresholds : Thresholds α) (includeCases : Bool)
    {structural : StructuralVerdict α} (constant : structural.treeClass = .const) :
    (emptyVerdict thresholds includeCases structural).Coherent
      (labelsOf structural none) thresholds.conflictSteps := by
  refine coherent_of_parts ?_ ?_ ⟨by simp [labelsOf, constant], by decide⟩ ?_ ?_
  · simp [emptyVerdict, VerdictClass.isRange]
  · simp [emptyVerdict, VerdictClass.isRange]
  · intro split found
    refine ⟨.const, rfl, ?_⟩
    cases includeCases with
    | false => contradiction
    | true =>
        rw [← Option.some.inj found]
        exact CaseSplit.uniform_around .const
  · cases includeCases <;> rfl

end Reconciliation

end GrowthEstimate
