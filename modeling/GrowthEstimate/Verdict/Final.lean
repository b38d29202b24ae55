import GrowthEstimate.Growth.Class
import GrowthEstimate.Regression.Report
import GrowthEstimate.Settings.Thresholds
import GrowthEstimate.Structure.Verdict

/-!
Contract: the one verdict that structure, patterns and measurement are brought to.

Owns: the levels of agreement, the labels that are compared, and the level of a list of labels;
the split of a class into cases by the algorithm behind it and by the shape of the code; the
verdict class, the final verdict and its parts, the decision at each level of agreement, the
advisories that depend on all stages, and the verdict on an empty source.

Does **not** own: opinions from outside, which `Verdict.Opinion` merges.
-/

set_option autoImplicit false

namespace GrowthEstimate

/-! ## Agreement

Conflict is looked for before partial agreement, so that two labels that are equal
cannot hide a third one far off. -/

inductive AgreementLevel where
  | high
  | medium
  | low
  | conflict
  deriving DecidableEq, Repr, Inhabited

namespace AgreementLevel

/-- The levels, in the order of their declaration. -/
def all : List AgreementLevel :=
  [high, medium, low, conflict]

def name : AgreementLevel → String
  | high => "high"
  | medium => "medium"
  | low => "low"
  | conflict => "conflict"

def isConsistent (level : AgreementLevel) : Bool :=
  level == high || level == medium

end AgreementLevel

namespace Agreement

/-- The known labels among those of tree, pattern and measurement.  Without a pattern
the label of the tree counts twice. -/
def labels (structural : GrowthClass) (pattern : Option GrowthClass) (measured : GrowthClass) :
    List GrowthClass :=
  [structural, pattern.getD structural, measured].filter GrowthClass.isKnown

def pairs {β : Type} : List β → List (β × β)
  | [] => []
  | first :: rest => rest.map (fun second => (first, second)) ++ pairs rest

def distances (compared : List GrowthClass) : List Nat :=
  (pairs compared).filterMap fun (left, right) => left.distance? right

/-- Whether there are three labels, all equal. -/
def isUnanimous (compared : List GrowthClass) : Bool :=
  compared.length == 3 && compared.all fun label => some label == compared.head?

/-- How far labels agree, given how many steps apart they may be. -/
def levelWithin (mediumSteps conflictSteps : Nat) (compared : List GrowthClass) :
    AgreementLevel :=
  if isUnanimous compared then .high
  else
    let found := distances compared
    if found.isEmpty then .low
    else if found.any fun distance => conflictSteps < distance then .conflict
    else if found.contains 0 || found.all fun distance => distance ≤ mediumSteps then .medium
    else .low

def level {α : Type} (thresholds : Thresholds α) (compared : List GrowthClass) :
    AgreementLevel :=
  levelWithin thresholds.mediumSteps thresholds.conflictSteps compared

end Agreement

/-! ## Cases of a verdict

An algorithm of the catalogue whose cases differ has a fixed split.  Recursive code has
the same class in every case, except that a single call that a branch can avoid is
constant at best.  Other code is one step easier at best if it can leave a loop
early, and one step harder at worst if a loop has no bound. -/

namespace CaseSplit

def ofShape (time : GrowthClass) (shape : CodeShape) : CaseSplit :=
  match shape.recursion with
  | some .linear => if shape.branching then ⟨.const, time, time⟩ else uniform time
  | some .divideAndConquer | some .binaryTree => uniform time
  | some .none | none =>
      ⟨if shape.earlyExit then time.easier else time, time,
        if shape.unboundedLoop then time.harder else time⟩

/-- The split of a class by the algorithm behind it, or else by the shape of the code. -/
def ofVerdict (time : GrowthClass) (pattern : Option String) (shape : CodeShape) : CaseSplit :=
  (pattern.bind Catalogue.casesOf?).getD (ofShape time shape)

end CaseSplit

/-! ## Verdicts -/

/-! ### Verdict classes -/

/-- One class, or a range of classes between two ends. -/
inductive VerdictClass where
  | exact (growth : GrowthClass)
  | range (lower upper : GrowthClass)
  deriving DecidableEq, Repr, Inhabited

namespace VerdictClass

def lower : VerdictClass → GrowthClass
  | exact growth => growth
  | range lower _ => lower

def upper : VerdictClass → GrowthClass
  | exact growth => growth
  | range _ upper => upper

def isRange : VerdictClass → Bool
  | exact _ => false
  | range _ _ => true

/-- Whether a class is the one of the verdict or lies in its range. -/
def contains (growth : GrowthClass) : VerdictClass → Bool
  | exact only => only == growth
  | range lower upper => lower.rank ≤ growth.rank && growth.rank ≤ upper.rank

def label : VerdictClass → String
  | exact growth => growth.notationText
  | range lower upper => "between " ++ lower.notationText ++ " and " ++ upper.notationText

end VerdictClass

/-! ### Advisories -/

/-- The list with a message at its end, unless it holds the message already. -/
def addUnique (messages : List String) (message : String) : List String :=
  if messages.contains message then messages else messages ++ [message]

/-- The list with messages at its end, each unless it is there already. -/
def addAllUnique (messages more : List String) : List String :=
  more.foldl addUnique messages

/-- Recommendations and warnings, each without repetition. -/
structure Advisories where
  recommendations : List String
  warnings : List String
  deriving DecidableEq, Repr, Inhabited

namespace Advisories

def none : Advisories :=
  ⟨[], []⟩

def recommend (advisories : Advisories) (message : String) : Advisories :=
  { advisories with recommendations := addUnique advisories.recommendations message }

def warn (advisories : Advisories) (message : String) : Advisories :=
  { advisories with warnings := addUnique advisories.warnings message }

def warnAll (advisories : Advisories) (messages : List String) : Advisories :=
  { advisories with warnings := addAllUnique advisories.warnings messages }

def onAgreement (time : VerdictClass) (level : AgreementLevel) (advisories : Advisories) :
    Advisories :=
  match level with
  | .conflict =>
      (advisories.warn ("Structural and measured estimates conflict: " ++ time.label)).recommend
        "Review the loop bounds and recursion by hand before relying on this estimate"
  | .low =>
      (advisories.warn
        "Low agreement between structural, pattern and measured estimates").recommend
        "Provide a larger or more representative snippet to sharpen the estimate"
  | .high | .medium => advisories

def onGrowth (upper : GrowthClass) (advisories : Advisories) : Advisories :=
  if upper.isPolynomial then
    advisories.recommend
      (upper.notationText ++ " growth: look for a hash-based lookup or a sort-then-scan approach")
  else if upper.isExponential then
    (advisories.warn
      (upper.notationText ++ " growth becomes impractical beyond small inputs")).recommend
      (if upper = .exponential then
        "Memoize overlapping subproblems or switch to dynamic programming"
      else "Prune the search space or bound the input size")
  else advisories

def onVerdict (time : VerdictClass) (level : AgreementLevel) (advisories : Advisories) :
    Advisories :=
  onGrowth time.upper (onAgreement time level advisories)

end Advisories

/-! ### Parts of the final verdict -/

/-- Which stages can be relied on. -/
structure Validation (α : Type) where
  structuralValid : Bool
  regressionValid : Bool
  crossValid : Bool
  reliability : α

/-- Two fifths each for structure and measurement, one fifth for their agreement. -/
def Validation.ofFlags {α : Type} [Scalar α] (structural regression cross : Bool) :
    Validation α :=
  let weigh (flag : Bool) (weight : α) : α := if flag then weight else 0.0
  ⟨structural, regression, cross,
    weigh structural 0.4 + weigh regression 0.4 + weigh cross 0.2⟩

/-- The confidences of the stages. -/
structure StageConfidence (α : Type) where
  structural : α
  pattern : Option α
  regression : Option α
  combined : α

/-- An opinion from outside the analysis. -/
structure Opinion (α : Type) where
  source : String
  time : GrowthClass
  confidence : α
  notes : List String

structure FinalVerdict (α : Type) where
  time : VerdictClass
  space : GrowthClass
  confidence : α
  lowerBound : GrowthClass
  upperBound : GrowthClass
  agreement : AgreementLevel
  rangeLabel : Option String
  cases : Option CaseSplit
  recommendations : List String
  warnings : List String
  validation : Validation α
  stages : StageConfidence α
  opinion : Option (Opinion α)

namespace FinalVerdict

/-- The class for callers that expect one: the upper end of a range. -/
def timeClass {α : Type} (verdict : FinalVerdict α) : GrowthClass :=
  verdict.time.upper

def isConflict {α : Type} (verdict : FinalVerdict α) : Bool :=
  verdict.agreement == .conflict

end FinalVerdict

/-! ### Reconciliation -/

inductive Measurement (α : Type) where
  | measured (report : RegressionReport α)
  | skipped
  | failed

namespace Measurement

variable {α : Type}

def report? : Measurement α → Option (RegressionReport α)
  | measured report => some report
  | skipped | failed => none

def growth (measurement : Measurement α) : GrowthClass :=
  (measurement.report?.map RegressionReport.bestClass).getD .unknown

/-- The confidence in the class that was measured, if it is known. -/
def confidence? [Scalar α] (measurement : Measurement α) : Option α :=
  if measurement.growth.isKnown then
    some ((measurement.report?.map RegressionReport.confidence).getD 0.0)
  else none

end Measurement

namespace Reconciliation

variable {α : Type} [Scalar α]

abbrev Signal (α : Type) := GrowthClass × α

/-- The signal that stays when another one comes up against it: the more confident, and
of equals the earlier. -/
def challenge (incumbent challenger : Signal α) : Signal α :=
  if Scalar.le challenger.2 incumbent.2 then incumbent else challenger

/-- The signals of structure, of the strongest match and of measurement, without those
that are missing; the first always stands. -/
def signals (structural : StructuralVerdict α) (measured : Option (Signal α)) :
    Signal α × List (Signal α) :=
  let pattern : Option (Signal α) :=
    match structural.patternClass, structural.patternConfidence with
    | some growth, some confidence => some (growth, confidence)
    | _, _ => none
  ((structural.time, structural.confidence), pattern.toList ++ measured.toList)

/-- The signal of greatest confidence; of several such the first. -/
def strongest (structural : StructuralVerdict α) (measured : Option (Signal α)) : Signal α :=
  let (first, others) := signals structural measured
  others.foldl challenge first

def span (compared : List GrowthClass) : VerdictClass :=
  .range (compared.foldl .meet .unknown) (compared.foldl .join .unknown)

def decide (thresholds : Thresholds α) (level : AgreementLevel) (compared : List GrowthClass)
    (structural : StructuralVerdict α) (measured : Option (Signal α)) : VerdictClass × α :=
  match level with
  | .high =>
      let regression := (measured.map Prod.snd).getD structural.confidence
      (.exact structural.time,
        Scalar.smaller (Scalar.smaller structural.confidence regression)
          thresholds.highConfidenceCap)
  | .medium =>
      let winner := strongest structural measured
      (.exact winner.1, winner.2 * thresholds.mediumDiscount)
  | .low =>
      let (growth, confidence) := measured.getD (structural.time, structural.confidence)
      (.exact growth, Scalar.smaller confidence thresholds.lowConfidenceCap)
  | .conflict => (span compared, thresholds.conflictConfidence)

def measurementValid (thresholds : Thresholds α) (report : RegressionReport α) : Bool :=
  report.bestClass.isKnown && Scalar.lt thresholds.regressionValidRSquared report.rSquared
    && thresholds.regressionMinSamples ≤ report.sampleCount

def validate (thresholds : Thresholds α) (structural : StructuralVerdict α)
    (report : Option (RegressionReport α)) (level : AgreementLevel) : Validation α :=
  .ofFlags
    (Scalar.lt thresholds.structuralValidConfidence structural.confidence
      && 1 ≤ structural.functionCount && structural.time.isKnown)
    (report.any (measurementValid thresholds))
    level.isConsistent

/-- The cases of a verdict class.  The strongest match counts only if its class is the
one that is reported. -/
def casesOf? (includeCases : Bool) (structural : StructuralVerdict α) :
    VerdictClass → Option CaseSplit
  | .range _ _ => none
  | .exact growth =>
      if includeCases then
        let pattern := if structural.patternClass = some growth then structural.primaryPattern
          else none
        some (.ofVerdict growth pattern structural.shape)
      else none

def boundsOf (time : VerdictClass) : Option CaseSplit → GrowthClass × GrowthClass
  | some split => (split.best, split.worst)
  | none => (time.lower, time.upper)

/-- The final verdict on a structural verdict and a measurement, with the warnings of the
stages before. -/
def verdict (thresholds : Thresholds α) (includeCases : Bool)
    (structural : StructuralVerdict α) (measurement : Measurement α)
    (stageWarnings : List String) : FinalVerdict α :=
  let report := measurement.report?
  let measured := measurement.confidence?.map fun confidence => (measurement.growth, confidence)
  let compared := Agreement.labels structural.treeClass structural.patternClass measurement.growth
  let level := Agreement.level thresholds compared
  let (time, confidence) := decide thresholds level compared structural measured
  let cases := casesOf? includeCases structural time
  let (lowerBound, upperBound) := boundsOf time cases
  let advisories :=
    ((Advisories.none.warnAll stageWarnings).warnAll
      ((report.map RegressionReport.advisories).getD [])).onVerdict time level
  { time, confidence, lowerBound, upperBound, cases
    space := structural.space
    agreement := level
    rangeLabel := if time.isRange then some time.label else none
    recommendations := advisories.recommendations
    warnings := advisories.warnings
    validation := validate thresholds structural report level
    stages :=
      { structural := structural.confidence
        pattern := structural.patternConfidence
        regression := measurement.confidence?
        combined := confidence }
    opinion := none }

def emptyVerdict (thresholds : Thresholds α) (includeCases : Bool)
    (structural : StructuralVerdict α) : FinalVerdict α where
  time := .exact .const
  space := .const
  confidence := structural.confidence
  lowerBound := .const
  upperBound := .const
  agreement := .high
  rangeLabel := none
  cases := if includeCases then some (.uniform .const) else none
  recommendations := []
  warnings := ["Input is empty; nothing was analyzed"]
  validation := validate thresholds structural none .high
  stages :=
    { structural := structural.confidence
      pattern := none
      regression := none
      combined := structural.confidence }
  opinion := none

end Reconciliation

end GrowthEstimate
