import GrowthEstimate.Sampling.Sampler

/-!
Contract: the growth class that fits cost samples best.

Owns: the fit of a growth class and its marks, what a list of samples shows apart from any class,
the selection among fits, the advisories on a fit, the report of a regression, and whether the
growth changes between small and large sizes.
-/

set_option autoImplicit false

namespace GrowthEstimate

/-! ## Fits

A fit has a least-squares coefficient, its residuals, the goodness of fit on relative residuals, the
standard error, the coarse p-value, the confidence and the composite score. -/

/-- The fit of costs to a coefficient times the growth function of a class. -/
structure Fit (α : Type) where
  growth : GrowthClass
  coefficient : α
  rSquared : α
  standardError : α
  pValue : α
  /-- What the fit leaves of each cost, in the order of the samples. -/
  residuals : List α
  confidence : α
  compositeScore : α
  /-- False for a degenerate fit, which is reported but never wins. -/
  selectable : Bool

namespace Fit

variable {α : Type} [Scalar α]

def predicted (coefficient : α) (growth : GrowthClass) (size : Nat) : α :=
  coefficient * growth.evaluateAt size

def predict (fit : Fit α) (size : Nat) : α :=
  predicted fit.coefficient fit.growth size

/-- The distance of one below which a residual at no cost counts as none. -/
def negligible : α :=
  1.0 / Scalar.ofCount (Nat.pow 2 52)

def relativeResidual (cost residual : α) : α :=
  if !Scalar.eq cost 0.0 then residual / cost
  else if Scalar.lt (Scalar.abs residual) negligible then 0.0
  else 1.0

/-- The F statistic of a goodness of fit; a perfect fit has none. -/
def fStatistic? (rSquared : α) (count : Nat) : Option α :=
  if Scalar.le 1.0 rSquared then none
  else some (rSquared / (1.0 - rSquared) * Scalar.ofCount (count - 1))

/-- The coarse p-value of an F statistic; without one the fit is perfect. -/
def pValueOf : Option α → α
  | none => 0.001
  | some statistic =>
      if Scalar.lt 100.0 statistic then 0.001
      else if Scalar.lt 20.0 statistic then 0.01
      else if Scalar.lt 10.0 statistic then 0.05
      else if Scalar.lt 4.0 statistic then 0.1
      else 0.5

/-- How much a number of samples adds to the confidence in a fit. -/
def countAdjustment (count : Nat) : α :=
  if count ≤ 9 then 0.8 else if count ≤ 14 then 1.0 else 1.1

/-- The confidence in a fit; none if it is undefined. -/
def confidenceOf (rSquared : α) (count : Nat) (standardError coefficient : α) : α :=
  let relativeError :=
    if !Scalar.eq coefficient 0.0 then
      Scalar.smaller (standardError / Scalar.abs coefficient) 0.5
    else 0.5
  let confidence := rSquared * countAdjustment count * (1.0 - relativeError)
  if Scalar.isNaN confidence then 0.0 else Scalar.clampUnit confidence

/-- The score by which fits compete: goodness, confidence, simplicity and p-value. -/
def compositeOf (growth : GrowthClass) (rSquared confidence pValue : α) : α :=
  0.4 * rSquared + 0.3 * confidence + 0.2 * growth.simplicity + 0.1 * (1.0 - pValue)

def basis (growth : GrowthClass) (samples : List (CostSample α)) : List α :=
  samples.map fun sample => growth.evaluateAt sample.size

/-- The coefficient that leaves the least sum of squared residuals. -/
def leastSquares (costs values : List α) : α :=
  Scalar.sum (costs.zipWith (· * ·) values) / Scalar.sum (values.map Scalar.square)

/-- The goodness of fit: one less the mean of the squared relative residuals, in the unit
interval; none without samples. -/
def goodness (costs residuals : List α) : α :=
  if costs.isEmpty then 0.0
  else
    let relative := costs.zipWith relativeResidual residuals
    Scalar.clampUnit
      (1.0 - Scalar.sum (relative.map Scalar.square) / Scalar.ofCount costs.length)

def errorOf (values residuals : List α) : α :=
  if residuals.length > 1 then
    Scalar.sqrt
      (Scalar.sum (residuals.map Scalar.square) / Scalar.ofCount (residuals.length - 1)
        / Scalar.sum (values.map Scalar.square))
  else 0.0

def ofSamples (growth : GrowthClass) (samples : List (CostSample α)) : Fit α :=
  let values := basis growth samples
  let costs := samples.map CostSample.cost
  let coefficient := leastSquares costs values
  let residuals := costs.zipWith (fun cost value => cost - coefficient * value) values
  let rSquared := goodness costs residuals
  let standardError := errorOf values residuals
  let pValue := pValueOf (fStatistic? rSquared samples.length)
  let confidence := confidenceOf rSquared samples.length standardError coefficient
  let compositeScore := compositeOf growth rSquared confidence pValue
  { growth, coefficient, rSquared, standardError, pValue, residuals, confidence, compositeScore
    selectable :=
      Scalar.isFinite coefficient && Scalar.isFinite rSquared && Scalar.isFinite compositeScore
        && Scalar.lt 0.0 rSquared }

end Fit

/-! ## Diagnostics

Outliers are judged on the quotients of cost and prediction, since of the raw costs
of a growing code the largest are always far above the rest.  Without a reference
that predicts a positive cost everywhere the raw costs are judged. -/

structure SampleDiagnostics (α : Type) where
  variance : α
  outliers : List Nat
  /-- The share of steps between neighbours in which the cost does not fall. -/
  monotonicity : α

namespace SampleDiagnostics

variable {α : Type} [Scalar α]

def varianceOf (values : List α) : α :=
  if values.length < 2 then 0.0
  else
    let mean := Scalar.sum values / Scalar.ofCount values.length
    Scalar.sum (values.map fun value => Scalar.square (value - mean))
      / Scalar.ofCount (values.length - 1)

/-- The quotients of cost and prediction, if all predictions are positive and finite. -/
def predictionRatios? (samples : List (CostSample α)) (reference : Fit α) : Option (List α) :=
  samples.mapM fun sample =>
    let predicted := reference.predict sample.size
    if Scalar.isFinite predicted && Scalar.lt 0.0 predicted then some (sample.cost / predicted)
    else none

/-- The value at the given number of quarters of ordered values, interpolated between
the two values next to that rank. -/
def quartile (ordered : List α) (quarters : Nat) : α :=
  let rank := quarters * (ordered.length - 1)
  let lower := rank / 4
  let upper := if rank % 4 = 0 then lower else lower + 1
  let weight : α := Scalar.ofCount (rank % 4) / 4.0
  let below := ordered.getD lower 0.0
  below + (ordered.getD upper 0.0 - below) * weight

/-- How many times the spread of the middle half a value may lie outside of it. -/
def fenceFactor : α :=
  1.5

/-- The least spread in relation to the upper quartile, so that the noise of rounding
never counts as spread. -/
def leastSpread : α :=
  1e-6

def fences (values : List α) : α × α :=
  let ordered := values.mergeSort Scalar.precedes
  let first := quartile ordered 1
  let third := quartile ordered 3
  let spread := Scalar.larger (third - first) (Scalar.abs third * leastSpread)
  (first - fenceFactor * spread, third + fenceFactor * spread)

/-- The indices of the values outside the fences; fewer than four values have none. -/
def outliersOf (values : List α) : List Nat :=
  if values.length < 4 then []
  else
    let (low, high) := fences values
    (values.zipIdx.filter fun (value, _) => Scalar.lt value low || Scalar.lt high value).map
      Prod.snd

/-- How many values are not below the value before them. -/
def risingSteps (values : List α) : Nat :=
  (values.zip values.tail).countP fun (before, after) => Scalar.le before after

/-- The share of steps between neighbours in which the values do not fall. -/
def monotonicityOf (values : List α) : α :=
  if values.length < 2 then 1.0
  else Scalar.ofCount (risingSteps values) / Scalar.ofCount (values.length - 1)

def judged (samples : List (CostSample α)) (reference : Option (Fit α)) : List α :=
  (reference.bind (predictionRatios? samples)).getD (samples.map CostSample.cost)

/-- What samples show, with outliers judged against a reference fit. -/
def ofSamples (samples : List (CostSample α)) (reference : Option (Fit α)) :
    SampleDiagnostics α :=
  let costs := samples.map CostSample.cost
  ⟨varianceOf costs, outliersOf (judged samples reference), monotonicityOf costs⟩

def isMonotonic (diagnostics : SampleDiagnostics α) : Bool :=
  Scalar.le 1.0 diagnostics.monotonicity

end SampleDiagnostics

/-! ## Reports

All canonical classes are fitted to the ordered samples.  The fit of the highest
score wins; scores that differ by next to nothing are a tie, which the class that
grows more slowly keeps. -/

/-- The result of fitting all canonical classes. -/
structure RegressionReport (α : Type) where
  /-- The fit that wins, if any may be selected. -/
  best : Option (Fit α)
  /-- The fits of the canonical classes, in their order. -/
  candidates : List (Fit α)
  diagnostics : SampleDiagnostics α
  sampleCount : Nat
  advisories : List String

namespace RegressionReport

variable {α : Type} [Scalar α]

/-- Scores that differ by no more are a tie. -/
def scoreTolerance : α :=
  1e-12

def challenge (incumbent : Option (Fit α)) (challenger : Fit α) : Option (Fit α) :=
  match incumbent with
  | none => some challenger
  | some current =>
      if Scalar.le challenger.compositeScore (current.compositeScore + scoreTolerance) then
        some current
      else some challenger

def select (candidates : List (Fit α)) : Option (Fit α) :=
  (candidates.filter Fit.selectable).foldl challenge none

def advisoriesOn (best : Option (Fit α)) (diagnostics : SampleDiagnostics α) : List String :=
  (match best with
    | none => ["No growth function fits the sampled costs"]
    | some fit =>
        if Scalar.lt fit.rSquared 0.5 then
          ["Best fit " ++ fit.growth.notationText ++ " explains little of the measured cost (R² "
            ++ Scalar.fixedText 2 fit.rSquared ++ ")"]
        else [])
  ++ (if Scalar.lt diagnostics.monotonicity 0.8 then
        ["Measured cost is not monotonic in input size ("
          ++ Scalar.fixedText 0 (diagnostics.monotonicity * 100.0) ++ "% rising steps)"]
      else [])
  ++ (if diagnostics.outliers.isEmpty then []
      else [toString diagnostics.outliers.length ++ " outlier sample(s) may distort the fit"])

/-- The report on samples, or their number if they are too few. -/
def ofSamples (samples : List (CostSample α)) : Except Nat (RegressionReport α) :=
  if samples.length < CostSample.fewest then .error samples.length
  else
    let ordered := CostSample.sorted samples
    let candidates := GrowthClass.canonical.map fun growth => Fit.ofSamples growth ordered
    let best := select candidates
    let diagnostics := SampleDiagnostics.ofSamples ordered best
    .ok ⟨best, candidates, diagnostics, ordered.length, advisoriesOn best diagnostics⟩

def bestClass {α : Type} (report : RegressionReport α) : GrowthClass :=
  (report.best.map Fit.growth).getD .unknown

def rSquared (report : RegressionReport α) : α :=
  (report.best.map Fit.rSquared).getD 0.0

def confidence (report : RegressionReport α) : α :=
  (report.best.map Fit.confidence).getD 0.0

end RegressionReport

/-! ## Changes of growth

A change is looked for between the fits of the two halves of the ordered samples. -/

/-- The best fit of one half of the samples. -/
structure HalfFit (α : Type) where
  growth : GrowthClass
  rSquared : α

/-- The comparison of the two halves. -/
structure GrowthChange (α : Type) where
  hasChange : Bool
  point : Option Nat
  before : Option (HalfFit α)
  after : Option (HalfFit α)

namespace GrowthChange

variable {α : Type} [Scalar α]

/-- The comparison of halves of which one has no fit. -/
def none {α : Type} : GrowthChange α :=
  ⟨false, .none, .none, .none⟩

/-- Both halves must fit better than this for a change to count. -/
def leastGoodness : α :=
  0.7

/-- The best fit of a half, if there is one. -/
def halfFit? (half : List (CostSample α)) : Option (HalfFit α) :=
  match RegressionReport.ofSamples half with
  | .error _ => .none
  | .ok report => report.best.map fun fit => ⟨fit.growth, fit.rSquared⟩

def ofSamples (samples : List (CostSample α)) : GrowthChange α :=
  let ordered := CostSample.sorted samples
  let middle := ordered.length / 2
  let upper := ordered.drop middle
  match halfFit? (ordered.take middle), halfFit? upper with
  | some before, some after =>
      { hasChange :=
          before.growth != after.growth && Scalar.lt leastGoodness before.rSquared
            && Scalar.lt leastGoodness after.rSquared
        point := upper.head?.map CostSample.size
        before := some before
        after := some after }
  | _, _ => none

end GrowthChange

end GrowthEstimate
