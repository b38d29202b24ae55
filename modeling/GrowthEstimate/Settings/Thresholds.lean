import GrowthEstimate.Number.Scalar

/-!
Contract: the cut-offs used when estimates are brought together.

Owns: the thresholds and their defaults, and what is wrong with thresholds that are
refused.
-/

set_option autoImplicit false

namespace GrowthEstimate

/-- The cut-offs used when estimates are brought together. -/
structure Thresholds (α : Type) where
  highConfidenceCap : α
  /-- The share of the winner's confidence that medium agreement leaves. -/
  mediumDiscount : α
  lowConfidenceCap : α
  conflictConfidence : α
  /-- Labels no further apart than this agree at medium level. -/
  mediumSteps : Nat
  conflictSteps : Nat
  structuralValidConfidence : α
  regressionValidRSquared : α
  regressionMinSamples : Nat

inductive ThresholdsFault (α : Type) where
  | outsideUnit (name : String) (value : α)
  | stepsCrossed (mediumSteps conflictSteps : Nat)

namespace Thresholds

variable {α : Type} [Scalar α]

/-- The thresholds that hold where none are given. -/
def standard : Thresholds α where
  highConfidenceCap := 0.95
  mediumDiscount := 0.8
  lowConfidenceCap := 0.5
  conflictConfidence := 0.3
  mediumSteps := 2
  conflictSteps := 3
  structuralValidConfidence := 0.7
  regressionValidRSquared := 0.5
  regressionMinSamples := 5

/-- The thresholds that must lie in the unit interval, with their names. -/
def unitFields {α : Type} (thresholds : Thresholds α) : List (String × α) :=
  [("high_confidence_cap", thresholds.highConfidenceCap),
   ("medium_discount", thresholds.mediumDiscount),
   ("low_confidence_cap", thresholds.lowConfidenceCap),
   ("conflict_confidence", thresholds.conflictConfidence),
   ("structural_valid_confidence", thresholds.structuralValidConfidence),
   ("regression_valid_r_squared", thresholds.regressionValidRSquared)]

def inUnit (value : α) : Bool :=
  Scalar.le 0.0 value && Scalar.le value 1.0

def fault? (thresholds : Thresholds α) : Option (ThresholdsFault α) :=
  match thresholds.unitFields.find? fun (_, value) => !inUnit value with
  | some (name, value) => some (.outsideUnit name value)
  | none =>
      if thresholds.conflictSteps < thresholds.mediumSteps then
        some (.stepsCrossed thresholds.mediumSteps thresholds.conflictSteps)
      else none

end Thresholds

def ThresholdsFault.message {α : Type} [Scalar α] : ThresholdsFault α → String
  | outsideUnit name value =>
      name ++ " must be within [0, 1], got " ++ Scalar.plainText value
  | stepsCrossed mediumSteps conflictSteps =>
      "medium_steps (" ++ toString mediumSteps ++ ") cannot exceed conflict_steps ("
        ++ toString conflictSteps ++ ")"

end GrowthEstimate
