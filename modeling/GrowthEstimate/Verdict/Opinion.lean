import GrowthEstimate.Verdict.Final

/-!
Contract: an opinion from outside, merged into a finished verdict.

Owns: the policies of merging and the merged verdict.
-/

set_option autoImplicit false

namespace GrowthEstimate

/-- How an opinion from outside changes a verdict. -/
inductive MergePolicy (α : Type) where
  | keepCore
  /-- Its class is adopted if its confidence reaches the threshold and exceeds that of
  the verdict. -/
  | preferExternal (threshold : α)
  /-- The confidences are averaged, and the class of the greater one stands. -/
  | average

namespace FinalVerdict

variable {α : Type} [Scalar α]

def withConfidence {α : Type} (verdict : FinalVerdict α) (confidence : α) : FinalVerdict α :=
  { verdict with
    confidence
    stages := { verdict.stages with combined := confidence } }

/-- The verdict with the class of an opinion, at a confidence. -/
def adopt {α : Type} (verdict : FinalVerdict α) (opinion : Opinion α) (confidence : α) :
    FinalVerdict α :=
  { verdict.withConfidence confidence with
    time := .exact opinion.time
    lowerBound := opinion.time
    upperBound := opinion.time
    rangeLabel := none
    recommendations :=
      addUnique verdict.recommendations
        ("Adopted the time class suggested by " ++ opinion.source) }

/-- The verdict as a policy lets an opinion change its class and confidence. -/
def settle (verdict : FinalVerdict α) (opinion : Opinion α) (policy : MergePolicy α) :
    FinalVerdict α :=
  let confidence := Scalar.clampUnit opinion.confidence
  match policy with
  | .keepCore => verdict
  | .preferExternal threshold =>
      if Scalar.le threshold confidence && Scalar.lt verdict.confidence confidence then
        verdict.adopt opinion confidence
      else verdict
  | .average =>
      let averaged := (verdict.confidence + confidence) / 2.0
      if Scalar.lt verdict.confidence confidence && opinion.time.isKnown then
        verdict.adopt opinion averaged
      else verdict.withConfidence averaged

/-- The verdict after an opinion was merged.  An opinion that does not agree with the
verdict as it was leaves a warning. -/
def merge (verdict : FinalVerdict α) (opinion : Opinion α) (policy : MergePolicy α) :
    FinalVerdict α :=
  let settled := verdict.settle opinion policy
  let warnings :=
    if verdict.time.contains opinion.time then settled.warnings
    else
      addUnique settled.warnings
        ("External opinion from " ++ opinion.source ++ " suggests "
          ++ opinion.time.notationText)
  { settled with warnings, opinion := some opinion }

end FinalVerdict

end GrowthEstimate
