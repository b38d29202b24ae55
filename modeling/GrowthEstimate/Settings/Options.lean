import GrowthEstimate.Sampling.Sampler
import GrowthEstimate.Structure.Verdict

/-!
Contract: the options of one analysis.

Owns: the options and their defaults, what is wrong with options that are refused,
and the order in which faults are looked for.
-/

set_option autoImplicit false

namespace GrowthEstimate

structure AnalysisOptions where
  enableSampling : Bool
  /-- The sizes to sample at, ascending and positive. -/
  sampleSizes : List Nat
  ceilingMs : Nat
  includeCases : Bool
  /-- The largest source that is accepted, in bytes. -/
  maxInputBytes : Nat
  precedence : PatternPrecedence
  /-- The seed of sampling; without one each run has its own. -/
  seed : Option Nat
  deriving DecidableEq, Repr, Inhabited

inductive OptionsFault where
  | noSizes
  | zeroSize
  | sizesNotAscending (sizes : List Nat)
  | noTime
  | noInput
  deriving DecidableEq, Repr

def numberListText (numbers : List Nat) : String :=
  "[" ++ ", ".intercalate (numbers.map fun number => toString number) ++ "]"

def OptionsFault.message : OptionsFault → String
  | noSizes => "sample_sizes cannot be empty"
  | zeroSize => "sample_sizes must be positive"
  | sizesNotAscending sizes =>
      "sample_sizes must be strictly ascending, got " ++ numberListText sizes
  | noTime => "sampling_time_ceiling_ms must be greater than zero"
  | noInput => "max_input_bytes must be greater than zero"

namespace AnalysisOptions

/-- The options that hold where none are given. -/
def standard : AnalysisOptions where
  enableSampling := true
  sampleSizes := Sampling.defaultSizes
  ceilingMs := 5000
  includeCases := true
  maxInputBytes := 100000
  precedence := .patternFirst
  seed := none

def isAscending : List Nat → Bool
  | [] => true
  | [_] => true
  | first :: second :: rest => first < second && isAscending (second :: rest)

def fault? (options : AnalysisOptions) : Option OptionsFault :=
  if options.sampleSizes.isEmpty then some .noSizes
  else if options.sampleSizes.contains 0 then some .zeroSize
  else if !isAscending options.sampleSizes then some (.sizesNotAscending options.sampleSizes)
  else if options.ceilingMs = 0 then some .noTime
  else if options.maxInputBytes = 0 then some .noInput
  else none

end AnalysisOptions

end GrowthEstimate
