import GrowthEstimate.Growth.Class
import GrowthEstimate.Random.ChaCha
import GrowthEstimate.Structure.Verdict

/-!
Contract: cost samples, and where they come from.

Owns: the sample of a size and the order by size and then by cost; the cost profile that a
structural verdict leads to, the cost model, and the models that need no outside data; the number
of iterations and the random stream of a size, and the outcome of sampling a list of sizes.
-/

set_option autoImplicit false

namespace GrowthEstimate

/-! ## Samples

Nothing is concluded from fewer samples than a fixed number. -/

structure CostSample (α : Type) where
  size : Nat
  cost : α
  iterations : Nat
  memory : α

namespace CostSample

def fewest : Nat :=
  3

variable {α : Type}

/-- Whether a sample does not come after another in the order by size. -/
def sizeLE (left right : CostSample α) : Bool :=
  left.size ≤ right.size

/-- Whether a sample does not come after another in the order by size and then by cost. -/
def sizeCostLE [Scalar α] (left right : CostSample α) : Bool :=
  if left.size = right.size then Scalar.precedes left.cost right.cost
  else left.size < right.size

/-- The samples in the order by size; samples of one size keep their order. -/
def sortedBySize (samples : List (CostSample α)) : List (CostSample α) :=
  samples.mergeSort sizeLE

def sorted [Scalar α] (samples : List (CostSample α)) : List (CostSample α) :=
  samples.mergeSort sizeCostLE

end CostSample

/-! ## Cost models

Without outside data a cost is growth with random noise, or growth alone. -/

/-- The growth of memory that samples assume. -/
inductive MemoryProfile where
  | constant
  | linear
  | linearithmic
  deriving DecidableEq, Repr, Inhabited

namespace MemoryProfile

/-- The memory profiles, in the order of their declaration. -/
def all : List MemoryProfile :=
  [constant, linear, linearithmic]

def name : MemoryProfile → String
  | constant => "constant"
  | linear => "linear"
  | linearithmic => "linearithmic"

end MemoryProfile

/-- What sampling takes a code to be. -/
structure CostProfile where
  growth : GrowthClass
  memory : MemoryProfile
  deriving DecidableEq, Repr, Inhabited

namespace CostProfile

variable {α : Type}

/-- The profile of a code with a structural verdict.  Code of unknown growth is taken to
be linear. -/
def ofVerdict (verdict : StructuralVerdict α) : CostProfile where
  growth := if verdict.time.isKnown then verdict.time else .linear
  memory :=
    if verdict.shape.containers then .linear
    else if verdict.shape.recursion.isSome then .linearithmic
    else .constant

/-- The memory estimate for a size that models give unless they have one of their own; sizes
below one count as one. -/
def memoryFor [Scalar α] (profile : CostProfile) (size : Nat) : α :=
  let least := max size 1
  match profile.memory with
  | .constant => 1.0
  | .linear => Scalar.ofCount least
  | .linearithmic => GrowthClass.linearithmic.evaluateAt least

end CostProfile

structure CostModel (α : Type) where
  /-- The cost of one iteration at a size, and the random stream after it. -/
  iterationCost : CostProfile → Nat → RandomStream → α × RandomStream
  /-- The memory estimate at a size. -/
  memory : CostProfile → Nat → α
  /-- Whether the iterations at a size are not done when the time for sampling is over. -/
  stalls : Nat → Bool

namespace CostModel

variable {α : Type} [Scalar α]

/-- The ends of the interval from which the base factor of a run is drawn. -/
def baseFactorRange : α × α :=
  (0.5, 2.0)

/-- The ends of the interval from which the noise of an iteration is drawn. -/
def noiseRange : α × α :=
  (0.8, 1.2)

def boundedFactor (factor : α) : α :=
  Scalar.clamp baseFactorRange.1 baseFactorRange.2 factor

def drawFactor (stream : RandomStream) : α :=
  boundedFactor (stream.uniform baseFactorRange.1 baseFactorRange.2).1

def synthetic (factor : α) : CostModel α where
  iterationCost profile size stream :=
    let (noise, rest) := stream.uniform noiseRange.1 noiseRange.2
    (factor * profile.growth.evaluateAt size * noise, rest)
  memory profile size := profile.memoryFor size
  stalls _ := false

def exact (coefficient : α) : CostModel α where
  iterationCost profile size stream := (coefficient * profile.growth.evaluateAt size, stream)
  memory profile size := profile.memoryFor size
  stalls _ := false

/-- Costs of a table, and growth for the sizes that are not in it. -/
def table (costs : List (Nat × α)) (growth : Option GrowthClass) (stallsFrom : Option Nat) :
    CostModel α where
  iterationCost profile size stream :=
    match costs.lookup size with
    | some cost => (cost, stream)
    | none => ((growth.getD profile.growth).evaluateAt size, stream)
  memory profile size := profile.memoryFor size
  stalls size := stallsFrom.any fun from_ => from_ ≤ size

/-- The model when there is no time at all: no size is ever done. -/
def stalled {α : Type} (model : CostModel α) : CostModel α :=
  { model with stalls := fun _ => true }

end CostModel

/-! ## Sampling

Each size has a stream of its own, so a sample depends on nothing but the model, the
profile, the seed and its size. -/

structure SamplingOutcome (α : Type) where
  /-- The samples, in the order of their sizes. -/
  samples : List (CostSample α)
  truncated : Bool

namespace Sampling

/-- The sizes that are sampled unless others are asked for. -/
def defaultSizes : List Nat :=
  [10, 50, 100, 500, 1000, 5000, 10000]

def iterationsFor (size : Nat) : Nat :=
  if size ≤ 100 then 10 else if size ≤ 1000 then 5 else 3

def sizeFactor : UInt64 :=
  0x9E3779B97F4A7C15

def sizeSeed (seed size : UInt64) : UInt64 :=
  seed ^^^ (size * sizeFactor)

variable {α : Type} [Scalar α]

/-- The sum of the costs of `count` iterations, added to `total`. -/
def totalCost (model : CostModel α) (profile : CostProfile) (size : Nat) :
    Nat → RandomStream → α → α
  | 0, _, total => total
  | count + 1, stream, total =>
      let (cost, rest) := model.iterationCost profile size stream
      totalCost model profile size count rest (total + cost)

/-- The sample of a size, unless it is abandoned. -/
def measure? (model : CostModel α) (profile : CostProfile) (seed : UInt64) (size : Nat) :
    Option (CostSample α) :=
  if model.stalls size then none
  else
    let iterations := iterationsFor size
    let stream := RandomStream.ofSeed (sizeSeed seed size.toUInt64)
    let total := totalCost model profile size iterations stream 0.0
    some ⟨size, total / Scalar.ofCount iterations, iterations, model.memory profile size⟩

/-- The outcome of sampling sizes, or how few samples there are if they are too few. -/
def sample (model : CostModel α) (profile : CostProfile) (seed : UInt64) (sizes : List Nat) :
    Except Nat (SamplingOutcome α) :=
  let measured := sizes.map (measure? model profile seed)
  let samples := measured.filterMap id
  if samples.length < CostSample.fewest then .error samples.length
  else .ok ⟨CostSample.sortedBySize samples, measured.any Option.isNone⟩

end Sampling

end GrowthEstimate
