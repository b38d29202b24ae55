import Mathlib.Data.List.Basic
import Mathlib.Data.List.Forall2
import Mathlib.Logic.Relation
import GrowthEstimate.Number.Binary64
import GrowthEstimate.Sampling.Sampler

/-!
Contract: what sampling a list of sizes gives, one after another or at the same time.

Owns: the sample of a size as a function of the model, the profile, the seed and the size, the sizes
that are kept, and the outcome as the samples of those; measurements that are under way and the
steps they can take, and that every order of steps that comes to its end gives the outcome of
`sample`; that no two random streams of a run have the same seed.

Does **not** own: what is concluded from samples.
-/

set_option autoImplicit false

namespace GrowthEstimate

/-! ## Seeds

The factor is odd, so it has an inverse among the words of 64 bits and the product loses
nothing, however often it wraps around.  The size zero is the one size whose product is zero:
its stream is the one that the base factor is drawn from. -/

namespace Sampling

/-- What undoes the multiplication by the factor of a size. -/
def sizeFactorInverse : UInt64 :=
  0xF1DE83E19937733D

theorem sizeFactor_mul_inverse : sizeFactor * sizeFactorInverse = 1 := by
  decide

/-- The size whose stream has a seed, in a run with a seed of its own. -/
def sizeOfSeed (seed sizeSeed : UInt64) : UInt64 :=
  (seed ^^^ sizeSeed) * sizeFactorInverse

theorem sizeOfSeed_sizeSeed (seed size : UInt64) : sizeOfSeed seed (sizeSeed seed size) = size := by
  have unmixed : seed ^^^ (seed ^^^ size * sizeFactor) = size * sizeFactor := by
    rw [← UInt64.xor_assoc, UInt64.xor_self, UInt64.zero_xor]
  calc sizeOfSeed seed (sizeSeed seed size)
      = size * sizeFactor * sizeFactorInverse := by rw [sizeOfSeed, sizeSeed, unmixed]
    _ = size * (sizeFactor * sizeFactorInverse) := UInt64.mul_assoc size _ _
    _ = size := by rw [sizeFactor_mul_inverse, UInt64.mul_one]

/-- The seed of a run is what the size zero has for a seed. -/
theorem sizeSeed_zero (seed : UInt64) : sizeSeed seed 0 = seed := by
  rw [sizeSeed, UInt64.zero_mul, UInt64.xor_zero]

/-- Whatever the seed of a run is: the streams of two sizes have the same seed only if the sizes
are the same, and the stream of a size has the seed of the run, from which the base factor is
drawn, only if the size is zero. -/
theorem sizeSeed_separates (seed : UInt64) :
    (∀ size other, sizeSeed seed size = sizeSeed seed other ↔ size = other) ∧
      ∀ size, sizeSeed seed size = seed ↔ size = 0 := by
  have separates : ∀ size other, sizeSeed seed size = sizeSeed seed other ↔ size = other := by
    intro size other
    refine ⟨fun sameSeed => ?_, congrArg (sizeSeed seed)⟩
    rw [← sizeOfSeed_sizeSeed seed size, sameSeed, sizeOfSeed_sizeSeed]
  refine ⟨separates, fun size => ?_⟩
  calc sizeSeed seed size = seed
      ↔ sizeSeed seed size = sizeSeed seed 0 := by rw [sizeSeed_zero]
    _ ↔ size = 0 := separates size 0

end Sampling

/-! ## Samples size by size -/

/-- Whether a size does not come after another. -/
def Sampling.inOrder (left right : Nat) : Bool :=
  left ≤ right

namespace Sampling

/-- The sizes that are not abandoned, in ascending order, each as often as it was asked
for. -/
def keptSizes {α : Type} (model : CostModel α) (sizes : List Nat) : List Nat :=
  (sizes.filter fun size => !model.stalls size).mergeSort inOrder

theorem length_keptSizes {α : Type} (model : CostModel α) (sizes : List Nat) :
    (keptSizes model sizes).length = sizes.countP fun size => !model.stalls size := by
  rw [keptSizes, List.length_mergeSort, List.countP_eq_length_filter]

theorem keptSizes_pairwise {α : Type} (model : CostModel α) (sizes : List Nat) :
    (keptSizes model sizes).Pairwise (· ≤ ·) := by
  have sorted : (keptSizes model sizes).Pairwise fun left right => inOrder left right = true := by
    apply List.pairwise_mergeSort
    · intro left middle right
      simp only [inOrder, decide_eq_true_eq]
      exact Nat.le_trans
    · intro left right
      simp only [inOrder, Bool.or_eq_true, decide_eq_true_eq]
      exact Nat.le_total left right
  exact sorted.imp decide_eq_true_iff.mp

/-- Sizes that ascend need no sorting. -/
theorem keptSizes_of_ascending {α : Type} {model : CostModel α} {sizes : List Nat}
    (ascending : sizes.Pairwise (· < ·)) :
    keptSizes model sizes = sizes.filter fun size => !model.stalls size := by
  apply List.mergeSort_of_pairwise
  exact (ascending.filter _).imp fun isLess => decide_eq_true (Nat.le_of_lt isLess)

variable {α : Type} [Scalar α]

/-- The sample of a size that is not abandoned: the mean cost of the iterations that are due
at the size, drawn one after another from the stream of that size alone. -/
def sampleAt (model : CostModel α) (profile : CostProfile) (seed : UInt64) (size : Nat) :
    CostSample α :=
  let stream := RandomStream.ofSeed (sizeSeed seed size.toUInt64)
  let total := totalCost model profile size (iterationsFor size) stream 0.0
  ⟨size, total / Scalar.ofCount (iterationsFor size), iterationsFor size,
    model.memory profile size⟩

variable (model : CostModel α) (profile : CostProfile) (seed : UInt64)

theorem measure?_eq (size : Nat) :
    measure? model profile seed size =
      if model.stalls size then none else some (sampleAt model profile seed size) :=
  rfl

/-- What was measured has one sample for each kept size, in the order of the request. -/
theorem filterMap_measure? (sizes : List Nat) :
    (sizes.map (measure? model profile seed)).filterMap id =
      (sizes.filter fun size => !model.stalls size).map (sampleAt model profile seed) := by
  induction sizes with
  | nil => rfl
  | cons size rest inductionHypothesis =>
      rw [List.map_cons, measure?_eq]
      cases stalls : model.stalls size with
      | true => simpa [stalls] using inductionHypothesis
      | false => simpa [stalls] using inductionHypothesis

/-- Sorting samples of sizes is sampling the sorted sizes: samples of one size are all the
same, so no order among them can be told from another. -/
theorem sortedBySize_map_sampleAt (sizes : List Nat) :
    CostSample.sortedBySize (sizes.map (sampleAt model profile seed)) =
      (sizes.mergeSort inOrder).map (sampleAt model profile seed) := by
  have sameOrder : ∀ left ∈ sizes, ∀ right ∈ sizes,
      inOrder left right = CostSample.sizeLE (sampleAt model profile seed left)
        (sampleAt model profile seed right) :=
    fun _ _ _ _ => rfl
  exact (List.map_mergeSort sameOrder).symm

theorem any_isNone_measure? (sizes : List Nat) :
    (sizes.map (measure? model profile seed)).any Option.isNone = sizes.any model.stalls := by
  rw [List.any_map]
  congr 1
  funext size
  rw [Function.comp_apply, measure?_eq]
  cases model.stalls size <;> rfl

/-- The outcome of sampling depends on the sizes through those that are kept and whether
some are not. -/
theorem sample_eq (sizes : List Nat) :
    sample model profile seed sizes =
      let kept := keptSizes model sizes
      if kept.length < CostSample.fewest then .error kept.length
      else .ok ⟨kept.map (sampleAt model profile seed), sizes.any model.stalls⟩ := by
  simp only [sample, filterMap_measure?, List.length_map, sortedBySize_map_sampleAt,
    any_isNone_measure?, keptSizes, List.length_mergeSort]

/-- What sampling gives, if it gives anything. -/
theorem sample_ok {model : CostModel α} {profile : CostProfile} {seed : UInt64}
    {sizes : List Nat} {outcome : SamplingOutcome α}
    (enough : sample model profile seed sizes = .ok outcome) :
    CostSample.fewest ≤ (keptSizes model sizes).length ∧
      outcome = ⟨(keptSizes model sizes).map (sampleAt model profile seed),
        sizes.any model.stalls⟩ := by
  rw [sample_eq] at enough
  simp only at enough
  split at enough
  · contradiction
  · next notFewer => exact ⟨Nat.not_lt.mp notFewer, (Except.ok.inj enough).symm⟩

end Sampling

/-! ## Schedules

Whether a size is abandoned is fixed by the size; at which of its iterations that happens
is not. -/

namespace Sampling

/-- How far the measurement of a size is. -/
inductive Progress (α : Type) where
  | running (left : Nat) (stream : RandomStream) (total : α)
  | abandoned

structure Job (α : Type) where
  size : Nat
  progress : Progress α

variable {α : Type} [Scalar α]

namespace Job

/-- The measurement of a size before its first iteration. -/
def start (seed : UInt64) (size : Nat) : Job α :=
  ⟨size, .running (iterationsFor size) (.ofSeed (sizeSeed seed size.toUInt64)) 0.0⟩

def isOver (job : Job α) : Bool :=
  match job.progress with
  | .running left _ _ => left = 0
  | .abandoned => true

/-- The iterations that a measurement can still take. -/
def work (job : Job α) : Nat :=
  match job.progress with
  | .running left _ _ => left
  | .abandoned => 0

/-- What a measurement that is over leaves. -/
def result? (model : CostModel α) (profile : CostProfile) (job : Job α) :
    Option (CostSample α) :=
  match job.progress with
  | .running _ _ total =>
      some ⟨job.size, total / Scalar.ofCount (iterationsFor job.size), iterationsFor job.size,
        model.memory profile job.size⟩
  | .abandoned => none

/-- One iteration, or the end of the time before one.  A size that stalls never comes to its
last iteration, and one that does not is never abandoned. -/
inductive Step (model : CostModel α) (profile : CostProfile) : Job α → Job α → Prop where
  | iterate {size left : Nat} {stream : RandomStream} {total : α}
      (inTime : model.stalls size = true → 0 < left) :
      Step model profile ⟨size, .running (left + 1) stream total⟩
        ⟨size, .running left (model.iterationCost profile size stream).2
          (total + (model.iterationCost profile size stream).1)⟩
  | abandon {size left : Nat} {stream : RandomStream} {total : α}
      (stalls : model.stalls size = true) :
      Step model profile ⟨size, .running (left + 1) stream total⟩ ⟨size, .abandoned⟩

/-- What a measurement of a size has yet to add leads to the total of the size, and it has
something to add as long as the size may be abandoned. -/
def OnTheWay (model : CostModel α) (profile : CostProfile) (seed : UInt64) (size : Nat)
    (job : Job α) : Prop :=
  job.size = size ∧
    match job.progress with
    | .running left stream total =>
        (model.stalls size = true → 0 < left) ∧
          totalCost model profile size left stream total =
            totalCost model profile size (iterationsFor size)
              (.ofSeed (sizeSeed seed size.toUInt64)) 0.0
    | .abandoned => model.stalls size = true

variable {model : CostModel α} {profile : CostProfile} {seed : UInt64}

theorem work_lt_of_step {job next : Job α} (step : Step model profile job next) :
    next.work < job.work := by
  cases step with
  | iterate inTime => exact Nat.lt_succ_self _
  | abandon stalls => exact Nat.succ_pos _

theorem exists_step (model : CostModel α) (profile : CostProfile) {job : Job α}
    (underWay : job.isOver = false) : ∃ next, Step model profile job next := by
  obtain ⟨size, progress⟩ := job
  cases progress with
  | abandoned => simp [isOver] at underWay
  | running left stream total =>
      cases left with
      | zero => simp [isOver] at underWay
      | succ left =>
          cases stalls : model.stalls size with
          | true => exact ⟨_, .abandon stalls⟩
          | false => exact ⟨_, .iterate fun isTrue => by simp [stalls] at isTrue⟩

theorem start_onTheWay (size : Nat) : OnTheWay model profile seed size (start seed size) := by
  have isSome : 0 < iterationsFor size := by
    unfold iterationsFor
    repeat' split
    all_goals omega
  exact ⟨rfl, fun _ => isSome, rfl⟩

theorem OnTheWay.step {size : Nat} {job next : Job α}
    (onTheWay : OnTheWay model profile seed size job) (step : Step model profile job next) :
    OnTheWay model profile seed size next := by
  cases step with
  | iterate inTime =>
      obtain ⟨rfl, -, sameTotal⟩ := onTheWay
      exact ⟨rfl, inTime, sameTotal⟩
  | abandon stalls =>
      obtain ⟨rfl, -⟩ := onTheWay
      exact ⟨rfl, stalls⟩

/-- A measurement that is over leaves what the size gives by itself. -/
theorem OnTheWay.result? {size : Nat} {job : Job α}
    (onTheWay : OnTheWay model profile seed size job) (isOver : job.isOver = true) :
    job.result? model profile = measure? model profile seed size := by
  obtain ⟨jobSize, progress⟩ := job
  obtain ⟨rfl, rest⟩ := onTheWay
  cases progress with
  | abandoned =>
      have stalls : model.stalls jobSize = true := rest
      rw [measure?_eq, if_pos stalls]
      rfl
  | running left stream total =>
      obtain ⟨inTime, sameTotal⟩ := rest
      obtain rfl : left = 0 := by simpa [Job.isOver] using isOver
      have isKept : ¬model.stalls jobSize = true := fun stalls =>
        absurd (inTime stalls) (Nat.lt_irrefl 0)
      have totalIs : total = totalCost model profile jobSize (iterationsFor jobSize)
          (.ofSeed (sizeSeed seed jobSize.toUInt64)) 0.0 := sameTotal
      rw [measure?_eq, if_neg isKept, sampleAt, ← totalIs]
      rfl

end Job

/-- One step of one of several measurements. -/
inductive Step (model : CostModel α) (profile : CostProfile) :
    List (Job α) → List (Job α) → Prop where
  | here {job next : Job α} {rest : List (Job α)} (step : job.Step model profile next) :
      Step model profile (job :: rest) (next :: rest)
  | there {job : Job α} {rest nexts : List (Job α)} (step : Step model profile rest nexts) :
      Step model profile (job :: rest) (job :: nexts)

/-- Any number of steps, of any of the measurements in any order. -/
def Reaches (model : CostModel α) (profile : CostProfile) (jobs ends : List (Job α)) : Prop :=
  Relation.ReflTransGen (Step model profile) jobs ends

/-- The iterations that several measurements can still take together. -/
def workAll : List (Job α) → Nat
  | [] => 0
  | job :: rest => job.work + workAll rest

def allOver (jobs : List (Job α)) : Bool :=
  jobs.all Job.isOver

/-- The outcome of what was measured, however it came to be. -/
def gather (measured : List (Option (CostSample α))) : Except Nat (SamplingOutcome α) :=
  let samples := measured.filterMap id
  if samples.length < CostSample.fewest then .error samples.length
  else .ok ⟨CostSample.sortedBySize samples, measured.any Option.isNone⟩

section Runs

variable {model : CostModel α} {profile : CostProfile} {seed : UInt64}

theorem sample_eq_gather (sizes : List Nat) :
    sample model profile seed sizes = gather (sizes.map (measure? model profile seed)) :=
  rfl

/-! ### Every order of steps comes to an end -/

theorem work_lt_of_step {jobs nexts : List (Job α)} (step : Step model profile jobs nexts) :
    workAll nexts < workAll jobs := by
  induction step with
  | here step => exact Nat.add_lt_add_right (Job.work_lt_of_step step) _
  | there step inductionHypothesis => exact Nat.add_lt_add_left inductionHypothesis _

theorem exists_step {jobs : List (Job α)} (underWay : allOver jobs = false) :
    ∃ nexts, Step model profile jobs nexts := by
  induction jobs with
  | nil => simp [allOver] at underWay
  | cons job rest inductionHypothesis =>
      cases isOver : job.isOver with
      | false =>
          obtain ⟨next, step⟩ := Job.exists_step model profile isOver
          exact ⟨_, .here step⟩
      | true =>
          have restUnderWay : allOver rest = false := by
            simpa [allOver, isOver] using underWay
          obtain ⟨nexts, step⟩ := inductionHypothesis restUnderWay
          exact ⟨_, .there step⟩

/-- From wherever the measurements are, they can be brought to their end. -/
theorem exists_reaches_allOver (jobs : List (Job α)) :
    ∃ ends, Reaches model profile jobs ends ∧ allOver ends = true := by
  induction bound : workAll jobs using Nat.strongRecOn generalizing jobs with
  | ind work inductionHypothesis =>
      subst bound
      cases ended : allOver jobs with
      | true => exact ⟨jobs, .refl, ended⟩
      | false =>
          obtain ⟨nexts, step⟩ := exists_step ended
          obtain ⟨ends, reaches, endsOver⟩ :=
            inductionHypothesis _ (work_lt_of_step step) nexts rfl
          exact ⟨ends, .head step reaches, endsOver⟩

/-! ### The end does not depend on the order -/

theorem onTheWay_of_step {sizes : List Nat} {jobs nexts : List (Job α)}
    (step : Step model profile jobs nexts)
    (onTheWay : List.Forall₂ (Job.OnTheWay model profile seed) sizes jobs) :
    List.Forall₂ (Job.OnTheWay model profile seed) sizes nexts := by
  induction step generalizing sizes with
  | here step =>
      cases onTheWay with
      | cons head tail => exact .cons (head.step step) tail
  | there step inductionHypothesis =>
      cases onTheWay with
      | cons head tail => exact .cons head (inductionHypothesis tail)

theorem onTheWay_of_reaches {sizes : List Nat} {jobs : List (Job α)}
    (reaches : Reaches model profile (sizes.map (Job.start seed)) jobs) :
    List.Forall₂ (Job.OnTheWay model profile seed) sizes jobs := by
  induction reaches with
  | refl =>
      rw [List.forall₂_map_right_iff]
      exact List.forall₂_same.mpr fun size _ => Job.start_onTheWay size
  | tail _ step inductionHypothesis => exact onTheWay_of_step step inductionHypothesis

theorem map_result?_of_allOver {sizes : List Nat} {jobs : List (Job α)}
    (onTheWay : List.Forall₂ (Job.OnTheWay model profile seed) sizes jobs)
    (ended : allOver jobs = true) :
    jobs.map (Job.result? model profile) = sizes.map (measure? model profile seed) := by
  induction onTheWay with
  | nil => rfl
  | cons head tail inductionHypothesis =>
      obtain ⟨headOver, tailOver⟩ := Bool.and_eq_true_iff.mp ended
      rw [List.map_cons, List.map_cons, head.result? headOver, inductionHypothesis tailOver]

/-- Wherever the measurements of some sizes come to their end, the outcome is the one of
measuring the sizes one after another. -/
theorem gather_of_reaches {sizes : List Nat} {jobs : List (Job α)}
    (reaches : Reaches model profile (sizes.map (Job.start seed)) jobs)
    (ended : allOver jobs = true) :
    gather (jobs.map (Job.result? model profile)) = sample model profile seed sizes := by
  rw [map_result?_of_allOver (onTheWay_of_reaches reaches) ended, sample_eq_gather]

end Runs

/-! ### What sampling gives -/

/-- Sampling gives, in the order of their sizes, the sample of each size as often as the size
is asked for and not abandoned.  That sample is a function of the size alone, and no order in
which iterations are run makes a difference. -/
theorem sample_sizewise (model : CostModel α) (profile : CostProfile) (seed : UInt64)
    (sizes : List Nat) :
    let kept := sizes.filter fun size => !model.stalls size
    (∀ count, sample model profile seed sizes = .error count ↔
      count = kept.length ∧ kept.length < 3) ∧
    (3 ≤ kept.length → ∃ outcome, sample model profile seed sizes = .ok outcome ∧
      outcome.samples.Pairwise (fun left right => left.size ≤ right.size) ∧
      outcome.samples.Perm (kept.map (sampleAt model profile seed)) ∧
      (outcome.truncated = true ↔ ∃ size ∈ sizes, model.stalls size = true)) ∧
    ∀ jobs, Reaches model profile (sizes.map (Job.start seed)) jobs →
      (∃ ends, Reaches model profile jobs ends ∧ allOver ends = true) ∧
      (allOver jobs = true →
        gather (jobs.map (Job.result? model profile)) = sample model profile seed sizes) := by
  intro kept
  have keptLength : (keptSizes model sizes).length = kept.length := List.length_mergeSort _
  refine ⟨fun count => ?_, fun enough => ?_, fun jobs reaches =>
    ⟨exists_reaches_allOver jobs, gather_of_reaches reaches⟩⟩
  · simp only [sample_eq, keptLength, CostSample.fewest]
    by_cases tooFew : kept.length < 3
    · rw [if_pos tooFew, Except.error.injEq]
      exact ⟨fun isCount => ⟨isCount.symm, tooFew⟩, fun isCount => isCount.1.symm⟩
    · rw [if_neg tooFew]
      exact ⟨fun isError => by contradiction, fun isCount => absurd isCount.2 tooFew⟩
  · refine ⟨⟨(keptSizes model sizes).map (sampleAt model profile seed),
      sizes.any model.stalls⟩, ?_, ?_, ?_, List.any_eq_true⟩
    · simp only [sample_eq, keptLength, CostSample.fewest]
      rw [if_neg (Nat.not_lt.mpr enough)]
    · exact List.pairwise_map.mpr (keptSizes_pairwise model sizes)
    · exact (List.mergeSort_perm _ _).map _

/-- Sizes out of order, one of them twice, and one that is abandoned. -/
theorem sample_sizewise_stalling :
    let model : CostModel Float := .table [(10, 3.0)] none (some 40)
    let profile : CostProfile := ⟨.quadratic, .constant⟩
    ∃ outcome, sample model profile 7 [30, 10, 40, 10, 20] = .ok outcome ∧
      outcome.samples.Pairwise (fun left right => left.size ≤ right.size) ∧
      outcome.samples.Perm ([30, 10, 10, 20].map (sampleAt model profile 7)) ∧
      (outcome.truncated = true ↔ ∃ size ∈ [30, 10, 40, 10, 20], model.stalls size = true) :=
  (sample_sizewise (CostModel.table [(10, 3.0)] none (some 40)) ⟨.quadratic, .constant⟩ 7
    [30, 10, 40, 10, 20]).2.1 (by decide)

end Sampling

end GrowthEstimate
